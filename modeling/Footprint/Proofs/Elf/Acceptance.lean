import Footprint.Elf.Image
import Footprint.Proofs.Elf.Fields
import Footprint.Proofs.Elf.Tables
import Footprint.Proofs.Elf.Watched

/-! Which bytes are an image, and what is said of those that are not. -/

namespace Footprint.Elf

variable {α β : Type}

/-- An outcome that is a value where a condition holds, and a malformation where it does not. -/
structure Settled (outcome : Except Error α) (sound : Prop) (value : α) : Prop where
  accepts : sound → outcome = .ok value
  refuses : ¬ sound → ∃ cause, outcome = .error (.format cause)

namespace Settled

variable {sound good : Prop} {value : α}

/-- A value that is already known is never refused. -/
theorem known (value : α) : Settled (.ok value) True value :=
  ⟨fun _ => rfl, fun refused => absurd trivial refused⟩

/-- A malformation is no value. -/
theorem refused (cause : Malformation) (value : α) :
    Settled (.error (.format cause)) False value :=
  ⟨False.elim, fun _ => ⟨cause, rfl⟩⟩

/-- A condition may be said in other words. -/
theorem congr {outcome : Except Error α} (settled : Settled outcome sound value)
    (same : sound ↔ good) : Settled outcome good value :=
  propext same ▸ settled

/-- Two outcomes in a row are a value if both are. -/
theorem bind {first : Except Error α} {use : α → Except Error β} {result : β}
    (early : Settled first sound value) (late : sound → Settled (use value) good result) :
    Settled (first >>= use) (sound ∧ good) result where
  accepts := by
    rintro ⟨holds, follows⟩
    rw [early.accepts holds]
    exact (late holds).accepts follows
  refuses := by
    intro fails
    by_cases holds : sound
    · rw [early.accepts holds]
      exact (late holds).refuses fun follows => fails ⟨holds, follows⟩
    · obtain ⟨cause, failed⟩ := early.refuses holds
      exact ⟨cause, by rw [failed]; rfl⟩

/-- A value that another one always leads to is there if that one is. -/
theorem leads {first : Except Error α} {use : α → Except Error β} {result : β}
    (early : Settled first sound value) (always : use value = .ok result) :
    Settled (first >>= use) sound result := by
  have joined : Settled (first >>= use) (sound ∧ True) result :=
    early.bind fun _ => always ▸ known result
  exact joined.congr (by simp)

/-- Changing a value does not change whether it is there. -/
theorem map {first : Except Error α} (early : Settled first sound value) (change : α → β) :
    Settled (first >>= fun value => pure (change value)) sound (change value) :=
  early.leads rfl

/-- What comes behind a check is a value if the check lets it pass. -/
theorem guarded {bad : Prop} [Decidable bad] {cause : Malformation} {rest : Unit → Except Error α}
    (late : ¬ bad → Settled (rest ()) good value) :
    Settled (if bad then (throw (.format cause) : Except Error Unit) >>= rest else rest ())
      (¬ bad ∧ good) value := by
  by_cases stops : bad
  · rw [if_pos stops]
    exact (refused cause value).congr (by simp [stops])
  · rw [if_neg stops]
    exact (late stops).congr (by simp [stops])

/-- Outcomes over a list are values if each of them is. -/
theorem mapM {use : α → Except Error β} {sound : α → Prop} {result : α → β} (values : List α)
    (each : ∀ value ∈ values, Settled (use value) (sound value) (result value)) :
    Settled (values.mapM use) (∀ value ∈ values, sound value) (values.map result) := by
  -- The first outcome is settled before the others are looked at.
  induction values with
  | nil => exact (known []).congr (by simp)
  | cons value rest ih =>
    obtain ⟨first, others⟩ := List.forall_mem_cons.mp each
    rw [List.mapM_cons, List.map_cons]
    exact (first.bind fun _ => (ih others).map (result value :: ·)).congr List.forall_mem_cons.symm

end Settled

/-- A value of an image's tables is there if its bytes are. -/
theorem settled_valueAt {read : Read α} {width : Nat} {value : Bytes → Nat → α}
    (spans : read.Spans width value) (data : Bytes) (offset : Nat) :
    Settled (valueAt data offset read) (offset + width ≤ data.size) (value data offset) where
  accepts := by
    intro room
    exact valueAt_of_ok (Nat.le_of_add_right_le room) (spans.enough data offset room)
  refuses := by
    intro lacking
    rw [valueAt]
    by_cases inside : offset ≤ data.size
    · obtain ⟨fault, after, failed⟩ := spans.short data offset inside (Nat.lt_of_not_le lacking)
      rw [if_pos inside, failed]
      exact ⟨_, rfl⟩
    · rw [if_neg inside]
      exact ⟨_, rfl⟩

/-- The fields behind the class and the encoding are there if the file header is. -/
theorem readFields_of_room (tables : Tables) (encoding : UInt8)
    (room : tables.class_.fileHeaderSize ≤ tables.data.size) :
    ∃ file, tables.Tells file ∧
      valueAt tables.data 6 (Header.readFields tables.class_ encoding) = .ok file := by
  have least : identificationSize ≤ tables.class_.fileHeaderSize := by
    cases tables.class_ <;> decide
  have long : identificationSize ≤ tables.data.size := Nat.le_trans least room
  have sixteen : identificationSize = 16 := rfl
  -- Three single bytes are read before the place of the numbers is sought.
  have version := Read.spans_byte.enough tables.data 6 (by omega)
  have osAbi := Read.spans_byte.enough tables.data 7 (by omega)
  have abiVersion := Read.spans_byte.enough tables.data 8 (by omega)
  have sought : Read.seek identificationSize ⟨tables.data, 9⟩ =
      .ok () ⟨tables.data, identificationSize⟩ := by
    rw [Read.seek, if_pos long]
  have numbers := (@spans_numbers tables.class_ encoding
    (.ofNat (tables.data.number 6 1)) (.ofNat (tables.data.number 7 1))
    (.ofNat (tables.data.number 8 1))).enough tables.data identificationSize (by omega)
  obtain ⟨file, after, tells, fields⟩ : ∃ file after, tables.Tells file ∧
      Header.readFields tables.class_ encoding ⟨tables.data, 6⟩ = .ok file after := by
    rw [Header.readFields, Read.bind_of_ok version, Read.bind_of_ok osAbi,
      Read.bind_of_ok abiVersion, Read.bind_of_ok sought]
    exact ⟨_, _, tables.tells_told encoding _ _ _, numbers⟩
  exact ⟨file, tells, valueAt_of_ok (by omega) fields⟩

/-- Whether an image starts as it must, and has room for the file header of its class. -/
structure Tables.Identified (tables : Tables) : Prop where
  begins : (tables.data.slice 0 4).toList = magic
  class_ : tables.data.number 4 1 = tables.class_.byte.toNat
  encoding : tables.data.number 5 1 = 1
  room : tables.class_.fileHeaderSize ≤ tables.data.size

/-- The encoding of an image is told by a number of one byte. -/
theorem ofNat_number_eq_littleEndian (data : Bytes) :
    UInt8.ofNat (data.number 5 1) = littleEndian ↔ data.number 5 1 = 1 := by
  have narrow : data.number 5 1 < 2 ^ 8 := data.number_lt 5 1
  rw [← UInt8.toNat_inj, UInt8.toNat_ofNat', Nat.mod_eq_of_lt narrow]
  rfl

/-- The file header of a known class is there if the image starts as it must. -/
theorem settled_header (tables : Tables)
    (told : tables.data.number 4 1 = tables.class_.byte.toNat) :
    ∃ file, (tables.Identified → tables.Tells file) ∧
      Settled (Header.parse tables.data) tables.Identified file := by
  have classByte : UInt8.ofNat (tables.data.number 4 1) = tables.class_.byte := by
    rw [told, UInt8.ofNat_toNat]
  have sixth : 6 ≤ tables.class_.fileHeaderSize := by cases tables.class_ <;> decide
  -- Where the header has no room, nothing is told of it.
  obtain ⟨file, fields⟩ : ∃ file, tables.class_.fileHeaderSize ≤ tables.data.size →
      tables.Tells file ∧
        valueAt tables.data 6 (Header.readFields tables.class_ littleEndian) = .ok file := by
    by_cases room : tables.class_.fileHeaderSize ≤ tables.data.size
    · obtain ⟨file, found⟩ := readFields_of_room tables littleEndian room
      exact ⟨file, fun _ => found⟩
    · exact ⟨.told tables.class_ 0 0 0 0 #[] 0, fun enough => absurd enough room⟩
  refine ⟨file, fun identified => (fields identified.room).1, ?_⟩
  have checked : Settled (Header.parse tables.data)
      (¬ (tables.data.slice 0 4).toList ≠ magic ∧ 4 + 1 ≤ tables.data.size ∧
        5 + 1 ≤ tables.data.size ∧ ¬ UInt8.ofNat (tables.data.number 5 1) ≠ littleEndian ∧
        ¬ tables.data.size < tables.class_.fileHeaderSize ∧ True) file := by
    simp only [Header.parse]
    refine .guarded fun _ => (settled_valueAt Read.spans_byte tables.data 4).bind fun _ => ?_
    simp only [classByte, Class.ofByte?_byte, pure_bind]
    refine (settled_valueAt Read.spans_byte tables.data 5).bind fun _ => ?_
    refine .guarded fun encoded => .guarded fun room => ?_
    rw [Decidable.not_not.mp encoded, (fields (Nat.le_of_not_lt room)).2]
    exact .known file
  refine checked.congr ⟨?_, ?_⟩
  · rintro ⟨begins, _, _, encoded, room, _⟩
    exact ⟨Decidable.not_not.mp begins, told,
      (ofNat_number_eq_littleEndian _).mp (Decidable.not_not.mp encoded), Nat.le_of_not_lt room⟩
  · rintro ⟨begins, _, encoded, room⟩
    exact ⟨not_not_intro begins, by omega, by omega,
      not_not_intro ((ofNat_number_eq_littleEndian _).mpr encoded), Nat.not_lt_of_le room, trivial⟩

/-- An image of no known class is refused. -/
theorem refuses_header {data : Bytes}
    (unknown : ∀ class_ : Class, data.number 4 1 ≠ class_.byte.toNat) (file : Header) :
    Settled (Header.parse data) False file := by
  have none : Class.ofByte? (UInt8.ofNat (data.number 4 1)) = none := by
    have narrow : data.number 4 1 < 2 ^ 8 := data.number_lt 4 1
    have first := unknown .elf32
    have second := unknown .elf64
    simp only [Class.byte, UInt8.reduceToNat] at first second
    simp only [Class.ofByte?, ← UInt8.toNat_inj, UInt8.toNat_ofNat', Nat.mod_eq_of_lt narrow]
    simp [first, second]
  have checked : Settled (Header.parse data)
      (¬ (data.slice 0 4).toList ≠ magic ∧ 4 + 1 ≤ data.size ∧ False) file := by
    simp only [Header.parse]
    refine .guarded fun _ => (settled_valueAt Read.spans_byte data 4).bind fun _ => ?_
    simp only [none]
    exact .refused _ file
  exact checked.congr (by simp)

variable {tables : Tables} {file : Header}

/-- A section header is there if the place that the file header says has room for it. -/
theorem settled_sectionHeader (tells : tables.Tells file) (bounded : tables.data.size < 2 ^ 64)
    (index : Nat) :
    Settled (SectionHeader.readAt tables.data file index)
      (tables.place index + tables.class_.sectionHeaderSize ≤ tables.data.size)
      (tables.header index) := by
  simp only [SectionHeader.readAt, tells.start, tells.stride, tells.class_]
  rw [← Tables.place]
  by_cases fits : tables.place index < UInt64.size
  · rw [if_pos fits]
    exact settled_valueAt spans_sectionHeader tables.data (tables.place index)
  · -- A place that is no number of eight bytes lies past the end of any file.
    have past : ¬ tables.place index + tables.class_.sectionHeaderSize ≤ tables.data.size := by
      have wide : UInt64.size = 2 ^ 64 := rfl
      omega
    rw [if_neg fits]
    exact (Settled.refused _ _).congr (by simp [past])

/-- The section headers are there if each of them has room and they do not overlap. -/
theorem settled_sectionHeaders (tells : tables.Tells file)
    (bounded : tables.data.size < 2 ^ 64) :
    Settled (SectionHeader.readAll tables.data file)
      (tables.count = 0 ∨ tables.class_.sectionHeaderSize ≤ tables.stride ∧
        ∀ index < tables.count,
          tables.place index + tables.class_.sectionHeaderSize ≤ tables.data.size)
      tables.headers := by
  have empty : file.sectionHeaderCount = 0 ↔ tables.count = 0 := by
    rw [← tells.count, ← UInt16.toNat_inj]
    rfl
  simp only [SectionHeader.readAll, tells.count, tells.stride, tells.class_]
  by_cases none : tables.count = 0
  · rw [if_pos (empty.mpr none)]
    have nothing : tables.headers = #[] := by simp [Tables.headers, none]
    rw [nothing]
    exact (Settled.known #[]).congr (by simp [none])
  · rw [if_neg (mt empty.mp none)]
    have all := (Settled.mapM (List.range tables.count) fun index _ =>
      settled_sectionHeader tells bounded index).map List.toArray
    exact (Settled.guarded fun _ => all).congr (by simp [none])

/-- Whether the contents of a section lie inside a file. -/
def SectionHeader.Inside (header : SectionHeader) (data : Bytes) : Prop :=
  header.offset.toNat + header.size.toNat ≤ data.size

/-- The contents of a section are there if they lie inside the file. -/
theorem contents?_of_inside {header : SectionHeader} {data : Bytes} (inside : header.Inside data) :
    ∃ contents, header.contents? data = some contents :=
  ⟨_, if_pos inside⟩

/-- Contents that do not lie inside the file are not there. -/
theorem contents?_of_outside {header : SectionHeader} {data : Bytes}
    (outside : ¬ header.Inside data) : header.contents? data = none :=
  if_neg outside

/-- Whether the section for the names, where there is one, lies inside a file. -/
def NamesInside (data : Bytes) (file : Header) (headers : Array SectionHeader) : Prop :=
  ∀ table, headers[file.nameTable.toNat]? = some table → table.Inside data

/-- The names of sections are there if the section for them lies inside the file. -/
theorem settled_sectionNames (data : Bytes) (file : Header) (headers : Array SectionHeader) :
    ∃ names, Settled (sectionNames data file headers) (NamesInside data file headers) names := by
  rw [sectionNames, NamesInside]
  cases found : headers[file.nameTable.toNat]? with
  | none => exact ⟨_, (Settled.known _).congr (by simp)⟩
  | some table =>
    by_cases inside : table.Inside data
    · obtain ⟨contents, there⟩ := contents?_of_inside inside
      simp only [there]
      exact ⟨_, (Settled.known _).congr (by simp [inside])⟩
    · simp only [contents?_of_outside inside]
      exact ⟨#[], (Settled.refused _ _).congr (by simp [inside])⟩

/-- Whether the first symbol table, where there is one, and the section that it is linked to lie
inside a file. -/
def SymbolsInside (data : Bytes) (headers : Array SectionHeader) : Prop :=
  ∀ symbols, headers.find? SectionHeader.isSymbolTable = some symbols →
    symbols.Inside data ∧
      ∃ linked, headers[symbols.link.toNat]? = some linked ∧ linked.Inside data

/-- The first symbol table is there if it and the section that it is linked to lie inside the
file. -/
theorem settled_symbolTable (data : Bytes) (headers : Array SectionHeader) :
    ∃ table?, Settled (symbolTable? data headers) (SymbolsInside data headers) table? := by
  simp only [symbolTable?, SymbolsInside]
  cases headers.find? SectionHeader.isSymbolTable with
  | none => exact ⟨_, (Settled.known none).congr (by simp)⟩
  | some symbols =>
    by_cases inside : symbols.Inside data
    · obtain ⟨contents, there⟩ := contents?_of_inside inside
      simp only [there]
      cases target : headers[symbols.link.toNat]? with
      | none => exact ⟨none, (Settled.refused _ _).congr (by simp [target])⟩
      | some linked =>
        by_cases behind : linked.Inside data
        · obtain ⟨strings, named⟩ := contents?_of_inside behind
          simp only [named]
          exact ⟨_, (Settled.known _).congr (by simp [inside, target, behind])⟩
        · simp only [contents?_of_outside behind]
          exact ⟨none, (Settled.refused _ _).congr (by simp [target, behind])⟩
    · simp only [contents?_of_outside inside]
      exact ⟨none, (Settled.refused _ _).congr (by simp [inside])⟩

/-- The whole entries of a symbol table can all be read, each as its bytes tell it. -/
theorem entries_of_table (class_ : Class) (table : Bytes) :
    SymbolEntry.readAll class_ table =
      .ok ((List.range (table.size / class_.symbolEntrySize)).map fun index =>
        .told class_ table (index * class_.symbolEntrySize)) := by
  have each : ∀ index ∈ List.range (table.size / class_.symbolEntrySize),
      Settled (SymbolEntry.readAt class_ table index) True
        (.told class_ table (index * class_.symbolEntrySize)) := by
    intro index member
    -- A whole entry ends inside the table.
    have stop : (index + 1) * class_.symbolEntrySize ≤ table.size :=
      Nat.le_trans (Nat.mul_le_mul_right _ (List.mem_range.mp member)) (Nat.div_mul_le_self _ _)
    rw [Nat.succ_mul] at stop
    have alone : SymbolEntry.told class_ (table.slice (index * class_.symbolEntrySize)
        (index * class_.symbolEntrySize + class_.symbolEntrySize)) 0 =
          .told class_ table (index * class_.symbolEntrySize) :=
      SymbolEntry.told_slice (by omega)
    have whole : 0 + class_.symbolEntrySize ≤ (table.slice (index * class_.symbolEntrySize)
        (index * class_.symbolEntrySize + class_.symbolEntrySize)).size := by
      rw [Bytes.slice, Array.size_extract]
      omega
    rw [SymbolEntry.readAt, Cursor.ofBytes, spans_symbolEntry.enough _ 0 whole, alone]
    exact .known _
  exact (Settled.mapM _ each).accepts fun _ _ => trivial

/-- The symbols are there if their table is. -/
theorem settled_symbols (data : Bytes) (file : Header) (headers : Array SectionHeader)
    (names : Array String) :
    ∃ symbols, Settled (symbols? data file headers names) (SymbolsInside data headers)
      symbols := by
  obtain ⟨table?, settled⟩ := settled_symbolTable data headers
  cases table? with
  | none => exact ⟨none, settled.leads (by rfl)⟩
  | some tables =>
    exact ⟨_, settled.leads (by simp only [entries_of_table]; rfl)⟩

namespace Tables

variable (tables : Tables)

/-- The first section that holds symbols. -/
structure FirstSymbols (index : Nat) : Prop where
  below : index < tables.count
  here : tables.type index = 2 ∨ tables.type index = 11
  earlier : ∀ other < index, ¬ (tables.type other = 2 ∨ tables.type other = 11)

/-- No two sections are the first one. -/
theorem FirstSymbols.unique {tables : Tables} {index other : Nat} (first : tables.FirstSymbols index)
    (again : tables.FirstSymbols other) : index = other := by
  rcases Nat.lt_trichotomy index other with before | same | behind
  · exact absurd first.here (again.earlier index before)
  · exact same
  · exact absurd again.here (first.earlier other behind)

/-- Whether the bytes of an image hold all that its headers place in them, where every sum is one of
numbers without bounds. -/
structure Sound : Prop extends tables.Identified where
  headers : tables.count = 0 ∨ tables.class_.sectionHeaderSize ≤ tables.stride ∧
    ∀ index < tables.count,
      tables.place index + tables.class_.sectionHeaderSize ≤ tables.data.size
  names : tables.nameTable < tables.count → tables.stop tables.nameTable ≤ tables.data.size
  symbols : ∀ index, tables.FirstSymbols index →
    tables.stop index ≤ tables.data.size ∧ tables.link index < tables.count ∧
      tables.stop (tables.link index) ≤ tables.data.size

/-- The contents of a section lie inside the file if they end there. -/
theorem inside_header (index : Nat) :
    (tables.header index).Inside tables.data ↔ tables.stop index ≤ tables.data.size := by
  rw [SectionHeader.Inside, header_stop]

/-- The first header of a section that holds symbols stands at the first index of one. -/
theorem find?_headers {symbols : SectionHeader} :
    tables.headers.find? SectionHeader.isSymbolTable = some symbols ↔
      ∃ index, tables.FirstSymbols index ∧ tables.header index = symbols := by
  -- The search runs over the indices below the number of headers.
  rw [headers, List.find?_toArray, List.find?_map, Option.map_eq_some_iff]
  apply exists_congr
  intro index
  apply and_congr_left
  intro _
  simp only [List.find?_range_eq_some, Function.comp_apply, header_isSymbolTable, List.mem_range,
    Bool.not_eq_true', ← Bool.not_eq_true]
  constructor
  · intro first
    exact ⟨first.2.1, first.1, first.2.2⟩
  · intro first
    exact ⟨first.here, first.below, first.earlier⟩

/-- The section for the names lies inside the file if its end does. -/
theorem names_inside {file : Header} (tells : tables.Tells file) :
    NamesInside tables.data file tables.headers ↔
      (tables.nameTable < tables.count → tables.stop tables.nameTable ≤ tables.data.size) := by
  rw [NamesInside, tells.nameTable, getElem?_headers]
  by_cases below : tables.nameTable < tables.count
  · simp [below, inside_header]
  · simp [below]

/-- The first symbol table and the section that it is linked to lie inside the file if their ends
do. -/
theorem symbols_inside :
    SymbolsInside tables.data tables.headers ↔ ∀ index, tables.FirstSymbols index →
        tables.stop index ≤ tables.data.size ∧ tables.link index < tables.count ∧
          tables.stop (tables.link index) ≤ tables.data.size := by
  -- At any index, the linked section has a header only below their number.
  have each (index : Nat) : ((tables.header index).Inside tables.data ∧ ∃ linked,
        tables.headers[(tables.header index).link.toNat]? = some linked ∧
          linked.Inside tables.data) ↔
      tables.stop index ≤ tables.data.size ∧ tables.link index < tables.count ∧
        tables.stop (tables.link index) ≤ tables.data.size := by
    rw [inside_header, header_link, getElem?_headers]
    by_cases below : tables.link index < tables.count
    · simp [below, inside_header]
    · simp [below]
  constructor
  · intro inside index first
    exact (each index).mp (inside _ (tables.find?_headers.mpr ⟨index, first, rfl⟩))
  · intro inside symbols found
    obtain ⟨index, first, rfl⟩ := tables.find?_headers.mp found
    exact (each index).mpr (inside index first)

end Tables

/-- An image of a known class is accepted if its bytes hold all that its headers place in them. -/
theorem settled_parse (tables : Tables)
    (told : tables.data.number 4 1 = tables.class_.byte.toNat)
    (bounded : tables.data.size < 2 ^ 64) :
    ∃ image, Settled (Image.parse tables.data) tables.Sound image := by
  obtain ⟨file, tells, identified⟩ := settled_header tables told
  obtain ⟨names, named⟩ := settled_sectionNames tables.data file tables.headers
  obtain ⟨symbols?, listed⟩ := settled_symbols tables.data file tables.headers names
  let image : Image := ⟨tables.data, file, tables.headers, names, symbols?⟩
  have steps : Settled (Image.parse tables.data) _ image := identified.bind fun known =>
    (settled_sectionHeaders (tells known) bounded).bind fun _ => named.bind fun _ =>
      listed.map (Image.mk tables.data file tables.headers names)
  refine ⟨image, steps.congr ⟨?_, ?_⟩⟩
  · rintro ⟨known, headers, names, symbols⟩
    exact ⟨known, headers, (tables.names_inside (tells known)).mp names,
      tables.symbols_inside.mp symbols⟩
  · rintro ⟨known, headers, names, symbols⟩
    exact ⟨known, headers, (tables.names_inside (tells known)).mpr names,
      tables.symbols_inside.mpr symbols⟩

/-- Whether bytes are an image of one of the classes. -/
def Acceptable (data : Bytes) : Prop := ∃ class_, (Tables.mk class_ data).Sound

/-- Bytes are parsed if they are an image, and refused as malformed if not. -/
theorem settled_image {data : Bytes} (bounded : data.size < 2 ^ 64) :
    ∃ image, Settled (Image.parse data) (Acceptable data) image := by
  by_cases known : ∃ class_ : Class, data.number 4 1 = class_.byte.toNat
  · obtain ⟨class_, told⟩ := known
    obtain ⟨image, settled⟩ := settled_parse ⟨class_, data⟩ told bounded
    refine ⟨image, settled.congr ⟨fun sound => ⟨class_, sound⟩, ?_⟩⟩
    -- The number of the class is that of no other.
    rintro ⟨other, sound⟩
    have numbers : class_.byte = other.byte := UInt8.toNat_inj.mp (told.symm.trans sound.class_)
    have same : class_ = other :=
      Option.some.inj (by rw [← Class.ofByte?_byte, numbers, Class.ofByte?_byte])
    exact same ▸ sound
  · -- Nothing behind the file header is looked at.
    let file : Header := .told .elf32 0 0 0 0 data 0
    have refused := refuses_header (not_exists.mp known) file
    have stopped : Settled (Image.parse data) (False ∧ False) ⟨data, file, #[], #[], none⟩ :=
      refused.bind False.elim
    refine ⟨_, stopped.congr ⟨fun none => none.1.elim, ?_⟩⟩
    rintro ⟨class_, sound⟩
    exact absurd ⟨class_, sound.class_⟩ known

/-- Bytes are parsed exactly if they are an image, and refused as malformed otherwise; and a machine
that watches its slices, indices and sums comes to the same end. -/
theorem parse_accepts_exactly {data : Bytes} (bounded : data.size ≤ 2 ^ 63 - 1) :
    ((∃ image, Image.parse data = .ok image) ↔ Acceptable data) ∧
      (¬ Acceptable data → ∃ cause, Image.parse data = .error (.format cause)) ∧
      (Watched.parse data).Yields (Image.parse data) := by
  have fits : data.size < 2 ^ 64 := by omega
  obtain ⟨image, settled⟩ := settled_image fits
  refine ⟨⟨?_, fun sound => ⟨image, settled.accepts sound⟩⟩, settled.refuses,
    Watched.yields_parse fits⟩
  rintro ⟨other, parsed⟩
  by_contra unsound
  obtain ⟨cause, refused⟩ := settled.refuses unsound
  rw [parsed] at refused
  contradiction

/-- A file header whose one section header is placed so far that the sum of its place and its size,
if it wrapped around, would lie inside the file. -/
def farTable : Bytes :=
  magic.toArray ++ #[2, 1, 1] ++ Array.replicate 33 0 ++ Array.replicate 8 0xFF ++
    Array.replicate 10 0 ++ #[64, 0, 1, 0, 0, 0]

/-- A section header that is placed too far is refused where it is placed. -/
theorem parse_accepts_exactly_far_table : farTable.size ≤ 2 ^ 63 - 1 ∧ ¬ Acceptable farTable ∧
    (Watched.parse farTable).Yields (.error (.format (.unexpectedEnd (2 ^ 64 - 1)))) := by
  have bounded : farTable.size ≤ 2 ^ 63 - 1 := by decide +kernel
  have refused : Image.parse farTable = .error (.format (.unexpectedEnd (2 ^ 64 - 1))) := by
    decide +kernel
  obtain ⟨exact, _, watched⟩ := parse_accepts_exactly bounded
  rw [refused] at exact watched
  exact ⟨bounded, fun sound => absurd (exact.mpr sound) (by simp), watched⟩

end Footprint.Elf
