import Footprint.Proofs.Elf.Acceptance
import Footprint.Proofs.Elf.Symbols

/-! The symbols of an image, told entry by entry by the bytes of its symbol table. -/

namespace Footprint

namespace Bytes

/-- A text goes on up to the first zero byte, or to the end of its table without one. -/
theorem slice_terminator? (table : Bytes) (offset : Nat) :
    (table.slice offset ((table.terminator? offset).getD table.size)).toList =
      (table.toList.drop offset).takeWhile (· ≠ 0) := by
  -- The search for the terminator passes the bytes of the text one by one.
  fun_induction terminator? table offset with
  | case1 offset inside zero =>
    have first : table.toList.drop offset = table[offset] :: table.toList.drop (offset + 1) := by
      rw [List.drop_eq_getElem_cons (by simpa using inside), Array.getElem_toList]
    rw [first, zero, slice, Option.getD_some, Array.extract_eq_empty_of_le (Nat.min_le_left _ _)]
    rfl
  | case2 offset inside other ih =>
    have first : table.toList.drop offset = table[offset] :: table.toList.drop (offset + 1) := by
      rw [List.drop_eq_getElem_cons (by simpa using inside), Array.getElem_toList]
    have later : offset < (table.terminator? (offset + 1)).getD table.size := by
      cases found : table.terminator? (offset + 1) with
      | none => exact inside
      | some stop => exact (terminator?_spec found).1
    have count : (table.terminator? (offset + 1)).getD table.size - offset =
        (table.terminator? (offset + 1)).getD table.size - (offset + 1) + 1 := by omega
    rw [slice, Array.toList_extract, List.extract_eq_take_drop] at ih ⊢
    rw [first, count, List.take_succ_cons, ih, List.takeWhile_cons_of_pos (by simpa using other)]
  | case3 offset outside =>
    have past : table.toList.drop offset = [] := List.drop_eq_nil_of_le (by simpa using outside)
    rw [past, slice, Array.toList_extract, List.extract_eq_take_drop, past, List.take_nil,
      List.takeWhile_nil]

/-- The text at an offset of a string table is spelled by its bytes. -/
theorem textAt_eq (table : Bytes) (offset : Nat) :
    table.textAt offset =
      Text.Utf8.decode ((table.toList.drop offset).takeWhile (· ≠ 0)).toArray := by
  rw [textAt, ← slice_terminator?, Array.toArray_toList]

end Bytes

namespace SymbolKind

/-- The kinds that have a number, which counts from zero. -/
def numbered : List SymbolKind :=
  [.untyped, .object, .function, .section, .file, .common, .threadLocal]

/-- The kind of a symbol has the number in the lower half of its information byte. -/
theorem ofInfo_eq (info : UInt8) : ofInfo info = numbered[info.toNat % 16]?.getD .unknown := by
  -- There are no more than 256 bytes.
  have each : ∀ number : Fin 256,
      ofInfo (.ofNat number) = numbered[number.val % 16]?.getD .unknown := by
    decide +kernel
  simpa using each ⟨info.toNat, info.toNat_lt⟩

end SymbolKind

namespace Elf

namespace Tables

variable (tables : Tables)

/-- The place of the contents of the section at an index. -/
def offset (index : Nat) : Nat :=
  tables.data.number (tables.place index + 8 + 2 * tables.class_.width) tables.class_.width

/-- The number of bytes in the section at an index. -/
def size (index : Nat) : Nat :=
  tables.data.number (tables.place index + 8 + 3 * tables.class_.width) tables.class_.width

/-- The contents of the section at an index. -/
def contents (index : Nat) : Bytes := tables.data.slice (tables.offset index) (tables.stop index)

/-- The text at an offset of the section at an index, which ends at a zero byte or with the
section; past the end of the section it is empty. -/
def text (index offset : Nat) : String :=
  Text.Utf8.decode (((tables.contents index).toList.drop offset).takeWhile (· ≠ 0)).toArray

/-- The name of the section at an index, which is empty where no section holds names. -/
def name (index : Nat) : String :=
  if tables.nameTable < tables.count then
    tables.text tables.nameTable (tables.data.number (tables.place index) 4)
  else ""

/-- The name of the section at an index, if it has one; the index zero stands for no section. -/
def sectionName? (index : Nat) : Option String :=
  if 0 < index ∧ index < tables.count ∧ tables.name index ≠ "" then some (tables.name index)
  else none

/-- The number of whole entries in the symbol table at an index. -/
def entryCount (table : Nat) : Nat := tables.size table / tables.class_.symbolEntrySize

/-- The entry at an index of a symbol table. -/
def entry (table index : Nat) : SymbolEntry :=
  .told tables.class_ tables.data (tables.offset table + index * tables.class_.symbolEntrySize)

/-- The symbol of the entry at an index of a symbol table, if it has a size and a name. -/
def symbol? (table index : Nat) : Option Symbol :=
  let entry := tables.entry table index
  let name := tables.text (tables.link table) entry.name.toNat
  if entry.size = 0 ∨ name = "" then none
  else some
    { name
      kind := SymbolKind.numbered[entry.info.toNat % 16]?.getD .unknown
      address := entry.value
      size := entry.size
      sectionName? := tables.sectionName? entry.sectionIndex.toNat
      object? := none
      sourceFile? := none
      sourceLine? := none }

/-- The symbols of the entries of a symbol table, in their order. -/
def symbols (table : Nat) : List Symbol :=
  (List.range (tables.entryCount table)).filterMap (tables.symbol? table)

/-- The contents of a section start where its header says. -/
theorem header_offset (index : Nat) : (tables.header index).offset.toNat = tables.offset index := by
  have second : tables.place index + 8 + tables.class_.width + tables.class_.width =
      tables.place index + 8 + 2 * tables.class_.width := by omega
  rw [header, SectionHeader.told, toNat_address, second, offset]

/-- The contents of a section end where its size says. -/
theorem stop_eq (index : Nat) : tables.stop index = tables.offset index + tables.size index := rfl

/-- The contents of a section are there if they end inside the file. -/
theorem contents?_header (index : Nat) :
    (tables.header index).contents? tables.data =
      if tables.stop index ≤ tables.data.size then some (tables.contents index) else none := by
  rw [SectionHeader.contents?, header_stop, header_offset, contents]

/-- The name of a section is placed by its header. -/
theorem header_name (index : Nat) :
    (tables.header index).name.toNat = tables.data.number (tables.place index) 4 := by
  have narrow : tables.data.number (tables.place index) 4 < 2 ^ 32 := tables.data.number_lt _ 4
  rw [header, SectionHeader.told, UInt32.toNat_ofNat']
  exact Nat.mod_eq_of_lt narrow

/-- A file header that was read is as the bytes tell it, under the class that they tell. -/
theorem tells_of_parse {data : Bytes} {file : Header} (parsed : Header.parse data = .ok file) :
    (Tables.mk file.class_ data).Identified ∧ (Tables.mk file.class_ data).Tells file := by
  by_cases known : ∃ class_ : Class, data.number 4 1 = class_.byte.toNat
  · obtain ⟨class_, told⟩ := known
    obtain ⟨header, tells, settled⟩ := settled_header ⟨class_, data⟩ told
    have identified : (Tables.mk class_ data).Identified := by
      by_contra stranger
      obtain ⟨cause, refused⟩ := settled.refuses stranger
      rw [parsed] at refused
      contradiction
    obtain rfl : file = header := Except.ok.inj (parsed.symm.trans (settled.accepts identified))
    have same : file.class_ = class_ := (tells identified).class_
    rw [same]
    exact ⟨identified, tells identified⟩
  · obtain ⟨cause, refused⟩ := (refuses_header (not_exists.mp known) file).refuses id
    rw [parsed] at refused
    contradiction

variable {tables} {file : Header}

/-- The section headers that were read are as the bytes tell them. -/
theorem headers_of_readAll (tells : tables.Tells file) {headers : Array SectionHeader}
    (read : SectionHeader.readAll tables.data file = .ok headers) : headers = tables.headers := by
  have each : ∀ index ∈ List.range tables.count, ∀ own,
      SectionHeader.readAt tables.data file index = .ok own → own = tables.header index := by
    intro index _ own done
    simp only [SectionHeader.readAt, tells.start, tells.stride, tells.class_] at done
    split at done
    · -- A header that was read had room, and is what its bytes tell.
      have settled := settled_valueAt (@spans_sectionHeader tables.class_) tables.data
        (tables.place index)
      by_cases room : tables.place index + tables.class_.sectionHeaderSize ≤ tables.data.size
      · exact Except.ok.inj (done.symm.trans (settled.accepts room))
      · obtain ⟨cause, refused⟩ := settled.refuses room
        exact absurd (done.symm.trans refused) (by simp)
    · contradiction
  have empty : file.sectionHeaderCount = 0 ↔ tables.count = 0 := by
    rw [← tells.count, ← UInt16.toNat_inj]
    rfl
  simp only [SectionHeader.readAll, tells.count] at read
  split at read
  · rename_i none
    rw [← Except.ok.inj read, Tables.headers, empty.mp none]
    rfl
  · split at read
    · contradiction
    · obtain ⟨found, done, rfl⟩ := ok_of_map read
      rw [eq_map_of_mapM done each, Tables.headers]

/-- The names of sections are spelled by the section that holds them. -/
theorem names_of_sectionNames (tells : tables.Tells file) {names : Array String}
    (read : sectionNames tables.data file tables.headers = .ok names) :
    names = ((List.range tables.count).map tables.name).toArray := by
  rw [sectionNames, tells.nameTable, getElem?_headers] at read
  by_cases below : tables.nameTable < tables.count
  · simp only [if_pos below, contents?_header] at read
    split at read
    · rename_i contents inside
      split at inside
      · obtain rfl := Option.some.inj inside
        obtain rfl := Except.ok.inj read
        rw [Tables.headers, List.map_toArray, List.map_map]
        refine congrArg List.toArray (List.map_congr_left fun index _ => ?_)
        rw [Function.comp_apply, header_name, Bytes.textAt_eq, name, if_pos below, text]
      · contradiction
    · contradiction
  · simp only [if_neg below] at read
    obtain rfl := Except.ok.inj read
    rw [Tables.headers, List.map_toArray, List.map_map]
    refine congrArg List.toArray (List.map_congr_left fun index _ => ?_)
    rw [Function.comp_apply, name, if_neg below]

/-- A section is named by the index that an entry tells. -/
theorem sectionName?_eq (index : UInt16) :
    SymbolEntry.sectionName? ((List.range tables.count).map tables.name).toArray index =
      tables.sectionName? index.toNat := by
  have zero : index = 0 ↔ index.toNat = 0 := UInt16.toNat_inj.symm
  rw [SymbolEntry.sectionName?, sectionName?]
  by_cases none : index.toNat = 0
  · simp [zero.mpr none]
  · have positive : 0 < index.toNat := Nat.pos_of_ne_zero none
    rw [if_neg (mt zero.mp none), List.getElem?_toArray, List.getElem?_map]
    by_cases below : index.toNat < tables.count
    · rw [List.getElem?_range below]
      simp [positive, below, Option.filter]
    · rw [List.getElem?_eq_none (by simpa using below)]
      simp [below]

/-- The symbol of an entry is the one that its bytes tell. -/
theorem symbol?_eq (table index : Nat) :
    SymbolEntry.symbol? (tables.contents (tables.link table))
        ((List.range tables.count).map tables.name).toArray (tables.entry table index) =
      tables.symbol? table index := by
  have dropped : (tables.entry table index).size = 0 ∨
        ((tables.contents (tables.link table)).textAt
          (tables.entry table index).name.toNat).isEmpty = true ↔
      (tables.entry table index).size = 0 ∨
        tables.text (tables.link table) (tables.entry table index).name.toNat = "" := by
    rw [String.isEmpty_iff, Bytes.textAt_eq, text]
  refine if_congr dropped rfl (congrArg some ?_)
  rw [Bytes.textAt_eq, SymbolKind.ofInfo_eq, sectionName?_eq, ← text]

/-- The first symbol table and the names in it are the contents of two sections. -/
theorem symbolTable?_eq {table : Nat} (first : tables.FirstSymbols table)
    {found? : Option (Bytes × Bytes)}
    (read : symbolTable? tables.data tables.headers = .ok found?) :
    tables.stop table ≤ tables.data.size ∧
      found? = some (tables.contents table, tables.contents (tables.link table)) := by
  have found := tables.find?_headers.mpr ⟨table, first, rfl⟩
  simp only [symbolTable?, found, contents?_header, header_link, getElem?_headers] at read
  -- A table that is not there, or not inside the file, would have been refused.
  by_cases inside : tables.stop table ≤ tables.data.size
  · simp only [if_pos inside] at read
    by_cases below : tables.link table < tables.count
    · simp only [if_pos below, contents?_header] at read
      by_cases behind : tables.stop (tables.link table) ≤ tables.data.size
      · simp only [if_pos behind] at read
        exact ⟨inside, (Except.ok.inj read).symm⟩
      · simp only [if_neg behind] at read
        contradiction
    · simp only [if_neg below] at read
      contradiction
  · simp only [if_neg inside] at read
    contradiction

/-- The symbols of a symbol table that was read are those that its entries tell, larger ones
first. -/
theorem symbols_of_symbols? (tells : tables.Tells file) {symbols? : Option (List Symbol)}
    {table : Nat} (first : tables.FirstSymbols table)
    (read : Elf.symbols? tables.data file tables.headers
      ((List.range tables.count).map tables.name).toArray = .ok symbols?) :
    symbols? = some (Symbol.largestFirst (tables.symbols table)) := by
  obtain ⟨found?, located, read⟩ := ok_of_bind read
  obtain ⟨inside, rfl⟩ := symbolTable?_eq first located
  simp only [tells.class_, entries_of_table] at read
  obtain rfl := Except.ok.inj read
  have size : (tables.contents table).size = tables.size table := by
    rw [contents, Bytes.slice, Array.size_extract, stop_eq]
    rw [stop_eq] at inside
    omega
  rw [size, List.filterMap_map]
  -- An entry tells the same in its section as in the file.
  refine congrArg (some ∘ Symbol.largestFirst) (List.filterMap_congr fun index member => ?_)
  have stop : (index + 1) * tables.class_.symbolEntrySize ≤ tables.size table :=
    Nat.le_trans (Nat.mul_le_mul_right _ (List.mem_range.mp member)) (Nat.div_mul_le_self _ _)
  rw [Nat.succ_mul] at stop
  rw [Function.comp_apply, ← symbol?_eq, entry, ← SymbolEntry.told_slice stop]
  rfl

/-- Where some section holds symbols, one of them is the first. -/
theorem exists_firstSymbols {index : Nat} (below : index < tables.count)
    (here : tables.type index = 2 ∨ tables.type index = 11) :
    ∃ table, tables.FirstSymbols table := by
  let holds (other : Nat) : Prop := tables.type other = 2 ∨ tables.type other = 11
  have some_ : ∃ other, holds other := ⟨index, here⟩
  classical
  exact ⟨Nat.find some_, Nat.lt_of_le_of_lt (Nat.find_min' some_ here) below,
    Nat.find_spec some_, fun other earlier => Nat.find_min some_ earlier⟩

end Tables

/-- The tables of an image, under the class that its header tells. -/
def Image.tables (image : Image) : Tables := ⟨image.header.class_, image.data⟩

/-- The parts of an image that was parsed are as its bytes tell them. -/
theorem told_of_parse {data : Bytes} {image : Image} (parsed : Image.parse data = .ok image) :
    image.data = data ∧ image.tables.Identified ∧
      ∀ {table : Nat}, image.tables.FirstSymbols table →
        image.symbols? = some (Symbol.largestFirst (image.tables.symbols table)) := by
  obtain ⟨file, header, parsed⟩ := ok_of_bind parsed
  obtain ⟨headers, sections, parsed⟩ := ok_of_bind parsed
  obtain ⟨names, named, parsed⟩ := ok_of_bind parsed
  obtain ⟨symbols?, listed, rfl⟩ := ok_of_map parsed
  obtain ⟨identified, tells⟩ := Tables.tells_of_parse header
  obtain rfl := Tables.headers_of_readAll tells sections
  obtain rfl := Tables.names_of_sectionNames tells named
  exact ⟨rfl, identified, fun first => Tables.symbols_of_symbols? tells first listed⟩

/-- The tables of bytes that are parsed are those of the class that the bytes tell. -/
theorem tables_of_parse {tables : Tables} {image : Image} (identified : tables.Identified)
    (parsed : Image.parse tables.data = .ok image) : image.tables = tables := by
  obtain ⟨same, told, _⟩ := told_of_parse parsed
  -- The number of a class is that of no other.
  have numbers : image.header.class_.byte = tables.class_.byte := by
    apply UInt8.toNat_inj.mp
    rw [← identified.class_, ← same]
    exact told.class_.symm
  have classes : image.header.class_ = tables.class_ :=
    Option.some.inj (by rw [← Class.ofByte?_byte, numbers, Class.ofByte?_byte])
  rw [Image.tables, classes, same]

/-- An image with a symbol table lists the symbols that the entries of its first one tell. -/
theorem symbols_of_firstSymbols {data : Bytes} {image : Image} {table : Nat}
    (parsed : Image.parse data = .ok image) (first : image.tables.FirstSymbols table) :
    image.symbols = .ok (Symbol.largestFirst (image.tables.symbols table)) := by
  rw [Image.symbols, (told_of_parse parsed).2.2 first]

/-- An image with a symbol table lists the symbols that the whole entries of its first one tell:
each entry with a size and a name once and with its own fields, larger ones first, and those of one
size in the order of the table. -/
theorem symbols_of_entries {data : Bytes} {image : Image} (parsed : Image.parse data = .ok image)
    (held : ∃ index < image.tables.count,
      image.tables.type index = 2 ∨ image.tables.type index = 11) :
    image.data = data ∧ image.tables.Identified ∧
      ∃ table symbols, image.tables.FirstSymbols table ∧ image.symbols = .ok symbols ∧
        Symbol.LargestFirst (image.tables.symbols table) symbols := by
  obtain ⟨same, identified, listed⟩ := told_of_parse parsed
  obtain ⟨index, below, here⟩ := held
  obtain ⟨table, first⟩ := Tables.exists_firstSymbols below here
  refine ⟨same, identified, table, _, first, ?_, Symbol.largestFirst_spec _⟩
  rw [Image.symbols, listed first]

/-- An image whose symbol table ends in a part of an entry, and whose names end without a zero. Of its
entries, the third has no size, and the fourth has a name past the end of the names. -/
def frayed : Bytes :=
  let headers : List SectionHeader :=
    [⟨1, 0, 0, 0, 0, 0, 0, 0, 0, 0⟩, ⟨0, 2, 0, 0, 172, 85, 2, 0, 0, 0⟩,
      ⟨2, 3, 0, 0, 257, 4, 0, 0, 0, 0⟩]
  let entries : List SymbolEntry :=
    [⟨0, 0x10, 4, 0x12, 0, 1⟩, ⟨2, 0x20, 8, 0x01, 0, 2⟩, ⟨0, 0x28, 0, 0x02, 0, 1⟩,
      ⟨9, 0x2C, 1, 0x02, 0, 1⟩, ⟨0, 0x30, 4, 0x1F, 0, 3⟩]
  let file : Header := ⟨.elf32, 1, 1, 0, 0, 2, 40, 0, 0, 52, 0, 52, 0, 0, 40, 3, 2⟩
  (file.identification (List.replicate 7 0) ++ file.fieldBytes 1 ++
    headers.flatMap (SectionHeader.bytes .elf32) ++ entries.flatMap (SymbolEntry.bytes .elf32) ++
    List.replicate 5 7 ++ [0x61, 0, 0xFF, 0x62]).toArray

/-- The rest of an entry is left out, a name without an end is read to the end of its section, and
of two symbols of one size the first entry comes first. -/
theorem symbols_of_entries_frayed :
    ∃ image symbols, Image.parse frayed = .ok image ∧
      (1 < image.tables.count ∧ image.tables.type 1 = 2) ∧ image.symbols = .ok symbols ∧
      Symbol.LargestFirst
        [⟨"a", .function, 0x10, 4, some "a", none, none, none⟩,
          ⟨"\uFFFDb", .object, 0x20, 8, some "\uFFFDb", none, none, none⟩,
          ⟨"a", .unknown, 0x30, 4, none, none, none, none⟩] symbols := by
  have class_ : (Image.parse frayed).map (·.header.class_) = .ok .elf32 := by decide +kernel
  cases parsed : Image.parse frayed with
  | error fault =>
    rw [parsed] at class_
    contradiction
  | ok image =>
    rw [parsed] at class_
    have narrow : image.header.class_ = .elf32 := Except.ok.inj class_
    have told : image.tables = ⟨.elf32, frayed⟩ := by
      rw [Image.tables, narrow, (told_of_parse parsed).1]
    have second : 1 < image.tables.count ∧ image.tables.type 1 = 2 := by
      rw [told]
      decide +kernel
    obtain ⟨_, _, table, symbols, first, listed, ordered⟩ :=
      symbols_of_entries parsed ⟨1, second.1, .inl second.2⟩
    -- The section at index zero holds no symbols, and the next one does.
    have here : table = 1 := by
      have none : ¬ (image.tables.type 0 = 2 ∨ image.tables.type 0 = 11) := by
        rw [told]
        decide +kernel
      have later : ¬ 1 < table := fun behind => first.earlier 1 behind (.inl second.2)
      have positive : table ≠ 0 := fun zero => none (zero ▸ first.here)
      omega
    have entries : image.tables.symbols 1 =
        [⟨"a", .function, 0x10, 4, some "a", none, none, none⟩,
          ⟨"\uFFFDb", .object, 0x20, 8, some "\uFFFDb", none, none, none⟩,
          ⟨"a", .unknown, 0x30, 4, none, none, none, none⟩] := by
      rw [told]
      decide +kernel
    rw [here, entries] at ordered
    exact ⟨image, symbols, rfl, second, listed, ordered⟩

end Elf

end Footprint
