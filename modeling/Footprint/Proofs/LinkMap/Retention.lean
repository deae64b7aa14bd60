import Footprint.Proofs.LinkMap.Patterns

/-! What the lines behind the heading of a link map leave in it: their symbols, and the object file
of the symbols that follow. -/

namespace Footprint.LinkMap

open Text (isBlank)

/-- A line is a symbol: it has the parts of one, and all digits of the size belong to it. -/
inductive IsSymbol : List Char → Placement → Prop
  /-- The line is indented. -/
  | indented {line rest : List Char} {placement : Placement} :
    Indented line placement rest → (∀ char ∈ rest.head?, isHexDigit char = false) →
      IsSymbol line placement
  /-- The line is not indented, and its name starts with no period. -/
  | bare {line rest : List Char} {placement : Placement} :
    Named isBareNameChar line placement rest → placement.name.head? ≠ some '.' →
      (∀ char ∈ rest.head?, isHexDigit char = false) → IsSymbol line placement

section Lines

variable {line rest : List Char} {placement : Placement}

/-- The size of a symbol is all of the digits at its place if no digit follows. -/
theorem Named.size_eq {accepts : Char → Bool} (parts : Named accepts line placement rest)
    (stops : ∀ char ∈ rest.head?, isHexDigit char = false) :
    (placement.size ++ rest).takeWhile isHexDigit = placement.size := by
  obtain ⟨_, _, both⟩ := parts
  obtain ⟨_, _, _, late⟩ := both
  obtain ⟨_, _, _, _, digits⟩ := late
  exact (takeWhile_append_rest digits.2 stops).1

/-- A line that starts with a name is not indented. -/
theorem indentedPlacement?_of_named (parts : Named isBareNameChar line placement rest) :
    indentedPlacement? line = none := by
  obtain ⟨numbers, name, _⟩ := parts
  have starts := name.head (numbers ++ rest)
  rw [indentedPlacement?_eq]
  cases line : placement.name ++ (numbers ++ rest) with
  | nil => rfl
  | cons first others =>
    rw [line] at starts
    have visible := not_isBlank_of_isBareNameChar (starts first rfl)
    rw [afterBlanks?, if_neg (by simp [visible])]
    rfl

/-- The symbol that is read of a line is the one that the line is. -/
theorem placement?_eq_some_iff : placement? line = some placement ↔ IsSymbol line placement := by
  constructor
  · intro found
    rw [placement?] at found
    split at found
    · rename_i own indented
      obtain rfl := Option.some.inj found
      obtain ⟨rest, parts, stops⟩ := indented_of_indentedPlacement? indented
      exact .indented parts stops
    · rw [barePlacement?_eq, Option.filter_eq_some_iff] at found
      obtain ⟨read, period⟩ := found
      obtain ⟨rest, parts, stops⟩ := named_of_named? read
      exact .bare parts (by simpa using period) stops
  · rintro (⟨parts, stops⟩ | ⟨parts, period, stops⟩)
    · have read := indentedPlacement?_of_indented parts
      obtain ⟨_, _, _, named⟩ := parts
      rw [placement?, read, named.size_eq stops]
    · have read := named?_of_named (fun _ => not_isBlank_of_isBareNameChar) parts
      rw [parts.size_eq stops] at read
      rw [placement?, indentedPlacement?_of_named parts, barePlacement?_eq, read]
      simp [Option.filter, period]

/-- A line behind a heading is listed behind those in front of it, unless it is a heading. -/
theorem listing_split (front behind : List (List Char)) {heading : List Char}
    (heads : isHeading heading) :
    ∃ earlier, listing (front ++ heading :: behind) = earlier ++ behind.filter (!isHeading ·) := by
  -- The first heading stands in front of this one, or is this one.
  induction front with
  | nil => exact ⟨[], by simp [listing, heads]⟩
  | cons line front ih =>
    cases first : isHeading line with
    | true => exact ⟨front.filter (!isHeading ·), by simp [listing, first, heads]⟩
    | false =>
      obtain ⟨earlier, listed⟩ := ih
      refine ⟨earlier, ?_⟩
      rw [← listed]
      exact @listing_append [line] (by simp [first]) _

end Lines

section Mentions

variable {lines earlier later : List (List Char)} {line : List Char} {mention : Mention}

/-- A symbol with a size whose numbers fit machine words is mentioned. -/
theorem Placement.mention?_eq {placement : Placement} {address size : UInt64}
    (addressed : spelled placement.address = address.toNat)
    (sized : spelled placement.size = size.toNat) (some_ : size ≠ 0) (object? : Option String) :
    placement.mention? object? = some ⟨.ofList placement.name, address, size, object?⟩ := by
  have words : ∀ word : UInt64, word? word.toNat = some word := by
    intro word
    rw [word?, if_pos word.toNat_lt, UInt64.ofNat_toNat]
  simp [Placement.mention?, addressed, sized, words, some_]

/-- What a line mentions is among the mentions. -/
theorem mem_mentions
    (found : (placement? line).bind (·.mention? (inForce? earlier)) = some mention) :
    mention ∈ mentions (earlier ++ line :: later) := by
  rw [mentions, List.mem_filterMap]
  exact ⟨earlier.length, by simp, by simpa [mentionAt?] using found⟩

/-- An object file stays in force up to the next line that names one. -/
theorem inForce?_append {path : List Char} (named : object? line = some path)
    (silent : ∀ other ∈ later, object? other = none) :
    inForce? (earlier ++ line :: later) = some (.ofList path) := by
  have passed : later.reverse.findSome? object? = none :=
    List.findSome?_eq_none_iff.mpr fun other member => silent other (List.mem_reverse.mp member)
  simp [inForce?, List.findSome?_append, passed, named]

/-- No mention of some is larger than the first largest one. -/
theorem FirstLargest.size_le {own : List Mention} {best : Mention} (largest : FirstLargest own best)
    (member : mention ∈ own) : mention.size ≤ best.size := by
  obtain ⟨before, after, rfl, smaller, others⟩ := largest
  rcases List.mem_append.mp member with early | late
  · exact UInt64.le_of_lt (smaller mention early)
  · rcases List.mem_cons.mp late with rfl | late
    · exact UInt64.le_refl _
    · exact others mention late

/-- A first largest mention is one of them. -/
theorem FirstLargest.mem {own : List Mention} {best : Mention} (largest : FirstLargest own best) :
    best ∈ own := by
  obtain ⟨before, after, rfl, _⟩ := largest
  exact List.mem_append_right before List.mem_cons_self

/-- The first largest of some mentions is the only one. -/
theorem FirstLargest.unique {own : List Mention} {best other : Mention}
    (largest : FirstLargest own best) (another : FirstLargest own other) : best = other := by
  have most := largest.size_le another.mem
  have least := another.size_le largest.mem
  obtain ⟨before, after, rfl, smaller, _⟩ := largest
  obtain ⟨otherBefore, otherAfter, split, otherSmaller, _⟩ := another
  -- Neither stands in front of the other one, than which it would be smaller.
  rcases List.append_eq_append_iff.mp split with ⟨inner, rfl, rest⟩ | ⟨inner, rfl, rest⟩
  · cases inner with
    | nil => exact (List.cons.inj rest).1
    | cons first inner =>
      obtain ⟨rfl, _⟩ := List.cons.inj rest
      exact absurd (otherSmaller best (by simp)) (UInt64.not_lt.mpr most)
  · cases inner with
    | nil => exact (List.cons.inj rest).1.symm
    | cons first inner =>
      obtain ⟨rfl, _⟩ := List.cons.inj rest
      exact absurd (smaller other (by simp)) (UInt64.not_lt.mpr least)

/-- A mentioned symbol is kept in the largest size in which it is mentioned. -/
theorem symbol_of_mention {text : String}
    (member : mention ∈ mentions (listing (Text.lines text.toList))) :
    ∃ symbol ∈ (parse text).1.symbols, symbol.name = mention.name ∧
      symbol.address = mention.address ∧ mention.size ≤ symbol.size := by
  have keeps := keeps_parse text
  have wanted : mention.key ∈ (parse text).1.symbols.map Symbol.key :=
    (keeps.mem mention.key).mpr (List.mem_map_of_mem member)
  obtain ⟨symbol, kept, key⟩ := List.mem_map.mp wanted
  obtain ⟨best, largest, rfl⟩ := keeps.chosen symbol kept
  have own : mention ∈ (mentions (listing (Text.lines text.toList))).filter
      (·.key = best.symbol.key) := List.mem_filter.mpr ⟨member, by simpa using key.symm⟩
  obtain ⟨name, address⟩ := Prod.mk.inj key
  exact ⟨best.symbol, kept, name, address, largest.size_le own⟩

/-- The first largest mention of a symbol is what is kept of it. -/
theorem symbol_of_firstLargest {text : String}
    (largest : FirstLargest ((mentions (listing (Text.lines text.toList))).filter
      (·.key = mention.key)) mention) : mention.symbol ∈ (parse text).1.symbols := by
  have keeps := keeps_parse text
  have wanted : mention.key ∈ (parse text).1.symbols.map Symbol.key :=
    (keeps.mem mention.key).mpr (List.mem_map_of_mem (List.mem_of_mem_filter largest.mem))
  obtain ⟨symbol, kept, key⟩ := List.mem_map.mp wanted
  obtain ⟨best, other, rfl⟩ := keeps.chosen symbol kept
  rw [key] at other
  rwa [largest.unique other]

end Mentions

/-- A line behind a heading that is no heading itself is not lost. A symbol with a size whose
numbers fit machine words is kept with its name, its address and at least its size. An object file is
in force for the symbols of the lines up to the next one that names an object file: they are mentioned
with it, and kept with it unless they are mentioned earlier in the same size, or in a larger one. -/
theorem parse_keeps_lines {text : String} {front behind after : List (List Char)}
    {heading line : List Char}
    (lines : Text.lines text.toList = front ++ heading :: (behind ++ line :: after))
    (heads : isHeading heading) (plain : isHeading line = false) :
    (∀ placement (address size : UInt64), IsSymbol line placement →
      spelled placement.address = address.toNat → spelled placement.size = size.toNat → size ≠ 0 →
      ∃ symbol ∈ (parse text).1.symbols, symbol.name = .ofList placement.name ∧
        symbol.address = address ∧ size ≤ symbol.size) ∧
    ∀ path between own rest, object? line = some path → after = between ++ own :: rest →
      (∀ other ∈ between, isHeading other = false → object? other = none) → isHeading own = false →
      ∀ placement (address size : UInt64), IsSymbol own placement →
        spelled placement.address = address.toNat → spelled placement.size = size.toNat →
        size ≠ 0 →
        let all := mentions (listing (Text.lines text.toList))
        let mention : Mention := ⟨.ofList placement.name, address, size, some (.ofList path)⟩
        mention ∈ all ∧
          (FirstLargest (all.filter (·.key = mention.key)) mention →
            mention.symbol ∈ (parse text).1.symbols) := by
  obtain ⟨earlier, listed⟩ := listing_split front (behind ++ line :: after) heads
  rw [← lines, List.filter_append, List.filter_cons, if_pos (by simp [plain]),
    ← List.append_assoc] at listed
  constructor
  · intro placement address size isSymbol addressed sized some_
    have mentioned : ⟨.ofList placement.name, address, size,
        inForce? (earlier ++ behind.filter (!isHeading ·))⟩ ∈
          mentions (listing (Text.lines text.toList)) := by
      rw [listed]
      apply mem_mentions
      rw [placement?_eq_some_iff.mpr isSymbol]
      exact Placement.mention?_eq addressed sized some_ _
    exact symbol_of_mention mentioned
  · rintro path between own rest named rfl silent plainOwn placement address size isSymbol addressed
      sized some_ all mention
    refine ⟨?_, symbol_of_firstLargest⟩
    -- The lines between name no object file where they are listed.
    have quiet : ∀ other ∈ between.filter (!isHeading ·), object? other = none := by
      intro other member
      obtain ⟨among, listed⟩ := List.mem_filter.mp member
      exact silent other among (by simpa using listed)
    change mention ∈ mentions (listing (Text.lines text.toList))
    rw [listed, List.filter_append, List.filter_cons, if_pos (by simp [plainOwn]),
      ← List.cons_append, ← List.append_assoc]
    apply mem_mentions
    rw [placement?_eq_some_iff.mpr isSymbol, inForce?_append named quiet]
    exact Placement.mention?_eq addressed sized some_ _

/-- Behind the heading, a symbol is kept with the object file of the line in front of it. -/
theorem parse_keeps_lines_of_object :
    let text := "Symbol File\n.text.a 0x100 0x10 a.o\n f 0x100 0x10\n"
    (⟨"f", .unknown, 0x100, 0x10, none, some "a.o", none, none⟩ : Symbol) ∈
      (parse text).1.symbols := by
  intro text
  have lines : Text.lines text.toList =
      [] ++ "Symbol File".toList :: ([] ++ ".text.a 0x100 0x10 a.o".toList ::
        [" f 0x100 0x10".toList]) := by decide +kernel
  have kept := (parse_keeps_lines lines (by decide +kernel) (by decide +kernel)).2 "a.o".toList []
    " f 0x100 0x10".toList [] (by decide +kernel) rfl (by simp) (by decide +kernel)
    ⟨"f".toList, "100".toList, "10".toList⟩ 0x100 0x10
    (placement?_eq_some_iff.mp (by decide +kernel)) (by decide +kernel) (by decide +kernel)
    (by decide)
  refine kept.2 ⟨[], [], ?_, by simp, by simp⟩
  decide +kernel

/-- A line behind the heading that holds both words of one is dropped, although it is a symbol or
names an object file: the symbol is missing, and the next one is told of the object file before. -/
theorem parse_drops_line_with_both_words :
    let lines := ["Symbol File", ".text.a 0x100 0x10 a.o", " f 0x100 0x10",
      ".text.b 0x200 0x10 build/SymbolFile.o", " g 0x200 0x8", " SymbolFile_open 0x300 0x4"]
    let text := "\n".intercalate lines
    Text.lines text.toList = lines.map String.toList ∧
      object? ".text.b 0x200 0x10 build/SymbolFile.o".toList = some "build/SymbolFile.o".toList ∧
      (⟨"g", .unknown, 0x200, 0x8, none, some "a.o", none, none⟩ : Symbol) ∈
        (parse text).1.symbols ∧
      IsSymbol " SymbolFile_open 0x300 0x4".toList
        ⟨"SymbolFile_open".toList, "300".toList, "4".toList⟩ ∧
      ∀ symbol ∈ (parse text).1.symbols, symbol.name ≠ "SymbolFile_open" := by
  intro lines text
  have mentioned : mentions (listing (Text.lines text.toList)) =
      [⟨"f", 0x100, 0x10, some "a.o"⟩, ⟨"g", 0x200, 0x8, some "a.o"⟩] := by decide +kernel
  refine ⟨by decide +kernel, by decide +kernel, ?_, placement?_eq_some_iff.mp (by decide +kernel),
    ?_⟩
  · apply @symbol_of_firstLargest ⟨"g", 0x200, 0x8, some "a.o"⟩
    rw [mentioned]
    exact firstLargest_singleton _
  · intro symbol kept missing
    have key := ((keeps_parse text).mem symbol.key).mp (List.mem_map_of_mem kept)
    rw [mentioned] at key
    simp [Mention.key, Symbol.key, missing] at key

end Footprint.LinkMap
