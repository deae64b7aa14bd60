import Footprint.Proofs.Analyzer.Lists

/-! What loading a link map besides an image leaves of the symbols of the image. -/

namespace Footprint

namespace Symbol

/-- The same symbol, of which it is not known what it was linked from. -/
def withoutObject (symbol : Symbol) : Symbol := { symbol with object? := none }

/-- The symbols with one of some keys, without their object files. -/
def restrict (keys : List (String × UInt64)) (symbols : List Symbol) : List Symbol :=
  (symbols.filter (·.key ∈ keys)).map withoutObject

variable {keys : List (String × UInt64)} {symbols : List Symbol}

/-- The keys that are left are those asked for. -/
theorem keys_restrict : (restrict keys symbols).map key = (symbols.map key).filter (· ∈ keys) := by
  -- An object file is no part of a key.
  rw [restrict, List.map_map, List.filter_map]
  rfl

/-- A key that was asked for has its symbol, without the object file. -/
theorem at?_restrict (wanted : String × UInt64) :
    at? (restrict keys symbols) wanted =
      if wanted ∈ keys then (at? symbols wanted).map withoutObject else none := by
  have bare : at? (restrict keys symbols) wanted =
      (at? (symbols.filter (·.key ∈ keys)) wanted).map withoutObject := List.find?_map
  rw [bare, at?, at?, List.find?_filter]
  by_cases asked : wanted ∈ keys
  · rw [if_pos asked]
    congr 2
    funext symbol
    -- A symbol with the key sought is one of those asked for.
    by_cases here : symbol.key = wanted <;> simp [here, asked]
  · rw [if_neg asked, Option.map_eq_none_iff, List.find?_eq_none]
    intro symbol _ both
    simp only [Bool.decide_and, Bool.and_eq_true, decide_eq_true_eq] at both
    obtain ⟨inside, rfl⟩ := both
    exact asked inside

/-- The symbols that are left keep their order. -/
theorem precedes_restrict {more : List (String × UInt64)}
    (ordered : symbols.Pairwise (Precedes (keys ++ more))) :
    (restrict keys symbols).Pairwise (Precedes keys) := by
  rw [restrict, List.pairwise_map]
  apply (ordered.filter _).imp_of_mem
  intro first second firstKept secondKept before
  have firstIn : first.key ∈ keys := of_decide_eq_true (List.mem_filter.mp firstKept).2
  have secondIn : second.key ∈ keys := of_decide_eq_true (List.mem_filter.mp secondKept).2
  -- Keys that were asked for are found before any others.
  rw [Precedes, List.idxOf_append_of_mem firstIn, List.idxOf_append_of_mem secondIn] at before
  exact before

end Symbol

open Footprint.Symbol

namespace LinkMap

variable {map : LinkMap} {own : List Symbol}

/-- What a merge leaves of symbols without object files is the last one of each key. -/
theorem at?_restrict_merge (distinct : (map.symbols.map key).Nodup)
    (unattributed : ∀ symbol ∈ own, symbol.object? = none) (wanted : String × UInt64) :
    at? (restrict (own.map key) (map.merge own)) wanted =
      (own.filter (·.key = wanted)).getLast? := by
  have perm : (map.merge own).Perm (map.united own) := (largestFirst_spec _).perm
  rw [at?_restrict, at?_of_perm (firsts_united map own).nodup perm, at?_united distinct]
  cases last? : (own.filter (·.key = wanted)).getLast? with
  | none =>
    -- No symbol has the key, so that it was not asked for.
    have absent : wanted ∉ own.map key := by
      intro member
      obtain ⟨symbol, inside, here⟩ := List.mem_map.mp member
      rw [List.getLast?_eq_none_iff, List.filter_eq_nil_iff] at last?
      exact last? symbol inside (decide_eq_true here)
    rw [if_neg absent]
  | some last =>
    obtain ⟨inside, here⟩ := List.mem_filter.mp (List.mem_of_getLast? last?)
    have asked : wanted ∈ own.map key :=
      List.mem_map.mpr ⟨last, inside, of_decide_eq_true here⟩
    have bare := unattributed last inside
    -- The object file that was filled in is taken away again.
    simp only [if_pos asked, Option.map_some, Option.some_or, withoutObject]
    rw [← bare]

/-- What a merge leaves of symbols stands in their order. -/
theorem precedes_restrict_merge (map : LinkMap) (own : List Symbol) :
    (restrict (own.map key) (map.merge own)).Pairwise (Precedes (own.map key)) := by
  have ordered := ordered_merge map own
  rw [List.map_append] at ordered
  exact precedes_restrict ordered

/-- A merge leaves each key of symbols once. -/
theorem nodup_restrict_merge (map : LinkMap) (own : List Symbol) :
    ((restrict (own.map key) (map.merge own)).map key).Nodup := by
  rw [keys_restrict]
  exact (nodup_merge map own).filter _

/-- A merge leaves all of symbols that have distinct keys, no object files and larger ones first. -/
theorem restrict_merge (distinct : (map.symbols.map key).Nodup)
    (unattributed : ∀ symbol ∈ own, symbol.object? = none)
    (descending : own.Pairwise fun first second => second.size ≤ first.size)
    (alone : (own.map key).Nodup) : restrict (own.map key) (map.merge own) = own := by
  have same : ∀ wanted, at? (restrict (own.map key) (map.merge own)) wanted = at? own wanted := by
    intro wanted
    rw [at?_restrict_merge distinct unattributed, filter_key alone]
    cases at? own wanted <;> rfl
  -- Both lists have the same symbols in the same order.
  exact eq_of_precedes (perm_of_at?_eq alone (nodup_restrict_merge map own) same)
    (precedes_restrict_merge map own) (precedes_of_nodup alone descending)

/-- Merging with an empty map adds nothing. -/
theorem restrict_merge_empty (unattributed : ∀ symbol ∈ own, symbol.object? = none) :
    restrict (own.map key) (merge ⟨[]⟩ own) = merge ⟨[]⟩ own := by
  let bare (symbol : Symbol) : Prop := symbol.key ∈ own.map key ∧ symbol.object? = none
  have given : ∀ symbol ∈ own, bare symbol := fun symbol member =>
    ⟨List.mem_map_of_mem member, unattributed symbol member⟩
  have placed : ∀ symbol ∈ united ⟨[]⟩ own, bare symbol :=
    forall_placeAll (fun _ _ _ later => later) (by simp) given
  have merged : ∀ symbol ∈ merge ⟨[]⟩ own, bare symbol := fun symbol member =>
    placed symbol ((largestFirst_spec _).perm.mem_iff.mp member)
  -- All keys are asked for, and there is no object file to take away.
  have all : (merge ⟨[]⟩ own).filter (·.key ∈ own.map key) = merge ⟨[]⟩ own :=
    List.filter_eq_self.mpr fun symbol member => decide_eq_true (merged symbol member).1
  have same : (merge ⟨[]⟩ own).map withoutObject = (merge ⟨[]⟩ own).map id := by
    apply List.map_congr_left
    intro symbol member
    rw [withoutObject, ← (merged symbol member).2]
    rfl
  rw [restrict, all, same, List.map_id]

/-- An empty text has no symbols. -/
theorem parse_empty : (parse "").1 = ⟨[]⟩ := by
  have nothing : (collect (Text.lines "".toList)).symbols = #[] := by decide +kernel
  simp only [parse, nothing, placeAll, largestFirst, List.foldl_nil, List.mergeSort_nil]

end LinkMap

namespace Analyzer

/-- Of the symbols of an image and a link map, those with a name and an address of the image are,
but for their object files, the last one that the image lists under each name and address, with
larger ones first and those of one size in the order in which the image first lists their names and
addresses. Where the image lists no name and address twice, they are the symbols that it lists when
it is loaded alone; an empty link map adds no others. -/
theorem allSymbols_restricts_to_image {files : Files} {elf : Source Bytes} {alone : Analyzer}
    {events : List Event} {own : List Symbol}
    (loaded : load files ⟨some elf, none⟩ = .ok (alone, events))
    (listed : alone.allSymbols = .ok own) (text : String) :
    ∃ both bothEvents merged,
      load files ⟨some elf, some (.memory text)⟩ = .ok (both, bothEvents) ∧
        both.allSymbols = .ok merged ∧
        let kept := restrict (own.map key) merged
        (kept.map key).Nodup ∧
          (∀ wanted, at? kept wanted = (own.filter (·.key = wanted)).getLast?) ∧
          kept.Pairwise (Precedes (own.map key)) ∧
          ((own.map key).Nodup → kept = own) ∧ (text = "" → merged = kept) := by
  obtain ⟨image, data, bothEvents, rfl, parsed, both⟩ := load_withMap loaded text
  -- The image alone lists its own symbols.
  have own? : image.symbols = .ok own := listed
  obtain ⟨tidy, unattributed⟩ := Elf.tidy_of_parse parsed own?
  have distinct := LinkMap.nodup_parse text
  refine ⟨_, bothEvents, _, both, ?_, LinkMap.nodup_restrict_merge _ own,
    LinkMap.at?_restrict_merge distinct unattributed, LinkMap.precedes_restrict_merge _ own,
    LinkMap.restrict_merge distinct unattributed tidy.descending, ?_⟩
  · simp only [allSymbols, own?, Bind.bind, Except.bind, Pure.pure, Except.pure]
  · rintro rfl
    rw [LinkMap.parse_empty]
    exact (LinkMap.restrict_merge_empty unattributed).symm

/-- Loading a link map, even an empty one, takes away all but one of the symbols that the image
lists under one name and address. -/
theorem allSymbols_drops_occurrence :
    ∃ alone both own merged,
      load noFiles (inMemory recurring none) = .ok alone ∧
        load noFiles (inMemory recurring (some "")) = .ok both ∧
        alone.1.allSymbols = .ok own ∧ both.1.allSymbols = .ok merged ∧
        restrict (own.map key) merged ≠ own ∧ merged ≠ own := by
  obtain ⟨image, _, events, alone, _, both⟩ := load_withMap (load_inMemory recurring) ""
  obtain rfl := Option.some.inj (Analyzer.mk.inj alone).1
  have repeated : ¬ ([occurrence 8, occurrence 4].map key).Nodup := by decide
  refine ⟨_, _, _, (LinkMap.parse "").1.merge [occurrence 8, occurrence 4],
    load_inMemory recurring, both, symbols_recurring, ?_, ?_, ?_⟩
  · simp only [allSymbols, symbols_recurring, Bind.bind, Except.bind, Pure.pure, Except.pure]
  · -- A merge lists no name and address twice.
    intro same
    have single := LinkMap.nodup_restrict_merge (LinkMap.parse "").1 [occurrence 8, occurrence 4]
    exact repeated (same ▸ single)
  · intro same
    have single := LinkMap.nodup_merge (LinkMap.parse "").1 [occurrence 8, occurrence 4]
    exact repeated (same ▸ single)

/-- Of the two symbols, the smaller one is left, which the image lists last. -/
theorem allSymbols_restricts_to_last_occurrence :
    let text := "Symbol File\n.text.f 0x10 0x8 main.o\n f 0x10 0x8\n"
    ∃ both bothEvents merged,
      load noFiles (inMemory recurring (some text)) = .ok (both, bothEvents) ∧
        both.allSymbols = .ok merged ∧
        at? (restrict [("f", 0x10), ("f", 0x10)] merged) ("f", 0x10) = some (occurrence 4) := by
  intro text
  obtain ⟨both, bothEvents, merged, loaded, listed, _, last, _⟩ :=
    allSymbols_restricts_to_image (load_inMemory recurring) symbols_recurring text
  have chosen : ([occurrence 8, occurrence 4].filter (·.key = ("f", 0x10))).getLast? =
      some (occurrence 4) := by decide
  exact ⟨both, bothEvents, merged, loaded, listed, (last ("f", 0x10)).trans chosen⟩

end Analyzer

end Footprint
