import Footprint.Proofs.LinkMap.Listing
import Footprint.Proofs.LinkMap.Merge

/-! Merging a second time changes nothing, and merging nothing lists the link map itself. -/

namespace Footprint

namespace Symbol

/-- Symbols that stand in the order of their own keys stand in it when more keys follow. -/
theorem precedes_append {slots : List Symbol} (more : List (String × UInt64))
    (ordered : slots.Pairwise (Precedes (slots.map key))) :
    slots.Pairwise (Precedes (slots.map key ++ more)) := by
  apply ordered.imp_of_mem
  intro first second firstIn secondIn before
  -- Both keys are found before any of those that follow.
  rw [Precedes, List.idxOf_append_of_mem (List.mem_map_of_mem firstIn),
    List.idxOf_append_of_mem (List.mem_map_of_mem secondIn)]
  exact before

end Symbol

namespace LinkMap

open Footprint.Symbol

variable {map : LinkMap}

/-- Symbols with distinct keys are the merge if they stand in its order and each key has in them
what it has in the merge. -/
theorem merge_eq {symbols target : List Symbol} (alone : (target.map key).Nodup)
    (ordered : target.Pairwise (Precedes ((symbols ++ map.symbols).map key)))
    (same : ∀ wanted, at? (map.merge symbols) wanted = at? target wanted) :
    map.merge symbols = target :=
  -- Both lists have the same symbols in the same order.
  eq_of_precedes (perm_of_at?_eq alone (nodup_merge map symbols) same) (ordered_merge map symbols)
    ordered

/-- The map fills in the object files of a symbol once: the second time finds them there. -/
theorem fill_fill (own : Symbol) (object? : Option String) :
    let filled : Symbol := { own with object? := own.object?.or object? }
    { filled with object? := filled.object?.or object? } = filled := by
  -- An object file that is known stays, and one that the map does not know stays unknown.
  cases own.object? with
  | some object => rfl
  | none => cases object? <;> rfl

/-- In what was merged, each key has all that the map could add to it. -/
theorem at?_merge_merge (distinct : (map.symbols.map key).Nodup) (symbols : List Symbol)
    (wanted : String × UInt64) :
    at? (map.merge (map.merge symbols)) wanted = at? (map.merge symbols) wanted := by
  -- What was merged lists each key once, so that its last symbol is its only one.
  have last : ((map.merge symbols).filter (·.key = wanted)).getLast? =
      at? (map.merge symbols) wanted := by
    rw [filter_key (nodup_merge map symbols)]
    cases at? (map.merge symbols) wanted <;> rfl
  rw [at?_merge distinct, last, at?_merge distinct]
  cases (symbols.filter (·.key = wanted)).getLast? with
  | some own =>
    simp only [Option.map_some, Option.some_or]
    rw [fill_fill]
  | none =>
    -- Only the map may have the key, and a symbol fills in nothing for itself.
    cases at? map.symbols wanted with
    | none => rfl
    | some other => simp

/-- Merging what was merged gives the same symbols in the same order, and merging no symbols gives
those of the map. -/
theorem merge_merge (text : String) (symbols : List Symbol) :
    let map := (parse text).1
    map.merge (map.merge symbols) = map.merge symbols ∧ map.merge [] = map.symbols := by
  intro map
  have distinct : (map.symbols.map key).Nodup := nodup_parse text
  constructor
  · -- Larger symbols already stand first, and those of one size in the order of their keys.
    have sorted := (largestFirst_spec (map.united symbols)).descending
    have ordered := precedes_of_nodup (nodup_merge map symbols) sorted
    apply merge_eq (nodup_merge map symbols) _ (at?_merge_merge distinct symbols)
    rw [List.map_append]
    exact precedes_append _ ordered
  · apply merge_eq distinct
    · exact precedes_of_nodup distinct (tidy_parse text).descending
    · intro wanted
      exact at?_merge distinct [] wanted

end LinkMap

end Footprint
