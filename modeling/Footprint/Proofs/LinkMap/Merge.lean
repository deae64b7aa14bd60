import Footprint.LinkMap.Basic
import Footprint.Proofs.LinkMap.Keyed

/-! Merging the symbols of an image with those of a link map. -/

namespace Footprint

namespace Symbol

/-- A symbol keeps its object file, and takes that of another only where it has none. -/
theorem fillObject_eq (symbol other : Symbol) :
    fillObject symbol other = { symbol with object? := symbol.object?.or other.object? } := by
  rw [fillObject]
  -- An object file that is there is kept, whatever the other symbol has.
  cases own : symbol.object? with
  | some object =>
    simp only [Option.some_or]
    rw [← own]
  | none =>
    cases other.object? with
    | none =>
      simp only [Option.none_or]
      rw [← own]
    | some object => rfl

/-- The last of the symbols with one key stays. -/
theorem foldl_latest (symbols : List Symbol) (slot? : Option Symbol) :
    symbols.foldl (absorb latest) slot? = symbols.getLast?.or slot? := by
  -- Each symbol takes the place of what was there.
  induction symbols generalizing slot? with
  | nil => rfl
  | cons symbol symbols ih =>
    have replaced : absorb latest slot? symbol = some symbol := by
      cases slot? <;> rfl
    rw [List.foldl_cons, replaced, ih, List.getLast?_cons]
    cases symbols.getLast? <;> rfl

end Symbol

namespace LinkMap

open Footprint.Symbol

/-- The symbols of an image and of a map before they are ordered. -/
def united (map : LinkMap) (symbols : List Symbol) : List Symbol :=
  placeAll fillObject (placeAll latest [] symbols) map.symbols

/-- No two symbols of a map have one key. -/
theorem nodup_parse (text : String) : ((parse text).1.symbols.map key).Nodup := by
  -- The symbols of a map were put in by their keys, and sorting only moves them.
  have placed : Firsts ([] ++ _) ((placeAll larger []
      (collect (Text.lines text.toList)).symbols.toList).map key) :=
    firsts_placeAll keepsKey_larger firsts_nil _
  have perm := (largestFirst_spec (placeAll larger []
    (collect (Text.lines text.toList)).symbols.toList)).perm.map key
  exact perm.nodup_iff.mpr placed.nodup

/-- The keys of an image come in the order in which they are first seen, and behind them those that
only the map has. -/
theorem firsts_united (map : LinkMap) (symbols : List Symbol) :
    Firsts ((symbols ++ map.symbols).map key) ((map.united symbols).map key) := by
  -- The symbols of the image are put in first, and then those of the map.
  have own : Firsts ([] ++ symbols.map key) ((placeAll latest [] symbols).map key) :=
    firsts_placeAll keepsKey_latest firsts_nil symbols
  rw [List.nil_append] at own
  rw [List.map_append]
  exact firsts_placeAll keepsKey_fillObject own map.symbols

/-- A key of the image has its last symbol there, with the object file of the map where it has none
of its own; a key that only the map has keeps its symbol. -/
theorem at?_united {map : LinkMap} (distinct : (map.symbols.map key).Nodup)
    (symbols : List Symbol) (wanted : String × UInt64) :
    at? (map.united symbols) wanted =
      ((symbols.filter (·.key = wanted)).getLast?.map fun own =>
        { own with object? := own.object?.or ((at? map.symbols wanted).bind (·.object?)) }).or
        (at? map.symbols wanted) := by
  rw [united, at?_placeAll keepsKey_fillObject, at?_placeAll keepsKey_latest, foldl_latest,
    filter_key distinct]
  -- The map has at most one symbol with the key, which fills in the one of the image.
  cases at? map.symbols wanted with
  | none =>
    cases (symbols.filter (·.key = wanted)).getLast? with
    | none => rfl
    | some own => simp [at?]
  | some other =>
    cases (symbols.filter (·.key = wanted)).getLast? with
    | none => rfl
    | some own => simp [at?, absorb, fillObject_eq]

/-- Merged symbols are in order of their sizes, and those of one size in the order of their keys. -/
theorem ordered_merge (map : LinkMap) (symbols : List Symbol) :
    (map.merge symbols).Pairwise (Precedes ((symbols ++ map.symbols).map key)) :=
  precedes_largestFirst (firsts_united map symbols)

/-- Merging plain symbols gives tidy ones. -/
theorem tidy_merge {map : LinkMap} {symbols : List Symbol}
    (own : ∀ symbol ∈ symbols, Plain symbol) (others : ∀ symbol ∈ map.symbols, Plain symbol) :
    Tidy (map.merge symbols) := by
  apply tidy_largestFirst
  -- Filling in an object file leaves all that makes a symbol plain.
  have filled : ∀ slot symbol, Plain slot → Plain symbol → Plain (fillObject slot symbol) := by
    intro slot symbol plain _
    rw [fillObject_eq]
    exact ⟨plain.sized, plain.named, plain.noFile, plain.noLine⟩
  have latest_ : ∀ symbol ∈ placeAll latest [] symbols, Plain symbol :=
    forall_placeAll (fun _ _ _ plain => plain) (by simp) own
  exact forall_placeAll filled latest_ others

/-- No two merged symbols have one key. -/
theorem nodup_merge (map : LinkMap) (symbols : List Symbol) :
    ((map.merge symbols).map key).Nodup := by
  have perm : (map.merge symbols).Perm (map.united symbols) := (largestFirst_spec _).perm
  exact (perm.map key).nodup_iff.mpr (firsts_united map symbols).nodup

/-- Ordering the symbols of an image and of a map leaves what each key has. -/
theorem at?_merge {map : LinkMap} (distinct : (map.symbols.map key).Nodup)
    (symbols : List Symbol) (wanted : String × UInt64) :
    at? (map.merge symbols) wanted =
      ((symbols.filter (·.key = wanted)).getLast?.map fun own =>
        { own with object? := own.object?.or ((at? map.symbols wanted).bind (·.object?)) }).or
        (at? map.symbols wanted) := by
  have perm : (map.merge symbols).Perm (map.united symbols) := (largestFirst_spec _).perm
  rw [at?_of_perm (firsts_united map symbols).nodup perm, at?_united distinct]

/-- Merging gives each name and address of the image and of the map one symbol: the last one of the
image, whose object file the map fills in, or else the one of the map. Larger symbols come first;
of one size, those of the image in the order of their first places, and then those of the map. -/
theorem merge_keyed_union (text : String) (symbols : List Symbol) :
    let map := (parse text).1
    let merged := map.merge symbols
    (merged.map key).Nodup ∧
      (∀ wanted, wanted ∈ merged.map key ↔
        wanted ∈ symbols.map key ∨ wanted ∈ map.symbols.map key) ∧
      (∀ wanted, at? merged wanted =
        ((symbols.filter (·.key = wanted)).getLast?.map fun own =>
          { own with object? := own.object?.or ((at? map.symbols wanted).bind (·.object?)) }).or
          (at? map.symbols wanted)) ∧
      merged.Pairwise fun first second =>
        second.size < first.size ∨ second.size = first.size ∧
          ((symbols ++ map.symbols).map key).idxOf first.key <
            ((symbols ++ map.symbols).map key).idxOf second.key := by
  intro map merged
  -- Sorting only moves the symbols, so that their keys are those of the union.
  have perm : merged.Perm (map.united symbols) := (largestFirst_spec _).perm
  have firsts := firsts_united map symbols
  refine ⟨(perm.map key).nodup_iff.mpr firsts.nodup, ?_, ?_, ordered_merge map symbols⟩
  · intro wanted
    rw [(perm.map key).mem_iff, firsts.mem, List.map_append, List.mem_append]
  · intro wanted
    rw [at?_of_perm firsts.nodup perm, at?_united (nodup_parse text)]

end LinkMap

end Footprint
