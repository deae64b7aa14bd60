import Footprint.Proofs.Grouping
import Footprint.Proofs.LinkMap.Listing
import Mathlib.Algebra.BigOperators.Group.List.Basic

/-! The object files of a link map as a view of its symbols: each symbol comes from one of them, or
from none. -/

namespace Footprint

namespace Symbol

variable {symbols : List Symbol}

/-- The size of a largest one of some symbols, and zero if there are none. -/
def largestSize (symbols : List Symbol) : Nat := (symbols.map (·.size.toNat)).foldr max 0

/-- No symbol is larger than a largest one. -/
theorem largestSize_le_iff {bound : Nat} :
    largestSize symbols ≤ bound ↔ ∀ symbol ∈ symbols, symbol.size.toNat ≤ bound := by
  induction symbols with
  | nil => simp [largestSize]
  | cons symbol symbols ih =>
    rw [List.forall_mem_cons, ← ih]
    exact Nat.max_le

/-- Where larger symbols stand first, the object file that is named first has a symbol that is as
large as any of the other one. -/
theorem exists_larger {first second : String}
    (descending : symbols.Pairwise fun first second => second.size ≤ first.size)
    (before : (symbols.filterMap (·.object?)).idxOf first <
      (symbols.filterMap (·.object?)).idxOf second) :
    ∃ large ∈ symbols, large.object? = some first ∧
      ∀ symbol ∈ symbols, symbol.object? = some second → symbol.size ≤ large.size := by
  -- The first symbol that comes from either object file comes from the first one.
  induction symbols with
  | nil => simp at before
  | cons symbol symbols ih =>
    obtain ⟨least, descending⟩ := List.pairwise_cons.mp descending
    -- A symbol that comes from neither is passed over.
    have passed (apart : symbol.object? ≠ some second)
        (later : (symbols.filterMap (·.object?)).idxOf first <
          (symbols.filterMap (·.object?)).idxOf second) :
        ∃ large ∈ symbol :: symbols, large.object? = some first ∧
          ∀ other ∈ symbol :: symbols, other.object? = some second → other.size ≤ large.size := by
      obtain ⟨large, member, here, all⟩ := ih descending later
      exact ⟨large, List.mem_cons_of_mem _ member, here,
        List.forall_mem_cons.mpr ⟨fun named => absurd named apart, all⟩⟩
    cases object? : symbol.object? with
    | none =>
      rw [List.filterMap_cons_none object?] at before
      exact passed (by simp [object?]) before
    | some object =>
      rw [List.filterMap_cons_some object?] at before
      by_cases here : object = first
      · exact ⟨symbol, List.mem_cons_self, here ▸ object?,
          List.forall_mem_cons.mpr ⟨fun _ => UInt64.le_refl _, fun other member _ =>
            least other member⟩⟩
      · by_cases there : object = second
        · rw [there, List.idxOf_cons_self] at before
          exact absurd before (Nat.not_lt_zero _)
        · rw [List.idxOf_cons_ne _ here, List.idxOf_cons_ne _ there] at before
          exact passed (by simpa [object?] using there) (Nat.lt_of_succ_lt_succ before)

end Symbol

namespace LinkMap

open Footprint.Symbol

variable {map : LinkMap}

/-- The distinct texts of a list stand in the order of their first places. -/
theorem firsts_distinct {front done seen : List String} (firsts : Firsts front done)
    (same : ∀ text, text ∈ seen ↔ text ∈ done) (texts : List String) :
    Firsts (front ++ texts) (done ++ distinct seen texts) := by
  -- What was seen is what is listed so far.
  induction texts generalizing front done seen with
  | nil => simpa [distinct] using firsts
  | cons text texts ih =>
    rw [distinct, List.append_cons]
    by_cases known : text ∈ seen
    · rw [if_pos (List.contains_iff_mem.mpr known)]
      exact ih (firsts.again ((same text).mp known)) same
    · rw [if_neg (mt List.contains_iff_mem.mp known), List.append_cons done]
      refine ih (firsts.push (mt (same text).mpr known)) fun other => ?_
      rw [List.mem_cons, List.mem_append, List.mem_singleton, same, or_comm]

/-- The object files of a map are those of its symbols, in the order of their first places. -/
theorem firsts_objects (map : LinkMap) :
    Firsts (map.symbols.filterMap (·.object?)) map.objects :=
  firsts_distinct firsts_nil (fun _ => Iff.rfl) _

/-- An object file is listed if there are symbols from it. -/
theorem mem_objects_iff (object : String) :
    object ∈ map.objects ↔ map.symbolsForObject object ≠ [] := by
  rw [(firsts_objects map).mem, List.mem_filterMap]
  exact group_ne_nil_iff.symm

/-- Object files are ordered by their largest symbols where larger symbols stand first. -/
theorem pairwise_objects
    (descending : map.symbols.Pairwise fun first second => second.size ≤ first.size) :
    map.objects.Pairwise fun first second =>
      largestSize (map.symbolsForObject second) ≤ largestSize (map.symbolsForObject first) := by
  refine (firsts_objects map).ordered.imp fun {first second} before => ?_
  -- The file that is named first has a symbol that bounds all symbols of the other one.
  obtain ⟨large, member, here, all⟩ := exists_larger descending before
  have own : large ∈ map.symbolsForObject first :=
    List.mem_filter.mpr ⟨member, decide_eq_true here⟩
  rw [largestSize_le_iff]
  intro symbol there
  obtain ⟨inside, named⟩ := List.mem_filter.mp there
  have smaller := UInt64.le_iff_toNat_le.mp (all symbol inside (of_decide_eq_true named))
  exact Nat.le_trans smaller (largestSize_le_iff.mp (Nat.le_refl _) large own)

/-- No object file of a symbol is left out. -/
theorem object_mem_objects :
    ∀ symbol ∈ map.symbols, ∀ object, symbol.object? = some object → object ∈ map.objects :=
  fun symbol member object named =>
    (mem_objects_iff object).mpr (group_ne_nil_iff.mpr ⟨symbol, member, named⟩)

/-- The symbols that come from an object file, whichever it is. -/
def attributed (map : LinkMap) : List Symbol := map.symbols.filter (·.object?.isSome)

/-- Taken object file by object file, the symbols are those that come from any. -/
theorem perm_attributed (map : LinkMap) :
    (map.objects.flatMap map.symbolsForObject).Perm map.attributed :=
  perm_labelled (firsts_objects map).nodup object_mem_objects

/-- What symbols add up to, object file by object file, is what all those add up to that come from
any. -/
theorem sum_attributed (map : LinkMap) (weight : Symbol → Nat) :
    (map.objects.map fun object => ((map.symbolsForObject object).map weight).sum).sum =
      (map.attributed.map weight).sum := by
  -- A sum does not depend on the order, and that of a concatenation is the sum of the sums.
  rw [← ((perm_attributed map).map weight).sum_eq, List.map_flatMap, List.flatMap_def,
    List.sum_flatten, List.map_map]
  rfl

end LinkMap

end Footprint
