import Footprint.Proofs.Sorting
import Footprint.Symbol

/-! The order in which symbols are listed, and what all listed symbols have in common. -/

namespace Footprint.Symbol

/-- Whether symbols are listed with larger ones first and those of one size as they were given. -/
structure LargestFirst (given listed : List Symbol) : Prop where
  perm : listed.Perm given
  descending : listed.Pairwise fun first second => second.size ≤ first.size
  stable : ∀ size, listed.filter (·.size = size) = given.filter (·.size = size)

/-- Sorting lists the larger symbols first and keeps those of one size in order. -/
theorem largestFirst_spec (symbols : List Symbol) : LargestFirst symbols (largestFirst symbols) := by
  -- The sizes of any two symbols compare, and comparing them is transitive.
  have trans : ∀ first second third : Symbol, decide (second.size ≤ first.size) →
      decide (third.size ≤ second.size) → decide (third.size ≤ first.size) := by
    intro first second third above below
    simp only [decide_eq_true_eq] at above below ⊢
    exact UInt64.le_trans below above
  have total : ∀ first second : Symbol,
      decide (second.size ≤ first.size) || decide (first.size ≤ second.size) := by
    intro first second
    simp only [Bool.or_eq_true, decide_eq_true_eq]
    exact UInt64.le_total _ _
  constructor
  · exact List.mergeSort_perm symbols _
  · have sorted := List.pairwise_mergeSort trans total symbols
    rw [largestFirst]
    exact sorted.imp fun descends => of_decide_eq_true descends
  · intro size
    -- Symbols of one size are tied.
    apply filter_mergeSort trans total
    intro first second here there
    simp only [decide_eq_true_eq] at here there ⊢
    exact UInt64.le_of_eq (there.trans here.symm)

/-- Of two symbols of one size, the one listed first was given first. -/
theorem LargestFirst.sublist {given listed : List Symbol} (ordered : LargestFirst given listed)
    {first second : Symbol} (tied : first.size = second.size)
    (part : [first, second].Sublist listed) : [first, second].Sublist given := by
  -- Both are among the symbols of their size, which keep their order.
  have kept := part.filter (·.size = second.size)
  rw [ordered.stable] at kept
  have both : [first, second].filter (·.size = second.size) = [first, second] := by
    simp [tied]
  rw [both] at kept
  exact kept.trans List.filter_sublist

/-- Whether a symbol takes memory under a name, and nothing is said of its source. -/
structure Plain (symbol : Symbol) : Prop where
  sized : 0 < symbol.size
  named : symbol.name ≠ ""
  noFile : symbol.sourceFile? = none
  noLine : symbol.sourceLine? = none

/-- Whether symbols are plain, and larger ones stand first. -/
structure Tidy (symbols : List Symbol) : Prop where
  descending : symbols.Pairwise fun first second => second.size ≤ first.size
  plain : ∀ symbol ∈ symbols, Plain symbol

/-- Any part of a tidy list is tidy. -/
theorem Tidy.filter {symbols : List Symbol} (tidy : Tidy symbols) (keep : Symbol → Bool) :
    Tidy (symbols.filter keep) where
  descending := tidy.descending.filter keep
  plain := fun symbol member => tidy.plain symbol (List.mem_of_mem_filter member)

/-- Plain symbols are tidy once they are sorted. -/
theorem tidy_largestFirst {symbols : List Symbol} (plain : ∀ symbol ∈ symbols, Plain symbol) :
    Tidy (largestFirst symbols) where
  descending := (largestFirst_spec symbols).descending
  plain := fun symbol member => plain symbol ((largestFirst_spec symbols).perm.mem_iff.mp member)

end Footprint.Symbol
