import Footprint.LinkMap.Keyed
import Footprint.Proofs.Symbol
import Mathlib.Data.List.Basic
import Mathlib.Data.List.Induction

/-! Lists of symbols with distinct keys: which keys they have, in which order, and what symbol each
key has. -/

namespace Footprint

section Firsts

variable {α : Type} [BEq α] {seen distinct : List α} {value : α}

/-- The distinct values of a list, in the order of their first places. -/
structure Firsts (seen distinct : List α) : Prop where
  mem : ∀ value, value ∈ distinct ↔ value ∈ seen
  ordered : distinct.Pairwise fun first second => seen.idxOf first < seen.idxOf second

/-- An empty list has no values. -/
theorem firsts_nil : Firsts ([] : List α) [] := ⟨fun _ => Iff.rfl, List.Pairwise.nil⟩

/-- Each value is there once. -/
theorem Firsts.nodup (firsts : Firsts seen distinct) : distinct.Nodup := by
  -- No first place lies before itself.
  apply firsts.ordered.imp
  intro first second before same
  rw [same] at before
  exact Nat.lt_irrefl _ before

variable [LawfulBEq α]

/-- The first places of values stay where they are when the list goes on. -/
theorem Firsts.goes_on (firsts : Firsts seen distinct) (more : List α) :
    distinct.Pairwise fun first second =>
      (seen ++ more).idxOf first < (seen ++ more).idxOf second := by
  -- A value is looked for from the front.
  apply firsts.ordered.imp_of_mem
  intro first second firstIn secondIn before
  rw [List.idxOf_append_of_mem ((firsts.mem first).mp firstIn),
    List.idxOf_append_of_mem ((firsts.mem second).mp secondIn)]
  exact before

/-- A value that was seen before adds none. -/
theorem Firsts.again (firsts : Firsts seen distinct) (known : value ∈ distinct) :
    Firsts (seen ++ [value]) distinct := by
  -- Only the membership of the value itself is at stake, and it was a member already.
  refine ⟨?_, firsts.goes_on [value]⟩
  intro other
  rw [firsts.mem, List.mem_append, List.mem_singleton]
  constructor
  · exact .inl
  · rintro (before | rfl)
    · exact before
    · exact (firsts.mem other).mp known

/-- A value that was not seen before comes last. -/
theorem Firsts.push (firsts : Firsts seen distinct) (new : value ∉ distinct) :
    Firsts (seen ++ [value]) (distinct ++ [value]) := by
  constructor
  · intro other
    rw [List.mem_append, List.mem_append, firsts.mem]
  · rw [List.pairwise_append]
    refine ⟨firsts.goes_on [value], List.pairwise_singleton _ _, ?_⟩
    -- The new value stands behind all that was seen.
    intro first member last here
    obtain rfl := List.mem_singleton.mp here
    have before := (firsts.mem first).mp member
    rw [List.idxOf_append_of_mem before,
      List.idxOf_append_of_notMem (mt (firsts.mem last).mpr new)]
    have inside := List.idxOf_lt_length_of_mem before
    omega

/-- Values of which no two are the same are their own first places. -/
theorem firsts_of_nodup {values : List α} (alone : values.Nodup) : Firsts values values := by
  -- The last value is new to those in front of it.
  induction values using List.reverseRecOn with
  | nil => exact firsts_nil
  | append_singleton values value ih =>
    obtain ⟨front, _, apart⟩ := List.nodup_append.mp alone
    apply (ih front).push
    intro member
    exact apart value member value (List.mem_singleton_self value) rfl

end Firsts

namespace Symbol

/-- The symbol of a key. -/
def at? (slots : List Symbol) (key : String × UInt64) : Option Symbol :=
  slots.find? (·.key = key)

/-- Symbols are the same piece of memory if they have one key. -/
theorem sameKey_iff (first second : Symbol) : first.sameKey second ↔ first.key = second.key := by
  simp [sameKey, key, and_comm]

/-- A combination of two symbols with one key that has their key. -/
def KeepsKey (combine : Symbol → Symbol → Symbol) : Prop :=
  ∀ slot symbol, slot.key = symbol.key → (combine slot symbol).key = symbol.key

/-- The larger of two symbols has their key. -/
theorem keepsKey_larger : KeepsKey larger := by
  intro slot symbol same
  rw [larger]
  split
  · rfl
  · exact same

/-- The later of two symbols has their key. -/
theorem keepsKey_latest : KeepsKey latest := fun _ _ _ => rfl

/-- A symbol with its object file filled in has its key. -/
theorem keepsKey_fillObject : KeepsKey fillObject := by
  intro slot symbol same
  rw [fillObject]
  -- Whether an object file is filled in or not, the name and the address stay.
  split
  · exact same
  · exact same

variable {combine : Symbol → Symbol → Symbol} {slots : List Symbol}

/-- Putting a symbol in leaves the keys as they are, or adds its own where that is new. -/
theorem keys_place (keeps : KeepsKey combine) (symbol : Symbol) (slots : List Symbol) :
    (place combine symbol slots).map key =
      if symbol.key ∈ slots.map key then slots.map key else slots.map key ++ [symbol.key] := by
  -- The slots are passed up to the one with the key, or to the end.
  induction slots with
  | nil => rfl
  | cons slot slots ih =>
    rw [place]
    by_cases same : slot.key = symbol.key
    · rw [if_pos ((sameKey_iff slot symbol).mpr same), List.map_cons, List.map_cons,
        keeps slot symbol same, same, if_pos List.mem_cons_self]
    · have member : symbol.key ∈ slot.key :: slots.map key ↔ symbol.key ∈ slots.map key := by
        rw [List.mem_cons]
        exact or_iff_right (Ne.symm same)
      rw [if_neg (mt (sameKey_iff slot symbol).mp same), List.map_cons, List.map_cons, ih]
      simp only [member]
      split <;> rfl

/-- The key of a symbol that was put in has the symbol, combined with the one that it had, and any
other key has what it had. -/
theorem at?_place (keeps : KeepsKey combine) (symbol : Symbol) (slots : List Symbol)
    (wanted : String × UInt64) :
    at? (place combine symbol slots) wanted =
      if symbol.key = wanted then
        some (((at? slots wanted).map (combine · symbol)).getD symbol)
      else at? slots wanted := by
  -- The first slot with the key of the symbol is also the first one that a search finds.
  induction slots with
  | nil =>
    rw [place, at?]
    by_cases here : symbol.key = wanted <;> simp [at?, here]
  | cons slot slots ih =>
    rw [place]
    by_cases same : slot.key = symbol.key
    · have combined := keeps slot symbol same
      rw [if_pos ((sameKey_iff slot symbol).mpr same)]
      by_cases here : symbol.key = wanted
      · simp [at?, combined, same, here]
      · simp [at?, combined, same, here]
    · rw [if_neg (mt (sameKey_iff slot symbol).mp same)]
      rw [at?] at ih
      by_cases there : slot.key = wanted
      · have other : symbol.key ≠ wanted := fun here => same (there.trans here.symm)
        simp [at?, there, other]
      · simp only [at?, List.find?_cons, there, decide_false]
        exact ih

/-- Symbols put in one after the other add the keys that are new, in the order in which they are
first seen. -/
theorem firsts_placeAll (keeps : KeepsKey combine) {seen : List (String × UInt64)}
    (firsts : Firsts seen (slots.map key)) (symbols : List Symbol) :
    Firsts (seen ++ symbols.map key) ((placeAll combine slots symbols).map key) := by
  -- One symbol after the other is seen and put in.
  induction symbols generalizing seen slots with
  | nil =>
    rw [List.map_nil, List.append_nil]
    exact firsts
  | cons symbol symbols ih =>
    have next : Firsts (seen ++ [symbol.key]) ((place combine symbol slots).map key) := by
      rw [keys_place keeps]
      split
      · rename_i known
        exact firsts.again known
      · rename_i new
        exact firsts.push new
    have rest := ih next
    rwa [List.append_assoc] at rest

/-- What becomes of the symbol of a key when another one with that key is put in. -/
def absorb (combine : Symbol → Symbol → Symbol) (slot? : Option Symbol) (symbol : Symbol) :
    Option Symbol :=
  some ((slot?.map (combine · symbol)).getD symbol)

/-- A key has what became of its symbols, one after the other. -/
theorem at?_placeAll (keeps : KeepsKey combine) (slots symbols : List Symbol)
    (wanted : String × UInt64) :
    at? (placeAll combine slots symbols) wanted =
      (symbols.filter (·.key = wanted)).foldl (absorb combine) (at? slots wanted) := by
  -- A symbol with another key leaves what the wanted one has.
  induction symbols generalizing slots with
  | nil => rfl
  | cons symbol symbols ih =>
    have rest := ih (place combine symbol slots)
    rw [at?_place keeps] at rest
    by_cases here : symbol.key = wanted
    · rw [if_pos here] at rest
      rw [List.filter_cons_of_pos (by simpa using here)]
      exact rest
    · rw [if_neg here] at rest
      rw [List.filter_cons_of_neg (by simpa using here)]
      exact rest

/-- What holds of all symbols, and of the combinations of any two, holds of those that were put
in. -/
theorem forall_placeAll {holds : Symbol → Prop}
    (closed : ∀ slot symbol, holds slot → holds symbol → holds (combine slot symbol))
    {symbols : List Symbol} (before : ∀ symbol ∈ slots, holds symbol)
    (own : ∀ symbol ∈ symbols, holds symbol) :
    ∀ symbol ∈ placeAll combine slots symbols, holds symbol := by
  have step : ∀ (symbol : Symbol) (slots : List Symbol), holds symbol →
      (∀ slot ∈ slots, holds slot) → ∀ slot ∈ place combine symbol slots, holds slot := by
    intro symbol slots new old
    induction slots with
    | nil => simpa [place] using new
    | cons slot slots ih =>
      obtain ⟨first, rest⟩ := List.forall_mem_cons.mp old
      rw [place]
      split
      · exact List.forall_mem_cons.mpr ⟨closed slot symbol first new, rest⟩
      · exact List.forall_mem_cons.mpr ⟨first, ih rest⟩
  -- Each symbol joins slots of which it holds already.
  induction symbols generalizing slots with
  | nil => exact before
  | cons symbol symbols ih =>
    obtain ⟨first, rest⟩ := List.forall_mem_cons.mp own
    exact ih (step symbol slots first before) rest

/-- A symbol is the one of its key where keys are distinct. -/
theorem at?_of_mem (distinct : (slots.map key).Nodup) {symbol : Symbol} (member : symbol ∈ slots) :
    at? slots symbol.key = some symbol := by
  -- The slots in front of the symbol have other keys.
  induction slots with
  | nil => exact absurd member List.not_mem_nil
  | cons slot slots ih =>
    obtain ⟨alone, others⟩ := List.nodup_cons.mp distinct
    rcases List.mem_cons.mp member with rfl | later
    · simp [at?]
    · have other : slot.key ≠ symbol.key := by
        intro same
        apply alone
        rw [same]
        exact List.mem_map_of_mem later
      rw [at?, List.find?_cons_of_neg (by simpa using other)]
      exact ih others later

/-- The symbol of a key has it. -/
theorem mem_of_at? {wanted : String × UInt64} {symbol : Symbol}
    (found : at? slots wanted = some symbol) : symbol ∈ slots ∧ symbol.key = wanted :=
  ⟨List.mem_of_find?_eq_some found, by simpa using List.find?_some found⟩

/-- The order of symbols with distinct keys makes no difference to what a key has. -/
theorem at?_of_perm {listed : List Symbol} (distinct : (slots.map key).Nodup)
    (perm : listed.Perm slots) (wanted : String × UInt64) : at? listed wanted = at? slots wanted := by
  have own : (listed.map key).Nodup := (perm.map key).nodup_iff.mpr distinct
  cases found : at? listed wanted with
  | some symbol =>
    obtain ⟨member, rfl⟩ := mem_of_at? found
    exact (at?_of_mem distinct (perm.mem_iff.mp member)).symm
  | none =>
    cases other : at? slots wanted with
    | none => rfl
    | some symbol =>
      -- A symbol that one of them has is in both.
      obtain ⟨member, rfl⟩ := mem_of_at? other
      rw [at?_of_mem own (perm.mem_iff.mpr member)] at found
      contradiction

/-- Where keys are distinct, at most one symbol has a key. -/
theorem filter_key (distinct : (slots.map key).Nodup) (wanted : String × UInt64) :
    slots.filter (·.key = wanted) = (at? slots wanted).toList := by
  -- Behind the first slot with the key, there is no other one.
  induction slots with
  | nil => rfl
  | cons slot slots ih =>
    obtain ⟨alone, others⟩ := List.nodup_cons.mp distinct
    by_cases here : slot.key = wanted
    · have none : slots.filter (·.key = wanted) = [] := by
        rw [List.filter_eq_nil_iff]
        intro other member same
        apply alone
        rw [here, ← of_decide_eq_true same]
        exact List.mem_map_of_mem member
      rw [List.filter_cons_of_pos (by simpa using here), none, at?,
        List.find?_cons_of_pos (by simpa using here)]
      rfl
    · rw [List.filter_cons_of_neg (by simpa using here), ih others, at?, at?,
        List.find?_cons_of_neg (by simpa using here)]

/-- Lists of symbols with distinct keys have the same symbols if each key has the same one. -/
theorem perm_of_at?_eq {listed : List Symbol} (distinct : (slots.map key).Nodup)
    (own : (listed.map key).Nodup) (same : ∀ wanted, at? listed wanted = at? slots wanted) :
    listed.Perm slots := by
  rw [List.perm_ext_iff_of_nodup own.of_map distinct.of_map]
  intro symbol
  constructor
  · intro member
    exact (mem_of_at? ((same symbol.key).symm.trans (at?_of_mem own member))).1
  · intro member
    exact (mem_of_at? ((same symbol.key).trans (at?_of_mem distinct member))).1

/-- Whether a symbol is larger than another, or as large and the one whose key was seen earlier. -/
def Precedes (seen : List (String × UInt64)) (first second : Symbol) : Prop :=
  second.size < first.size ∨
    second.size = first.size ∧ seen.idxOf first.key < seen.idxOf second.key

/-- No two symbols precede one another. -/
theorem Precedes.asymm {seen : List (String × UInt64)} {first second : Symbol}
    (before : Precedes seen first second) : ¬ Precedes seen second first := by
  -- The sizes, or else the places of the keys, would each be below the other.
  rintro (smaller | ⟨tied, later⟩)
  · rcases before with larger | ⟨tied, _⟩
    · exact UInt64.lt_asymm larger smaller
    · exact UInt64.lt_irrefl _ (tied ▸ smaller)
  · rcases before with larger | ⟨_, earlier⟩
    · exact UInt64.lt_irrefl _ (tied ▸ larger)
    · omega

/-- The order of symbols with some keys tells how they are listed. -/
theorem eq_of_precedes {seen : List (String × UInt64)} {listed : List Symbol}
    (perm : listed.Perm slots) (first : listed.Pairwise (Precedes seen))
    (second : slots.Pairwise (Precedes seen)) : listed = slots :=
  perm.eq_of_pairwise (fun _ _ _ _ before after => absurd after before.asymm) first second

/-- Symbols with distinct keys, larger ones first, stand in the order of their own keys. -/
theorem precedes_of_nodup (distinct : (slots.map key).Nodup)
    (descending : slots.Pairwise fun first second => second.size ≤ first.size) :
    slots.Pairwise (Precedes (slots.map key)) := by
  have ordered := List.pairwise_map.mp (firsts_of_nodup distinct).ordered
  refine (descending.and ordered).imp ?_
  rintro first second ⟨descends, before⟩
  by_cases tied : second.size = first.size
  · exact .inr ⟨tied, before⟩
  · exact .inl (UInt64.lt_of_le_of_ne descends tied)

/-- Sorting symbols whose keys stand in the order in which they were first seen puts larger ones
first, and those of one size in the order of their keys. -/
theorem precedes_largestFirst {seen : List (String × UInt64)}
    (firsts : Firsts seen (slots.map key)) : (largestFirst slots).Pairwise (Precedes seen) := by
  have listed := largestFirst_spec slots
  -- Any two symbols are compared by where they are listed.
  rw [List.pairwise_iff_forall_sublist]
  intro first second part
  have descends := List.pairwise_iff_forall_sublist.mp listed.descending part
  by_cases tied : second.size = first.size
  · -- Symbols of one size stay in the order in which their keys were seen.
    have given := (listed.sublist tied.symm part).map key
    exact .inr ⟨tied, List.pairwise_iff_forall_sublist.mp firsts.ordered given⟩
  · exact .inl (UInt64.lt_of_le_of_ne descends tied)

end Symbol

end Footprint
