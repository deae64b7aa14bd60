/-! Runs of bytes, the numbers they spell, and the zero bytes that end the texts inside them. -/

namespace Footprint

/-- A run of bytes. -/
abbrev Bytes := Array UInt8

namespace Bytes

/-- The number a run of bytes spells with its lowest digit first. -/
def littleEndian : List UInt8 → Nat
  | [] => 0
  | byte :: rest => byte.toNat + 256 * littleEndian rest

/-- The run of bytes from one place up to, and without, another. -/
def slice (data : Bytes) (start stop : Nat) : Bytes :=
  data.extract start stop

/-- The place of the first zero byte at or after a start. -/
def terminator? (data : Bytes) (start : Nat) : Option Nat :=
  if inside : start < data.size then
    if data[start] = 0 then some start else terminator? data (start + 1)
  else
    -- No zero is left, and callers decide what that means.
    none
termination_by data.size - start

/-- A terminator lies at or after the start it was sought from, inside the bytes, and is zero. -/
theorem terminator?_spec {data : Bytes} {start place : Nat}
    (found : terminator? data start = some place) :
    start ≤ place ∧ data[place]? = some 0 := by
  -- The search moves one place at a time and stops at the first zero.
  fun_induction terminator? data start with
  | case1 start inside zero =>
    simp only [Option.some.injEq] at found
    subst found
    exact ⟨Nat.le_refl _, by rw [Array.getElem?_eq_getElem inside, zero]⟩
  | case2 start inside other ih =>
    have later := ih found
    exact ⟨by omega, later.2⟩
  | case3 => simp at found

end Bytes

end Footprint
