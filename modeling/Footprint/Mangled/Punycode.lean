/-! Punycode: the characters past ASCII of an identifier, written as insertions into its ASCII
part. -/

namespace Footprint.Mangled.Punycode

/-- The number of digits. -/
def base : Nat := 36

/-- A decoded identifier holds at most this many characters. -/
def capacity : Nat := 128

/-- Every intermediate number is kept in a machine word. -/
def wordLimit : Nat := UInt64.size

/-- A lower-case letter counts from zero, and the decimal digits follow the letters. -/
def digit? (char : Char) : Option Nat :=
  if 'a' ≤ char ∧ char ≤ 'z' then some (char.toNat - 'a'.toNat)
  else if '0' ≤ char ∧ char ≤ '9' then some (26 + (char.toNat - '0'.toNat))
  else none

/-- The least digit value at a place that is not the last of its number. -/
def threshold (place bias : Nat) : Nat := min (max (place - bias) 1) 26

/-- One number of digits of varying weight, and what follows it; a digit below its threshold is
the last. -/
def delta? (bias place weight total : Nat) : List Char → Option (Nat × List Char)
  | [] => none
  | char :: rest => do
    let digit ← digit? char
    let total := total + digit * weight
    let limit := threshold place bias
    if wordLimit ≤ total then none
    else if digit < limit then some (total, rest)
    else if wordLimit ≤ weight * (base - limit) then none
    else delta? bias (place + base) (weight * (base - limit)) total rest

/-- Large steps are brought into the range of one digit, counting the digits taken off. -/
def scale (delta shift : Nat) : Nat × Nat :=
  if 455 < delta then scale (delta / 35) (shift + base) else (delta, shift)
termination_by delta
decreasing_by omega

/-- The bias that suits numbers like the last one. -/
def adapt (delta damp length : Nat) : Nat :=
  let damped := delta / damp
  let (delta, shift) := scale (damped + damped / length) 0
  shift + base * delta / (delta + 38)

/-- A step of zero digits reads nothing, and any other reads at least one character. -/
theorem delta?_length {bias place weight total value : Nat} {chars rest : List Char}
    (read : delta? bias place weight total chars = some (value, rest)) :
    rest.length < chars.length := by
  -- Each digit is one character, and the last one is read too.
  induction chars generalizing place weight total with
  | nil => simp [delta?] at read
  | cons char tail ih =>
    cases known : digit? char with
    | none => simp [delta?, known] at read
    | some digit =>
      simp only [delta?, known, Option.bind_eq_bind, Option.bind_some] at read
      split at read
      · simp at read
      · split at read
        · simp only [Option.some.injEq, Prod.mk.injEq] at read
          simp [read.2]
        · split at read
          · simp at read
          · have shorter := ih read
            simp only [List.length_cons]
            omega

/-- Where the insertions stand between two numbers. -/
structure Progress where
  /-- The characters so far. -/
  chars : List Char
  /-- The place of the last insertion, one past it. -/
  place : Nat
  /-- The code point of the last insertion. -/
  code : Nat
  /-- The bias for the next number. -/
  bias : Nat
  /-- The divisor for the next adaptation. -/
  damp : Nat

/-- A step moves through the places of the text and, each time it comes round, to the next code
point. -/
def Progress.insert? (progress : Progress) (delta : Nat) : Option Progress :=
  let length := progress.chars.length + 1
  let moved := progress.place + delta
  let code := progress.code + moved / length
  let place := moved % length
  if wordLimit ≤ moved ∨ wordLimit ≤ code ∨ ¬ code.isValidChar ∨ capacity < length then none
  else some
    { chars := progress.chars.insertIdx place (Char.ofNat code)
      place := place + 1
      code
      bias := adapt delta progress.damp length
      damp := 2 }

/-- All insertions, of which there is at least one. -/
def insertions? (progress : Progress) (deltas : List Char) : Option (List Char) :=
  match _read : delta? progress.bias base 1 0 deltas with
  | none => none
  | some (delta, rest) =>
    match progress.insert? delta with
    | none => none
    | some next => if rest = [] then some next.chars else insertions? next rest
termination_by deltas.length
decreasing_by exact delta?_length _read

/-- The identifier that an ASCII part and its insertions spell. -/
def decode? (ascii deltas : List Char) : Option (List Char) :=
  if capacity < ascii.length then none
  else insertions? ⟨ascii, 0, 0x80, 72, 700⟩ deltas

end Footprint.Mangled.Punycode
