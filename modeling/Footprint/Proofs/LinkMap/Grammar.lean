import Footprint.LinkMap.Line
import Mathlib.Data.List.TakeWhile

/-! The grammar of the lines of a link map: the parts that lines are read as. -/

namespace Footprint.LinkMap

open Text (isBlank)

section Parts

/-- Whether a character can stand behind a zero in the mark of a hexadecimal number. -/
def isMarkLetter (char : Char) : Bool := char == 'x' || char == 'X'

/-- Whether a character can stand behind a period in the mark of an object file. -/
def isObjectLetter (char : Char) : Bool := char == 'o' || char == 'O'

/-- At least one character, and all of a class. -/
def Run (accepts : Char → Bool) (text : List Char) : Prop :=
  text ≠ [] ∧ ∀ char ∈ text, accepts char

/-- A hexadecimal number with its mark, behind blanks. -/
inductive Spaced (digits : List Char) : List Char → Prop
  | intro (blanks : List Char) (letter : Char) :
    Run isBlank blanks → isMarkLetter letter → Run isHexDigit digits →
      Spaced digits (blanks ++ '0' :: letter :: digits)

/-- Two hexadecimal numbers in a row. -/
inductive Numbers (first second : List Char) : List Char → Prop
  | intro (front back : List Char) :
    Spaced first front → Spaced second back → Numbers first second (front ++ back)

/-- A line that consists of a name of the characters of a class, two numbers and a rest. -/
inductive Named (accepts : Char → Bool) : List Char → Placement → List Char → Prop
  | intro {placement : Placement} (numbers : List Char) {rest : List Char} :
    Run accepts placement.name → Numbers placement.address placement.size numbers →
      Named accepts (placement.name ++ (numbers ++ rest)) placement rest

/-- A line that consists of blanks, a name without blanks, two numbers and a rest. -/
inductive Indented : List Char → Placement → List Char → Prop
  | intro (blanks line : List Char) {rest : List Char} {placement : Placement} :
    Run isBlank blanks → Named (!isBlank ·) line placement rest →
      Indented (blanks ++ line) placement rest

/-- A text that ends with the mark of an object file. -/
inductive Marked : List Char → Prop
  | intro (front : List Char) (letter : Char) :
    isObjectLetter letter → Marked (front ++ ['.', letter])

/-- The path of an object file: at least one character in front of the mark. -/
inductive IsPath : List Char → Prop
  | intro (first : Char) (rest : List Char) : Marked rest → IsPath (first :: rest)

/-- The parts of a text that names an object file. -/
structure ObjectParts where
  before : List Char
  numbers : List Char
  gap : List Char
  path : List Char
  rest : List Char

/-- The parts make up a text one after the other: anything, two numbers, blanks, a path and a
rest. -/
structure ObjectParts.StandIn (parts : ObjectParts) (text : List Char) : Prop where
  whole : text = parts.before ++ (parts.numbers ++ (parts.gap ++ (parts.path ++ parts.rest)))
  numbers : ∃ first second, Numbers first second parts.numbers
  gap : Run isBlank parts.gap
  path : IsPath parts.path

/-- The parts that count: the earliest numbers, the longest gap behind those, and the path up to
the last mark of the text. -/
structure ObjectParts.Count (parts : ObjectParts) (text : List Char) : Prop
    extends parts.StandIn text where
  earliest : ∀ other : ObjectParts, other.StandIn text → parts.before.length ≤ other.before.length
  longest : ∀ other : ObjectParts, other.StandIn text → other.before = parts.before →
    other.gap.length ≤ parts.gap.length
  last : ∀ front, Marked front → ¬ front <+: parts.rest

end Parts

section Classes

/-- The code points of white space, one by one. -/
def blankCodes : List Nat :=
  [0x9, 0xa, 0xb, 0xc, 0xd, 0x20, 0x85, 0xa0, 0x1680, 0x2000, 0x2001, 0x2002, 0x2003, 0x2004,
    0x2005, 0x2006, 0x2007, 0x2008, 0x2009, 0x200a, 0x2028, 0x2029, 0x202f, 0x205f, 0x3000]

/-- A blank has one of the code points of white space. -/
theorem exists_code_of_isBlank {char : Char} (blank : isBlank char) :
    ∃ code ∈ blankCodes, Char.ofNat code = char := by
  refine ⟨char.toNat, ?_, Char.ofNat_toNat char⟩
  simp only [isBlank, Text.blankRanges, Text.CodePoints.contains] at blank
  simp at blank
  simp only [blankCodes, List.mem_cons, List.not_mem_nil, or_false]
  omega

/-- A blank is no digit, no letter and no mark. -/
theorem apart_of_isBlank {char : Char} (blank : isBlank char) :
    isHexDigit char = false ∧ char.isAlphanum = false ∧ char ≠ '_' ∧ char ≠ '.' := by
  -- There are few blanks, which are all looked at.
  have each : ∀ code ∈ blankCodes, isHexDigit (.ofNat code) = false ∧
      (Char.ofNat code).isAlphanum = false ∧ Char.ofNat code ≠ '_' ∧ Char.ofNat code ≠ '.' := by
    decide +kernel
  obtain ⟨code, among, rfl⟩ := exists_code_of_isBlank blank
  exact each code among

/-- A character of a set lies in one of its ranges. -/
theorem exists_range_of_contains {ranges : Text.CodePoints} {char : Char}
    (inside : ranges.contains char) :
    ∃ range ∈ ranges.toList, range.1 ≤ char.toNat ∧ char.toNat ≤ range.2 := by
  rw [Text.CodePoints.contains, ← Array.any_toList, List.any_eq_true] at inside
  simpa using inside

/-- No range of word characters meets one of blanks. -/
theorem wordRanges_apart :
    (Text.wordRanges.toList.all fun word => Text.blankRanges.toList.all fun blank =>
      word.2.blt blank.1 || blank.2.blt word.1) = true := by
  decide +kernel

/-- A blank is not a character of a word. -/
theorem not_isWord_of_isBlank {char : Char} (blank : isBlank char) : Text.isWord char = false := by
  have outside : Text.wordRanges.contains char = false := by
    by_contra inside
    obtain ⟨word, isWord, above, below⟩ :=
      exists_range_of_contains (Bool.of_not_eq_false inside)
    obtain ⟨range, isRange, first, last⟩ := exists_range_of_contains blank
    have apart := List.all_eq_true.mp (List.all_eq_true.mp wordRanges_apart word isWord) range isRange
    rw [Bool.or_eq_true, Nat.blt_eq, Nat.blt_eq] at apart
    omega
  obtain ⟨_, letter, underscore, _⟩ := apart_of_isBlank blank
  simp [Text.isWord, outside, letter, underscore]

/-- What can stand in a name on a line that is not indented is no blank. -/
theorem not_isBlank_of_isBareNameChar {char : Char} (accepted : isBareNameChar char) :
    isBlank char = false := by
  by_contra blank
  have blank := Bool.of_not_eq_false blank
  simp [isBareNameChar, not_isWord_of_isBlank blank, (apart_of_isBlank blank).2.2.2] at accepted

/-- A hexadecimal digit is no blank. -/
theorem not_isBlank_of_isHexDigit {char : Char} (accepted : isHexDigit char) :
    isBlank char = false := by
  by_contra blank
  have refused := (apart_of_isBlank (Bool.of_not_eq_false blank)).1
  simp [accepted] at refused

/-- A zero is no blank. -/
theorem not_isBlank_zero : isBlank '0' = false := not_isBlank_of_isHexDigit (by decide)

end Classes

section Runs

variable {accepts : Char → Bool} {run rest text : List Char}

/-- The characters of a class at the start of a text are a run if there are any. -/
theorem run_takeWhile (some_ : text.takeWhile accepts ≠ []) : Run accepts (text.takeWhile accepts) :=
  ⟨some_, fun _ member => List.mem_takeWhile_imp member⟩

/-- A text that starts with a run starts with a character of its class. -/
theorem Run.head (run : Run accepts text) (rest : List Char) :
    ∀ char ∈ (text ++ rest).head?, accepts char := by
  obtain ⟨first, others, rfl⟩ := List.exists_cons_of_ne_nil run.1
  intro char member
  obtain rfl : first = char := by simpa using member
  exact run.2 first List.mem_cons_self

/-- A run in front of what refuses its class is all that a text starts with. -/
theorem takeWhile_append_rest (run : ∀ char ∈ text, accepts char)
    (stops : ∀ char ∈ rest.head?, accepts char = false) :
    (text ++ rest).takeWhile accepts = text ∧ (text ++ rest).dropWhile accepts = rest := by
  rw [List.takeWhile_append_of_pos run, List.dropWhile_append_of_pos run]
  cases rest with
  | nil => simp
  | cons char rest => simp [stops char rfl]

/-- What is left behind the characters of a class does not start with one. -/
theorem stops_dropWhile (accepts : Char → Bool) (text : List Char) :
    ∀ char ∈ (text.dropWhile accepts).head?, accepts char = false := by
  intro char member
  have first := List.head?_dropWhile_not accepts text
  rw [Option.mem_def.mp member] at first
  simpa using first

end Runs

section Readers

variable {text rest : List Char}

/-- Blanks are left behind if there are any. -/
theorem afterBlanks?_eq (text : List Char) :
    afterBlanks? text =
      if text.takeWhile isBlank = [] then none else some (text.dropWhile isBlank) := by
  cases text with
  | nil => rfl
  | cons first rest => cases blank : isBlank first <;> simp [afterBlanks?, blank]

/-- A run of blanks in front of something else is left behind. -/
theorem afterBlanks?_of_run {blanks : List Char} (run : Run isBlank blanks)
    (stops : ∀ char ∈ rest.head?, isBlank char = false) :
    afterBlanks? (blanks ++ rest) = some rest := by
  obtain ⟨taken, left⟩ := takeWhile_append_rest run.2 stops
  rw [afterBlanks?_eq, taken, left, if_neg run.1]

/-- A number consists of its mark and the digits behind it. -/
theorem number?_mark {letter : Char} (mark : isMarkLetter letter) (text : List Char) :
    number? ('0' :: letter :: text) =
      if text.takeWhile isHexDigit = [] then none
      else some (text.takeWhile isHexDigit, text.dropWhile isHexDigit) := by
  have either : letter = 'x' ∨ letter = 'X' := by simpa [isMarkLetter] using mark
  by_cases missing : text.takeWhile isHexDigit = [] <;> simp [number?, either, missing]

/-- A text that starts with a number starts with its mark. -/
theorem mark_of_number? {digits : List Char} (found : number? text = some (digits, rest)) :
    ∃ letter behind, text = '0' :: letter :: behind ∧ isMarkLetter letter ∧
      Run isHexDigit digits ∧ behind = digits ++ rest ∧
      ∀ char ∈ rest.head?, isHexDigit char = false := by
  unfold number? at found
  split at found
  · rename_i letter behind
    dsimp only at found
    split at found
    · rename_i accepted
      obtain ⟨rfl, rfl⟩ := Prod.mk.inj (Option.some.inj found)
      exact ⟨letter, behind, rfl, by simpa [isMarkLetter] using accepted.1,
        run_takeWhile accepted.2, List.takeWhile_append_dropWhile.symm,
        stops_dropWhile isHexDigit behind⟩
    · contradiction
  · contradiction

/-- The digits of a hexadecimal number behind blanks, and what follows them. -/
def spacedNumber? (text : List Char) : Option (List Char × List Char) :=
  (afterBlanks? text).bind number?

/-- Two numbers are one and then another. -/
theorem pair?_eq (text : List Char) :
    pair? text = (spacedNumber? text).bind fun front =>
      (spacedNumber? front.2).map fun back => ⟨front.1, back.1, back.2⟩ := by
  simp only [pair?, spacedNumber?, Option.bind_eq_bind, Option.bind_assoc, Option.pure_def,
    Option.map_eq_bind, Function.comp_def]

/-- A number behind blanks is read with all digits that follow. -/
theorem spacedNumber?_of_spaced {digits spaced : List Char} (number : Spaced digits spaced)
    (rest : List Char) :
    spacedNumber? (spaced ++ rest) =
      some ((digits ++ rest).takeWhile isHexDigit, (digits ++ rest).dropWhile isHexDigit) := by
  obtain ⟨blanks, letter, run, mark, all⟩ := number
  have starts : ∀ char ∈ ('0' :: letter :: (digits ++ rest)).head?, isBlank char = false := by
    simp [not_isBlank_zero]
  have present : (digits ++ rest).takeWhile isHexDigit ≠ [] := by
    rw [List.takeWhile_append_of_pos all.2]
    exact List.append_ne_nil_of_left_ne_nil all.1 _
  rw [spacedNumber?, List.append_assoc, List.cons_append, List.cons_append,
    afterBlanks?_of_run run starts, Option.bind_some, number?_mark mark, if_neg present]

/-- What is read behind blanks is a number that no further digit follows. -/
theorem spaced_of_spacedNumber? {digits : List Char}
    (found : spacedNumber? text = some (digits, rest)) :
    ∃ spaced, Spaced digits spaced ∧ text = spaced ++ rest ∧
      ∀ char ∈ rest.head?, isHexDigit char = false := by
  obtain ⟨after, passed, found⟩ := Option.bind_eq_some_iff.mp found
  rw [afterBlanks?_eq] at passed
  split at passed
  · contradiction
  · rename_i blanks
    obtain ⟨letter, behind, starts, mark, digits, rfl, stops⟩ := mark_of_number? found
    obtain rfl := Option.some.inj passed
    refine ⟨_, .intro _ _ (run_takeWhile blanks) mark digits, ?_, stops⟩
    have joined := List.takeWhile_append_dropWhile (p := isBlank) (l := text)
    rw [starts] at joined
    simpa using joined.symm

/-- A number with its blanks starts with a blank. -/
theorem Spaced.head {digits spaced : List Char} (number : Spaced digits spaced) (rest : List Char) :
    ∀ char ∈ (spaced ++ rest).head?, isBlank char := by
  obtain ⟨blanks, letter, run, _, _⟩ := number
  rw [List.append_assoc]
  exact run.head _

/-- No digit follows one in front of a text that starts with a blank. -/
theorem stops_of_blank (starts : ∀ char ∈ text.head?, isBlank char) :
    ∀ char ∈ text.head?, isHexDigit char = false :=
  fun char member => (apart_of_isBlank (starts char member)).1

/-- Two numbers in a row are read, the second one with all digits that follow. -/
theorem pair?_of_numbers {first second numbers : List Char} (both : Numbers first second numbers)
    (rest : List Char) :
    pair? (numbers ++ rest) =
      some ⟨first, (second ++ rest).takeWhile isHexDigit,
        (second ++ rest).dropWhile isHexDigit⟩ := by
  obtain ⟨front, back, early, late⟩ := both
  -- The first number ends where the blanks of the second one start.
  have between : spacedNumber? (front ++ (back ++ rest)) = some (first, back ++ rest) := by
    rw [spacedNumber?_of_spaced early]
    obtain ⟨_, _, _, _, digits⟩ := early
    obtain ⟨taken, left⟩ := takeWhile_append_rest digits.2 (stops_of_blank (late.head rest))
    rw [taken, left]
  rw [List.append_assoc, pair?_eq, between, Option.bind_some, spacedNumber?_of_spaced late,
    Option.map_some]

/-- What is read as two numbers are two numbers that no further digit follows. -/
theorem numbers_of_pair? {pair : Pair} (found : pair? text = some pair) :
    ∃ numbers, Numbers pair.first pair.second numbers ∧ text = numbers ++ pair.rest ∧
      ∀ char ∈ pair.rest.head?, isHexDigit char = false := by
  rw [pair?_eq] at found
  obtain ⟨⟨first, between⟩, early, found⟩ := Option.bind_eq_some_iff.mp found
  obtain ⟨⟨second, rest⟩, late, rfl⟩ := Option.map_eq_some_iff.mp found
  obtain ⟨front, one, rfl, _⟩ := spaced_of_spacedNumber? early
  obtain ⟨back, two, rfl, stops⟩ := spaced_of_spacedNumber? late
  exact ⟨front ++ back, .intro _ _ one two, (List.append_assoc _ _ _).symm, stops⟩

/-- A name of the characters of a class and the numbers behind it. -/
def named? (accepts : Char → Bool) (text : List Char) : Option Placement :=
  if text.takeWhile accepts = [] then none
  else (pair? (text.dropWhile accepts)).map fun pair =>
    ⟨text.takeWhile accepts, pair.first, pair.second⟩

/-- A symbol on an indented line is a name without blanks behind blanks. -/
theorem indentedPlacement?_eq (line : List Char) :
    indentedPlacement? line = (afterBlanks? line).bind (named? (!isBlank ·)) := by
  rw [indentedPlacement?]
  cases afterBlanks? line with
  | none => rfl
  | some text =>
    simp only [named?, Option.bind_eq_bind, Option.bind_some]
    cases text.takeWhile (!isBlank ·) <;> cases pair? (text.dropWhile (!isBlank ·)) <;> rfl

/-- A symbol on a line that is not indented is a name that does not start with a period. -/
theorem barePlacement?_eq (line : List Char) :
    barePlacement? line =
      (named? isBareNameChar line).filter fun placement => placement.name.head? != some '.' := by
  rw [barePlacement?, named?]
  cases pair? (line.dropWhile isBareNameChar) with
  | none => cases line.takeWhile isBareNameChar <;> rfl
  | some pair =>
    cases name : line.takeWhile isBareNameChar with
    | nil => rfl
    | cons first others =>
      by_cases period : first = '.'
      · subst period
        rfl
      · simp [Option.filter, period]

variable {accepts : Char → Bool} {placement : Placement}

/-- A name in front of numbers is read with them. -/
theorem named?_of_named (apart : ∀ char, accepts char → isBlank char = false)
    (parts : Named accepts text placement rest) :
    named? accepts text =
      some ⟨placement.name, placement.address, (placement.size ++ rest).takeWhile isHexDigit⟩ := by
  obtain ⟨numbers, name, both⟩ := parts
  -- The numbers start with a blank, where the name thus ends.
  have stops : ∀ char ∈ (numbers ++ rest).head?, accepts char = false := by
    obtain ⟨front, back, early, _⟩ := id both
    intro char member
    rw [List.append_assoc] at member
    by_contra accepted
    have visible := apart char (Bool.of_not_eq_false accepted)
    simp [early.head _ char member] at visible
  obtain ⟨taken, left⟩ := takeWhile_append_rest name.2 stops
  rw [named?, taken, left, if_neg name.1, pair?_of_numbers both, Option.map_some]

/-- What is read as a name and numbers are its parts. -/
theorem named_of_named? (found : named? accepts text = some placement) :
    ∃ rest, Named accepts text placement rest ∧ ∀ char ∈ rest.head?, isHexDigit char = false := by
  rw [named?] at found
  split at found
  · contradiction
  · rename_i name
    obtain ⟨pair, read, rfl⟩ := Option.map_eq_some_iff.mp found
    obtain ⟨numbers, both, behind, stops⟩ := numbers_of_pair? read
    have joined := List.takeWhile_append_dropWhile (p := accepts) (l := text)
    rw [behind] at joined
    have parts := @Named.intro accepts ⟨_, pair.first, pair.second⟩ numbers pair.rest
      (run_takeWhile name) both
    rw [joined] at parts
    exact ⟨pair.rest, parts, stops⟩

/-- An indented symbol is read, with all digits that follow its size. -/
theorem indentedPlacement?_of_indented (parts : Indented text placement rest) :
    indentedPlacement? text =
      some ⟨placement.name, placement.address, (placement.size ++ rest).takeWhile isHexDigit⟩ := by
  obtain ⟨blanks, line, run, named⟩ := parts
  have read := named?_of_named (by simp) named
  -- The name starts with no blank, so that the indentation ends in front of it.
  have stops : ∀ char ∈ line.head?, isBlank char = false := by
    obtain ⟨numbers, name, _⟩ := named
    simpa using name.head (numbers ++ rest)
  rw [indentedPlacement?_eq, afterBlanks?_of_run run stops, Option.bind_some, read]

/-- What is read as an indented symbol are its parts. -/
theorem indented_of_indentedPlacement? (found : indentedPlacement? text = some placement) :
    ∃ rest, Indented text placement rest ∧ ∀ char ∈ rest.head?, isHexDigit char = false := by
  rw [indentedPlacement?_eq] at found
  obtain ⟨line, passed, read⟩ := Option.bind_eq_some_iff.mp found
  obtain ⟨rest, named, stops⟩ := named_of_named? read
  rw [afterBlanks?_eq] at passed
  split at passed
  · contradiction
  · rename_i blanks
    obtain rfl := Option.some.inj passed
    have parts := Indented.intro _ _ (run_takeWhile blanks) named
    rw [List.takeWhile_append_dropWhile] at parts
    exact ⟨rest, parts, stops⟩

end Readers

section Objects

variable {text rest path : List Char}

/-- The mark of an object file at the start of a text. -/
def mark? : List Char → Option (List Char)
  | char :: letter :: _ => if char = '.' ∧ isObjectLetter letter then some [char, letter] else none
  | _ => none

/-- A later mark comes before one at the start of a text. -/
theorem upToLastMark?_cons (char : Char) (rest : List Char) :
    upToLastMark? (char :: rest) = ((upToLastMark? rest).map (char :: ·)).or (mark? (char :: rest)) := by
  rw [upToLastMark?.eq_def]
  dsimp only
  cases upToLastMark? rest with
  | some found => rfl
  | none =>
    cases rest with
    | nil => rfl
    | cons letter rest => simp [mark?, isObjectLetter]

/-- A longer path comes before one that ends with the mark behind its first character. -/
theorem objectPath?_cons (char : Char) (rest : List Char) :
    objectPath? (char :: rest) =
      ((objectPath? rest).map (char :: ·)).or ((mark? rest).map (char :: ·)) := by
  cases rest with
  | nil => rfl
  | cons second rest =>
    rw [objectPath?, upToLastMark?_cons, objectPath?]
    cases upToLastMark? rest <;> rfl

/-- A character in front of a marked text leaves its mark. -/
theorem Marked.cons (marked : Marked path) (char : Char) : Marked (char :: path) := by
  obtain ⟨front, letter, mark⟩ := marked
  exact .intro (char :: front) letter mark

/-- A mark anywhere is found. -/
theorem isSome_upToLastMark? (marked : Marked path) (rest : List Char) :
    (upToLastMark? (path ++ rest)).isSome := by
  obtain ⟨front, letter, mark⟩ := marked
  induction front with
  | nil =>
    rw [List.nil_append, List.cons_append, upToLastMark?_cons, Option.isSome_or]
    simp [mark?, mark]
  | cons first front ih =>
    rw [List.cons_append, List.cons_append, upToLastMark?_cons, Option.isSome_or, Option.isSome_map,
      ih, Bool.true_or]

/-- What is read up to the last mark ends with it, and no mark follows. -/
theorem marked_of_upToLastMark? (found : upToLastMark? text = some path) :
    Marked path ∧ ∃ rest, text = path ++ rest ∧ ∀ front, Marked front → ¬ front <+: rest := by
  induction text generalizing path with
  | nil => contradiction
  | cons char behind ih =>
    rw [upToLastMark?_cons] at found
    cases later : upToLastMark? behind with
    | some inner =>
      rw [later] at found
      obtain rfl := Option.some.inj found
      obtain ⟨marked, rest, joined, last⟩ := ih later
      exact ⟨marked.cons char, rest, congrArg (char :: ·) joined, last⟩
    | none =>
      rw [later, Option.map_none, Option.none_or] at found
      unfold mark? at found
      split at found
      · rename_i first letter rest starts
        obtain ⟨rfl, rfl⟩ := List.cons.inj starts
        split at found
        · rename_i mark
          obtain ⟨rfl, mark⟩ := mark
          obtain rfl := Option.some.inj found
          refine ⟨.intro [] letter mark, rest, rfl, ?_⟩
          -- A mark further on would have been found first.
          rintro front marked ⟨behind, rfl⟩
          have found := isSome_upToLastMark? (marked.cons letter) behind
          rw [List.cons_append, later] at found
          contradiction
        · contradiction
      · contradiction

/-- Blanks have no mark. -/
theorem upToLastMark?_blanks {blanks : List Char} (all : ∀ char ∈ blanks, isBlank char)
    (unmarked : upToLastMark? rest = none) : upToLastMark? (blanks ++ rest) = none := by
  induction blanks with
  | nil => exact unmarked
  | cons first others ih =>
    rw [List.forall_mem_cons] at all
    have plain : mark? (first :: (others ++ rest)) = none := by
      unfold mark?
      split
      · rename_i starts
        obtain ⟨rfl, _⟩ := List.cons.inj starts
        simp [(apart_of_isBlank all.1).2.2.2]
      · rfl
    rw [List.cons_append, upToLastMark?_cons, ih all.2, plain]
    rfl

/-- The blanks behind numbers are left behind as far as a path follows. -/
theorem objectBehindBlanks?_cons (char : Char) (rest : List Char) :
    objectBehindBlanks? (char :: rest) =
      if isBlank char then (objectBehindBlanks? rest).or (objectPath? rest) else none := by
  rw [objectBehindBlanks?]
  congr 1
  cases rest with
  | nil => rfl
  | cons second rest =>
    rw [objectBehindBlanks?]
    cases blank : isBlank second with
    | false =>
      simp only [List.dropWhile_cons, List.takeWhile_cons, blank, Bool.false_eq_true, if_false]
      cases objectPath? (second :: rest) <;> rfl
    | true =>
      simp only [List.dropWhile_cons, List.takeWhile_cons, blank, if_true]
      cases longest : objectPath? (rest.dropWhile isBlank) with
      | some path => rfl
      | none =>
        have joined := List.takeWhile_append_dropWhile (p := isBlank) (l := rest)
        cases run : rest.takeWhile isBlank with
        | nil =>
          rw [run, List.nil_append] at joined
          rw [joined]
          rfl
        | cons third others =>
          rw [List.getLast?_cons_cons, List.getLast?_eq_some_getLast (List.cons_ne_nil third others)]
          generalize (third :: others).getLast _ = last
          dsimp only
          cases shorter : objectPath? (last :: rest.dropWhile isBlank) with
          | some path => rfl
          | none =>
            -- Without a mark behind the last blank there is none behind an earlier one.
            have unmarked : upToLastMark? (rest.dropWhile isBlank) = none := by
              simpa [objectPath?] using shorter
            have blanks : ∀ char ∈ rest.takeWhile isBlank, isBlank char := fun _ member =>
              List.mem_takeWhile_imp member
            have missing := upToLastMark?_blanks blanks unmarked
            rw [joined] at missing
            rw [objectPath?, missing]
            rfl

/-- What is read as a path is one, and no mark follows. -/
theorem isPath_of_objectPath? (found : objectPath? text = some path) :
    IsPath path ∧ ∃ rest, text = path ++ rest ∧ ∀ front, Marked front → ¬ front <+: rest := by
  cases text with
  | nil => contradiction
  | cons first behind =>
    obtain ⟨inner, read, rfl⟩ := Option.map_eq_some_iff.mp found
    obtain ⟨marked, rest, rfl, last⟩ := marked_of_upToLastMark? read
    exact ⟨.intro first inner marked, rest, rfl, last⟩

/-- A path at the start of a text is read as one, though maybe not the longest. -/
theorem isSome_objectPath? (isPath : IsPath path) (rest : List Char) :
    (objectPath? (path ++ rest)).isSome := by
  obtain ⟨first, inner, marked⟩ := isPath
  rw [List.cons_append, objectPath?, Option.isSome_map]
  exact isSome_upToLastMark? marked rest

/-- Behind a mark, a text that ends with one has it of its own. -/
theorem Marked.of_append (marked : Marked path) (longer : Marked (path ++ rest)) :
    rest = [] ∨ Marked rest := by
  obtain ⟨front, letter, mark⟩ := marked
  generalize whole : front ++ ['.', letter] ++ rest = all at longer
  obtain ⟨earlier, last, other⟩ := longer
  rcases List.append_eq_append_iff.mp whole with ⟨inner, _, rfl⟩ | ⟨inner, ends, split⟩
  · exact .inr (.intro inner last other)
  · -- The mark does not start with the last character of the one in front.
    cases inner with
    | nil =>
      obtain rfl : ['.', last] = rest := split
      exact .inr (.intro [] last other)
    | cons first inner =>
      obtain ⟨rfl, split⟩ := List.cons.inj split
      cases inner with
      | nil =>
        have same : front ++ ['.'] ++ [letter] = earlier ++ ['.'] := by simpa using ends
        obtain ⟨rfl⟩ := (List.append_inj' same rfl).2
        contradiction
      | cons second inner =>
        obtain ⟨_, split⟩ := List.cons.inj split
        have empty : inner ++ rest = [] := (List.cons.inj split).2.symm
        exact .inl (List.append_eq_nil_iff.mp empty).2

/-- Behind a path, a longer one has a mark of its own. -/
theorem IsPath.of_append (isPath : IsPath path) (longer : IsPath (path ++ rest)) :
    rest = [] ∨ Marked rest := by
  obtain ⟨first, inner, marked⟩ := isPath
  generalize whole : first :: inner ++ rest = all at longer
  obtain ⟨_, _, other⟩ := longer
  obtain ⟨_, rfl⟩ := List.cons.inj whole
  exact marked.of_append other

/-- A path that no mark follows is the one that is read. -/
theorem objectPath?_of_isPath (isPath : IsPath path)
    (last : ∀ front, Marked front → ¬ front <+: rest) : objectPath? (path ++ rest) = some path := by
  obtain ⟨found, read⟩ := Option.isSome_iff_exists.mp (isSome_objectPath? isPath rest)
  obtain ⟨own, behind, whole, lastOwn⟩ := isPath_of_objectPath? read
  rw [read]
  -- The longer of the two paths would have its mark behind the other one.
  rcases List.append_eq_append_iff.mp whole with ⟨inner, rfl, rfl⟩ | ⟨inner, rfl, rfl⟩
  · rcases isPath.of_append own with rfl | marked
    · rw [List.append_nil]
    · exact absurd (List.prefix_append inner behind) (last inner marked)
  · rcases own.of_append isPath with rfl | marked
    · rw [List.append_nil]
    · exact absurd (List.prefix_append inner rest) (lastOwn inner marked)

/-- A path behind blanks is found, though maybe not this one. -/
theorem isSome_objectBehindBlanks? {gap : List Char} (blanks : Run isBlank gap)
    (isPath : IsPath path) (rest : List Char) :
    (objectBehindBlanks? (gap ++ (path ++ rest))).isSome := by
  obtain ⟨some_, all⟩ := blanks
  induction gap with
  | nil => contradiction
  | cons first others ih =>
    rw [List.forall_mem_cons] at all
    rw [List.cons_append, objectBehindBlanks?_cons, if_pos all.1, Option.isSome_or,
      Bool.or_eq_true]
    cases others with
    | nil => exact .inr (isSome_objectPath? isPath rest)
    | cons second others => exact .inl (ih (List.cons_ne_nil _ _) all.2)

/-- A gap of a text is one blank alone or leaves a gap behind its first blank. -/
theorem gap_cons {first : Char} {behind gap : List Char} (run : Run isBlank gap)
    (whole : first :: behind = gap ++ rest) :
    gap = [first] ∨ ∃ others, gap = first :: others ∧ Run isBlank others ∧ behind = others ++ rest := by
  rcases gap with _ | ⟨char, others⟩
  · exact absurd rfl run.1
  · obtain ⟨rfl, tail⟩ := List.cons.inj whole
    by_cases alone : others = []
    · rw [alone]
      exact .inl rfl
    · exact .inr ⟨others, rfl, ⟨alone, (List.forall_mem_cons.mp run.2).2⟩, tail⟩

/-- What is read behind blanks is a path behind the longest run of blanks that leaves one. -/
theorem gap_of_objectBehindBlanks? (found : objectBehindBlanks? text = some path) :
    ∃ gap rest, Run isBlank gap ∧ IsPath path ∧ text = gap ++ (path ++ rest) ∧
      (∀ front, Marked front → ¬ front <+: rest) ∧
      ∀ otherGap otherPath otherRest, Run isBlank otherGap → IsPath otherPath →
        text = otherGap ++ (otherPath ++ otherRest) → otherGap.length ≤ gap.length := by
  induction text generalizing path with
  | nil => contradiction
  | cons first behind ih =>
    rw [objectBehindBlanks?_cons] at found
    split at found
    · rename_i blank
      cases later : objectBehindBlanks? behind with
      | some inner =>
        rw [later] at found
        obtain rfl := Option.some.inj found
        obtain ⟨gap, rest, run, isPath, rfl, last, longest⟩ := ih later
        refine ⟨first :: gap, rest, ⟨List.cons_ne_nil _ _, List.forall_mem_cons.mpr ⟨blank, run.2⟩⟩,
          isPath, rfl, last, ?_⟩
        intro otherGap otherPath otherRest otherRun otherIsPath whole
        rcases gap_cons otherRun whole with rfl | ⟨others, rfl, shorter, whole⟩
        · simp
        · exact Nat.succ_le_succ (longest others otherPath otherRest shorter otherIsPath whole)
      | none =>
        rw [later, Option.none_or] at found
        obtain ⟨isPath, rest, rfl, last⟩ := isPath_of_objectPath? found
        refine ⟨[first], rest, ⟨List.cons_ne_nil _ _, by simpa using blank⟩, isPath, rfl, last, ?_⟩
        intro otherGap otherPath otherRest otherRun otherIsPath whole
        rcases gap_cons otherRun whole with rfl | ⟨others, rfl, shorter, whole⟩
        · exact Nat.le_refl _
        · -- A path behind more blanks would have been found.
          have found := isSome_objectBehindBlanks? shorter otherIsPath otherRest
          rw [← whole, later] at found
          contradiction
    · contradiction

/-- Two numbers in front of a gap are read, and leave the gap. -/
theorem pair?_of_numbers_gap {first second numbers gap : List Char}
    (both : Numbers first second numbers) (run : Run isBlank gap) (rest : List Char) :
    pair? (numbers ++ (gap ++ rest)) = some ⟨first, second, gap ++ rest⟩ := by
  rw [pair?_of_numbers both]
  obtain ⟨_, _, _, late⟩ := both
  obtain ⟨_, _, _, _, digits⟩ := late
  obtain ⟨taken, left⟩ := takeWhile_append_rest digits.2 (stops_of_blank (run.head rest))
  rw [taken, left]

/-- The path behind the numbers at the start of a text. -/
def objectHere? (text : List Char) : Option (List Char) :=
  (pair? text).bind fun pair => objectBehindBlanks? pair.rest

/-- The path behind earlier numbers comes before one behind later ones. -/
theorem objectBehindPair?_cons (char : Char) (rest : List Char) :
    objectBehindPair? (char :: rest) =
      (objectHere? (char :: rest)).or (objectBehindPair? rest) := by
  rw [objectBehindPair?, objectHere?]
  cases (pair? (char :: rest)).bind fun pair => objectBehindBlanks? pair.rest <;> rfl

variable {parts : ObjectParts}

/-- Where numbers stand at the start of a text, a path behind them is found. -/
theorem isSome_objectHere? (stand : parts.StandIn text) (front : parts.before = []) :
    (objectHere? text).isSome := by
  obtain ⟨first, second, both⟩ := stand.numbers
  rw [stand.whole, front, List.nil_append, objectHere?, pair?_of_numbers_gap both stand.gap]
  exact isSome_objectBehindBlanks? stand.gap stand.path parts.rest

/-- What is read behind the numbers at the start of a text are parts of it that count. -/
theorem count_of_objectHere? (found : objectHere? text = some path) :
    ∃ parts : ObjectParts, parts.Count text ∧ parts.before = [] ∧ parts.path = path := by
  obtain ⟨pair, read, behind⟩ := Option.bind_eq_some_iff.mp found
  obtain ⟨numbers, both, rfl, _⟩ := numbers_of_pair? read
  obtain ⟨gap, rest, run, isPath, whole, last, longest⟩ := gap_of_objectBehindBlanks? behind
  refine ⟨⟨[], numbers, gap, path, rest⟩, ⟨⟨?_, ⟨_, _, both⟩, run, isPath⟩, ?_, ?_, last⟩, rfl, rfl⟩
  · rw [whole]
    rfl
  · intro other _
    exact Nat.zero_le _
  · intro other stand front
    -- Other numbers at the start of the text are read alike.
    obtain ⟨first, second, otherBoth⟩ := stand.numbers
    have again := pair?_of_numbers_gap otherBoth stand.gap (other.path ++ other.rest)
    have text := stand.whole
    rw [front, List.nil_append] at text
    rw [← text, read] at again
    obtain rfl := Option.some.inj again
    exact longest other.gap other.path other.rest stand.gap stand.path rfl

/-- Parts of a text start with their numbers, or are parts of what follows its first character. -/
theorem ObjectParts.StandIn.cons {char : Char} (stand : parts.StandIn (char :: text)) :
    parts.before = [] ∨ ∃ before, parts.before = char :: before ∧
      { parts with before := before : ObjectParts }.StandIn text := by
  cases front : parts.before with
  | nil => exact .inl rfl
  | cons first before =>
    have whole := stand.whole
    rw [front] at whole
    obtain ⟨rfl, tail⟩ := List.cons.inj whole
    exact .inr ⟨before, rfl, tail, stand.numbers, stand.gap, stand.path⟩

/-- Where a text has the parts, a path is found. -/
theorem isSome_objectBehindPair? (stand : parts.StandIn text) :
    (objectBehindPair? text).isSome := by
  induction text generalizing parts with
  | nil =>
    have front := (List.append_eq_nil_iff.mp stand.whole.symm).1
    exact absurd (isSome_objectHere? stand front) (by decide)
  | cons char rest ih =>
    rw [objectBehindPair?_cons, Option.isSome_or, Bool.or_eq_true]
    rcases stand.cons with front | ⟨before, _, later⟩
    · exact .inl (isSome_objectHere? stand front)
    · exact .inr (ih later)

/-- What is read of a text are parts of it that count. -/
theorem count_of_objectBehindPair? (found : objectBehindPair? text = some path) :
    ∃ parts : ObjectParts, parts.Count text ∧ parts.path = path := by
  induction text with
  | nil => contradiction
  | cons char rest ih =>
    rw [objectBehindPair?_cons] at found
    cases here : objectHere? (char :: rest) with
    | some path =>
      rw [here, Option.some_or] at found
      obtain rfl := Option.some.inj found
      obtain ⟨parts, count, _, path⟩ := count_of_objectHere? here
      exact ⟨parts, count, path⟩
    | none =>
      rw [here, Option.none_or] at found
      obtain ⟨parts, count, path⟩ := ih found
      -- No parts start with their numbers, which would have been read.
      have later : ∀ other : ObjectParts, other.StandIn (char :: rest) →
          ∃ before, other.before = char :: before ∧
            { other with before := before : ObjectParts }.StandIn rest := by
        intro other stand
        rcases stand.cons with front | later
        · have read := isSome_objectHere? stand front
          rw [here] at read
          contradiction
        · exact later
      refine ⟨{ parts with before := char :: parts.before },
        ⟨⟨congrArg (char :: ·) count.whole, count.numbers, count.gap, count.path⟩, ?_, ?_,
          count.last⟩, path⟩
      · intro other stand
        obtain ⟨before, front, behind⟩ := later other stand
        rw [front]
        exact Nat.succ_le_succ (count.earliest _ behind)
      · intro other stand same
        obtain ⟨before, front, behind⟩ := later other stand
        rw [front] at same
        exact count.longest { other with before := before } behind (List.cons.inj same).2

/-- At most one choice of parts counts. -/
theorem ObjectParts.Count.unique {other : ObjectParts} (count : parts.Count text)
    (counts : other.Count text) : parts = other := by
  obtain ⟨before, numbers, gap, path, rest⟩ := parts
  obtain ⟨otherBefore, otherNumbers, otherGap, otherPath, otherRest⟩ := other
  have whole := count.whole.symm.trans counts.whole
  dsimp only at whole
  -- The parts are told one after the other, each as far into the text as the other one.
  have early := count.earliest _ counts.toStandIn
  have late := counts.earliest _ count.toStandIn
  obtain ⟨rfl, text⟩ := List.append_inj whole (Nat.le_antisymm early late)
  obtain ⟨_, _, both⟩ := count.numbers
  obtain ⟨_, _, otherBoth⟩ := counts.numbers
  have read := pair?_of_numbers_gap both count.gap (path ++ rest)
  rw [text, pair?_of_numbers_gap otherBoth counts.gap (otherPath ++ otherRest)] at read
  have behind := (Pair.mk.inj (Option.some.inj read)).2.2
  rw [behind] at text
  obtain rfl := List.append_cancel_right text
  have long := count.longest _ counts.toStandIn rfl
  have short := counts.longest _ count.toStandIn rfl
  obtain ⟨rfl, ends⟩ := List.append_inj behind (Nat.le_antisymm long short)
  have own := objectPath?_of_isPath count.path count.last
  rw [← ends, objectPath?_of_isPath counts.path counts.last] at own
  obtain rfl := Option.some.inj own
  obtain rfl := List.append_cancel_left ends
  rfl

/-- The path that is read of a line behind its period is that of the parts that count. -/
theorem objectBehindPair?_eq_some_iff :
    objectBehindPair? text = some path ↔
      ∃ parts : ObjectParts, parts.Count text ∧ parts.path = path := by
  refine ⟨count_of_objectBehindPair?, ?_⟩
  rintro ⟨parts, count, rfl⟩
  obtain ⟨found, read⟩ := Option.isSome_iff_exists.mp (isSome_objectBehindPair? count.toStandIn)
  obtain ⟨other, counts, rfl⟩ := count_of_objectBehindPair? read
  rw [read, count.unique counts]

end Objects

end Footprint.LinkMap
