import Footprint.Proofs.LinkMap.Grammar
import Footprint.Proofs.LinkMap.Listing
import Footprint.Proofs.Text.Pattern

/-! The patterns that the lines of a link map are held against. -/

namespace Footprint.LinkMap

open Text (isBlank Pattern Way mostWays)
open Text.Pattern

section Patterns

/-- Whether a character does not end a line. -/
def isInLine (char : Char) : Bool := char != '\n'

/-- A hexadecimal number behind blanks. -/
def spacedPattern (digits : Pattern) : Pattern :=
  both (most isBlank) (both (one (· == '0')) (both (one isMarkLetter) digits))

/-- Two hexadecimal numbers behind blanks. -/
def numbersPattern (digits : Pattern) : Pattern := both (spacedPattern digits) (spacedPattern digits)

/-- A name of the characters of a class, and two numbers. -/
def namedPattern (accepts : Char → Bool) : Pattern :=
  both (group (most accepts)) (numbersPattern (group (most isHexDigit)))

/-- A symbol on an indented line. -/
def indentedPattern : Pattern := both (most isBlank) (namedPattern (!isBlank ·))

/-- A symbol on a line that is not indented. -/
def barePattern : Pattern := namedPattern isBareNameChar

/-- The path of an object file. -/
def pathPattern : Pattern := both (most isInLine) (both (one (· == '.')) (one isObjectLetter))

/-- The path of an object file behind blanks. -/
def gapPattern : Pattern := both (most isBlank) (group pathPattern)

/-- A line that names an object file. -/
def objectPattern : Pattern :=
  both (one (· == '.')) (both (least isInLine) (both (numbersPattern (most isHexDigit)) gapPattern))

/-- The texts that a placement tells of a line. -/
def Placement.groups (placement : Placement) : List (List Char) :=
  [placement.name, placement.address, placement.size]

end Patterns

section Symbols

variable {α : Type} {digits : Pattern} {keep : List Char → List (List Char)}
variable {next : List (List Char) → List Char → Option α}

/-- A pattern of digits takes all of them in front of what is accepted next. -/
def Reads (digits : Pattern) (keep : List Char → List (List Char))
    (next : List (List Char) → List Char → Option α) : Prop :=
  ∀ text : List Char, digits.answer? text next =
    if text.takeWhile isHexDigit = [] then none
    else next (keep (text.takeWhile isHexDigit)) (text.dropWhile isHexDigit)

/-- A number starts with its mark. -/
theorem answer?_number (reads : Reads digits keep next) (text : List Char) :
    (both (one (· == '0')) (both (one isMarkLetter) digits)).answer? text next =
      (number? text).bind fun number => next (keep number.1) number.2 := by
  simp only [answer?_both]
  by_cases marked : ∃ letter behind, text = '0' :: letter :: behind ∧ isMarkLetter letter
  · obtain ⟨letter, behind, rfl, mark⟩ := marked
    rw [answer?_one, beq_self_eq_true, if_pos rfl, answer?_one, if_pos mark, number?_mark mark]
    change digits.answer? behind next = _
    rw [reads]
    split <;> rfl
  · have missing : number? text = none := by
      rw [Option.eq_none_iff_forall_ne_some]
      rintro ⟨digits, rest⟩ found
      obtain ⟨letter, behind, starts, mark, _⟩ := mark_of_number? found
      exact marked ⟨letter, behind, starts, mark⟩
    rw [missing]
    -- One of the two characters is another one or missing.
    rcases text with _ | ⟨zero, _ | ⟨letter, behind⟩⟩
    · rfl
    · rw [answer?_one]
      split <;> rfl
    · rw [answer?_one]
      split
      · rename_i starts
        obtain rfl : zero = '0' := by simpa using starts
        rw [answer?_one, if_neg fun mark => marked ⟨letter, behind, rfl, mark⟩]
        rfl
      · rfl

/-- A number stands behind all blanks in front of it. -/
theorem answer?_spaced (reads : Reads digits keep next) (text : List Char) :
    (spacedPattern digits).answer? text next =
      (spacedNumber? text).bind fun number => next (keep number.1) number.2 := by
  rw [spacedPattern, answer?_both, answer?_most, spacedNumber?, afterBlanks?_eq]
  · split
    · rfl
    · exact answer?_number reads _
  · intro groups char rest blank
    have apart : ¬ (char == '0') = true := by
      intro zero
      obtain rfl : char = '0' := by simpa using zero
      simp [not_isBlank_zero] at blank
    rw [answer?_both, answer?_one, if_neg apart]

/-- Blanks are wanted in front of numbers. -/
theorem answer?_numbers_visible {char : Char} (visible : isBlank char = false) (text : List Char) :
    (numbersPattern digits).answer? (char :: text) next = none := by
  simp only [numbersPattern, spacedPattern, answer?_both, answer?_most_cons, visible]
  rfl

/-- Digits in front of what refuses them are taken whole, and numbers that follow each other are
read with what is kept of their digits. -/
theorem answer?_numbers (keep : List Char → List (List Char))
    (early : ∀ next : List (List Char) → List Char → Option α,
      (∀ groups char rest, isHexDigit char → next groups (char :: rest) = none) →
        Reads digits keep next)
    (late : ∀ groups, Reads digits keep fun others => next (groups ++ others)) (text : List Char) :
    (numbersPattern digits).answer? text next =
      (pair? text).bind fun pair => next (keep pair.first ++ keep pair.second) pair.rest := by
  rw [numbersPattern, answer?_both, answer?_spaced, pair?_eq, Option.bind_assoc]
  · congr 1
    funext front
    rw [answer?_spaced (late (keep front.1)), Option.bind_map]
    rfl
  · apply early
    intro groups char rest digit
    simp only [spacedPattern, answer?_both, answer?_most_cons, not_isBlank_of_isHexDigit digit]
    rfl

/-- A name and two numbers are read where the pattern first matches. -/
theorem groups?_named {accepts : Char → Bool} (apart : ∀ char, accepts char → isBlank char = false)
    (text : List Char) :
    (namedPattern accepts).groups? text = (named? accepts text).map Placement.groups := by
  rw [groups?_eq, namedPattern, answer?_both, answer?_group_most, named?]
  · split
    · rfl
    · rw [answer?_numbers fun digits => [digits], Option.map_map, Option.map_eq_bind]
      · rfl
      · intro next refuses text
        exact answer?_group_most text refuses
      · intro groups text
        exact answer?_group_most_last text _
  · intro groups char rest accepted
    exact answer?_numbers_visible (apart char accepted) rest

/-- A symbol on a line that is not indented is read where the pattern first matches. -/
theorem groups?_bare (line : List Char) :
    barePattern.groups? line = (named? isBareNameChar line).map Placement.groups :=
  groups?_named (fun _ => not_isBlank_of_isBareNameChar) line

/-- A symbol on an indented line is read where the pattern first matches. -/
theorem groups?_indented (line : List Char) :
    indentedPattern.groups? line = (indentedPlacement? line).map Placement.groups := by
  rw [groups?_eq, indentedPattern, answer?_both, answer?_most, indentedPlacement?_eq,
    afterBlanks?_eq]
  · split
    · rfl
    · change ((namedPattern _).answer? _ fun others _ => some others) = _
      rw [← groups?_eq, groups?_named (by simp), Option.bind_some]
  · intro groups char rest blank
    rw [namedPattern, answer?_both, answer?_group_most]
    · simp [blank]
    · intro groups char rest visible
      exact answer?_numbers_visible (by simpa using visible) rest

end Symbols

section Objects

variable {text : List Char}

/-- The mark of an object file is read where its pattern matches. -/
theorem groups?_mark (text : List Char) :
    (group (both (one (· == '.')) (one isObjectLetter))).groups? text = (mark? text).map ([·]) := by
  rw [groups?_group]
  rcases text with _ | ⟨char, _ | ⟨letter, rest⟩⟩
  · rfl
  · cases period : char == '.' <;> simp [ways, period, mark?]
  · cases period : char == '.' <;> cases object : isObjectLetter letter <;>
      simp_all [ways, mark?, Way.followedBy]

/-- A path is read where its pattern first matches. -/
theorem groups?_path (inLine : '\n' ∉ text) :
    (group pathPattern).groups? text = (objectPath? text).map ([·]) := by
  induction text with
  | nil => rfl
  | cons char rest ih =>
    have accepted : isInLine char := by
      simpa [isInLine] using (List.ne_of_not_mem_cons inLine).symm
    have longer := ih (List.not_mem_of_not_mem_cons inLine)
    rw [pathPattern] at longer ⊢
    rw [groups?_group_both_most, if_pos accepted, longer, groups?_mark, objectPath?_cons,
      ← Option.map_or, ← Option.map_or, Option.map_map, Option.map_map]
    rfl

/-- A path behind blanks is read where its pattern first matches. -/
theorem groups?_gap (inLine : '\n' ∉ text) :
    gapPattern.groups? text = (objectBehindBlanks? text).map ([·]) := by
  rw [groups?_eq, gapPattern, answer?_both]
  induction text with
  | nil => rfl
  | cons char rest ih =>
    have inLine := List.not_mem_of_not_mem_cons inLine
    have path : ((group pathPattern).answer? rest fun others _ => some ([] ++ others)) =
        (objectPath? rest).map ([·]) := (groups?_eq _ _).symm.trans (groups?_path inLine)
    rw [answer?_most_cons, objectBehindBlanks?_cons, ih inLine, path]
    split
    · rw [Option.map_or]
    · rfl

/-- A path behind two numbers is read where its pattern first matches. -/
theorem groups?_here (inLine : '\n' ∉ text) :
    (both (numbersPattern (most isHexDigit)) gapPattern).groups? text =
      (objectHere? text).map ([·]) := by
  rw [groups?_eq, answer?_both, answer?_numbers fun _ => [], objectHere?]
  · cases read : pair? text with
    | none => rfl
    | some pair =>
      obtain ⟨numbers, _, rfl, _⟩ := numbers_of_pair? read
      have behind := groups?_gap fun member => inLine (List.mem_append_right numbers member)
      rw [groups?_eq] at behind
      exact behind
  · intro next refuses text
    exact answer?_most text refuses
  · intro groups text
    apply answer?_most
    intro groups char rest digit
    rw [gapPattern, answer?_both, answer?_most_cons, not_isBlank_of_isHexDigit digit]
    rfl

/-- A path behind the first numbers is read where its pattern first matches. -/
theorem groups?_behind (inLine : '\n' ∉ text) :
    (both (least isInLine) (both (numbersPattern (most isHexDigit)) gapPattern)).groups? text =
      (objectBehindPair? text).map ([·]) := by
  rw [groups?_eq, answer?_both]
  induction text with
  | nil =>
    rw [answer?_least_nil]
    exact (groups?_eq _ _).symm.trans (groups?_here inLine)
  | cons char rest ih =>
    have accepted : isInLine char := by
      simpa [isInLine] using (List.ne_of_not_mem_cons inLine).symm
    have here := groups?_here inLine
    rw [groups?_eq] at here
    rw [answer?_least_cons, if_pos accepted, ih (List.not_mem_of_not_mem_cons inLine),
      objectBehindPair?_cons, Option.map_or]
    exact congrArg (Option.or · _) here

/-- The path of an object file is read where its pattern first matches. -/
theorem groups?_object {line : List Char} (inLine : '\n' ∉ line) :
    objectPattern.groups? line = (object? line).map ([·]) := by
  rw [groups?_eq, objectPattern, answer?_both]
  cases line with
  | nil => rfl
  | cons char rest =>
    rw [answer?_one]
    split
    · rename_i period
      obtain rfl : char = '.' := by simpa using period
      have behind := groups?_behind (List.not_mem_of_not_mem_cons inLine)
      rw [groups?_eq] at behind
      exact behind
    · rename_i other
      rw [object?.eq_2 _ fun rest starts => other (by rw [(List.cons.inj starts).1]; rfl)]
      rfl

end Objects

section Readings

/-- A pattern matches where a line has the parts of a symbol, and tells their name, their address
and their size with all digits that follow it. -/
def Tells (pattern : Pattern) (parts : List Char → Placement → List Char → Prop)
    (line : List Char) : Prop :=
  ((pattern.groups? line).isSome ↔ ∃ placement rest, parts line placement rest) ∧
    ∀ placement rest, parts line placement rest → pattern.groups? line =
      some [placement.name, placement.address, (placement.size ++ rest).takeWhile isHexDigit]

/-- A pattern that tells the parts of a line matches no line without them. -/
theorem tells_of_parts {pattern : Pattern} {parts : List Char → Placement → List Char → Prop}
    {line : List Char}
    (sound : (pattern.groups? line).isSome → ∃ placement rest, parts line placement rest)
    (complete : ∀ placement rest, parts line placement rest → pattern.groups? line =
      some [placement.name, placement.address, (placement.size ++ rest).takeWhile isHexDigit]) :
    Tells pattern parts line := by
  refine ⟨⟨sound, ?_⟩, complete⟩
  rintro ⟨placement, rest, stand⟩
  rw [complete placement rest stand]
  rfl

/-- The pattern of a line that is not indented tells its name and its numbers. -/
theorem tells_bare (line : List Char) : Tells barePattern (Named isBareNameChar) line := by
  apply tells_of_parts
  · intro matched
    rw [groups?_bare, Option.isSome_map] at matched
    obtain ⟨placement, read⟩ := Option.isSome_iff_exists.mp matched
    obtain ⟨rest, parts, _⟩ := named_of_named? read
    exact ⟨placement, rest, parts⟩
  · intro placement rest parts
    rw [groups?_bare, named?_of_named (fun _ => not_isBlank_of_isBareNameChar) parts]
    rfl

/-- The pattern of an indented line tells its name and its numbers. -/
theorem tells_indented (line : List Char) : Tells indentedPattern Indented line := by
  apply tells_of_parts
  · intro matched
    rw [groups?_indented, Option.isSome_map] at matched
    obtain ⟨placement, read⟩ := Option.isSome_iff_exists.mp matched
    obtain ⟨rest, parts, _⟩ := indented_of_indentedPlacement? read
    exact ⟨placement, rest, parts⟩
  · intro placement rest parts
    rw [groups?_indented, indentedPlacement?_of_indented parts]
    rfl

/-- A line that is not indented is a symbol where its pattern first matches with a name that starts
with no period. -/
theorem groups_barePlacement? (line : List Char) :
    (barePlacement? line).map Placement.groups =
      (barePattern.groups? line).filter fun groups => groups.head?.bind List.head? != some '.' := by
  rw [barePlacement?_eq, groups?_bare]
  cases named? isBareNameChar line with
  | none => rfl
  | some placement =>
    by_cases period : placement.name.head? = some '.' <;>
      simp [Option.filter, Placement.groups, period]

/-- The path that a line names is that of the parts that count behind its period. -/
theorem object?_eq_some_iff {line path : List Char} :
    object? line = some path ↔
      ∃ text, ∃ parts : ObjectParts, line = '.' :: text ∧ parts.Count text ∧ parts.path = path := by
  constructor
  · intro found
    unfold object? at found
    split at found
    · rename_i text
      obtain ⟨parts, count, path⟩ := objectBehindPair?_eq_some_iff.mp found
      exact ⟨text, parts, rfl, count, path⟩
    · contradiction
  · rintro ⟨text, parts, rfl, count, path⟩
    exact objectBehindPair?_eq_some_iff.mpr ⟨parts, count, path⟩

/-- A line names an object file where it has the parts behind its period. -/
theorem isSome_object?_iff {line : List Char} :
    (object? line).isSome ↔
      ∃ text, ∃ parts : ObjectParts, line = '.' :: text ∧ parts.StandIn text := by
  constructor
  · intro named
    obtain ⟨path, found⟩ := Option.isSome_iff_exists.mp named
    obtain ⟨text, parts, starts, count, _⟩ := object?_eq_some_iff.mp found
    exact ⟨text, parts, starts, count.toStandIn⟩
  · rintro ⟨text, parts, rfl, stand⟩
    exact isSome_objectBehindPair? stand

/-- A line is a symbol or names an object file just as the patterns first match, which they do where
the line has the parts; of those parts the name, the address and the whole size are told, and for an
object file the path behind the earliest numbers, the longest gap and up to the last mark. No line is
both. -/
theorem line_matches_parts {line : List Char} (inLine : '\n' ∉ line) :
    (indentedPlacement? line).map Placement.groups = indentedPattern.groups? line ∧
      (barePlacement? line).map Placement.groups =
        (barePattern.groups? line).filter
          (fun groups => groups.head?.bind List.head? != some '.') ∧
      (object? line).map ([·]) = objectPattern.groups? line ∧
      Tells indentedPattern Indented line ∧
      Tells barePattern (Named isBareNameChar) line ∧
      ((object? line).isSome ↔
        ∃ text, ∃ parts : ObjectParts, line = '.' :: text ∧ parts.StandIn text) ∧
      (∀ path, object? line = some path ↔
        ∃ text, ∃ parts : ObjectParts,
          line = '.' :: text ∧ parts.Count text ∧ parts.path = path) ∧
      ((object? line).isSome → placement? line = none) := by
  refine ⟨(groups?_indented line).symm, groups_barePlacement? line, (groups?_object inLine).symm,
    tells_indented line, tells_bare line, isSome_object?_iff, fun _ => object?_eq_some_iff, ?_⟩
  intro named
  obtain ⟨path, found⟩ := Option.isSome_iff_exists.mp named
  exact placement?_of_object? found

/-- The last of three blanks in front of a bare mark belongs to the path. -/
theorem line_matches_parts_bare_mark :
    let line := ".bss 0x3 0X4   .O)".toList
    '\n' ∉ line ∧ objectPattern.groups? line = some [" .O".toList] ∧ placement? line = none := by
  intro line
  have inLine : '\n' ∉ line := by decide
  obtain ⟨_, _, pattern, _, _, _, _, apart⟩ := line_matches_parts inLine
  have found : object? line = some " .O".toList := by decide +kernel
  rw [found] at pattern apart
  exact ⟨inLine, pattern.symm, apart rfl⟩

end Readings

end Footprint.LinkMap
