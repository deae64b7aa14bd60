import Mathlib.Data.List.Basic

/-! Patterns of a text, the ways in which they match, and the first way of all. -/

namespace Footprint.Text

/-- A pattern that a text is held against from its start on. -/
inductive Pattern
  /-- One character of a class. -/
  | one (accepts : Char → Bool)
  /-- At least one character of a class, and as many as possible. -/
  | most (accepts : Char → Bool)
  /-- Any number of characters of a class, and as few as possible. -/
  | least (accepts : Char → Bool)
  /-- One pattern and then another. -/
  | both (first second : Pattern)
  /-- A pattern of which the matched text is kept. -/
  | group (inner : Pattern)

/-- One way in which a pattern matches. -/
structure Way where
  /-- The matched text. -/
  taken : List Char
  /-- The texts kept of groups, in their order. -/
  groups : List (List Char)
  /-- What follows the matched text. -/
  rest : List Char
deriving DecidableEq, Repr

namespace Way

/-- A way with one more character in front of its matched text. -/
def onto (char : Char) (way : Way) : Way := { way with taken := char :: way.taken }

/-- A way whose matched text is kept as a group. -/
def kept (way : Way) : Way := { way with groups := way.taken :: way.groups }

/-- A way followed by one that matches behind it. -/
def followedBy (way next : Way) : Way :=
  ⟨way.taken ++ next.taken, way.groups ++ next.groups, next.rest⟩

end Way

/-- The runs of characters of a class at the start of a text, longer ones first. -/
def mostWays (accepts : Char → Bool) : List Char → List Way
  | [] => []
  | char :: rest =>
    if accepts char then (mostWays accepts rest).map (.onto char) ++ [⟨[char], [], rest⟩] else []

/-- The runs of characters of a class at the start of a text, shorter ones first. -/
def leastWays (accepts : Char → Bool) : List Char → List Way
  | [] => [⟨[], [], []⟩]
  | char :: rest =>
    ⟨[], [], char :: rest⟩ ::
      if accepts char then (leastWays accepts rest).map (.onto char) else []

namespace Pattern

/-- The ways in which a pattern matches at the start of a text, in the order in which they are
tried: every choice is kept as long as what follows it can still match. -/
def ways : Pattern → List Char → List Way
  | one accepts, char :: rest => if accepts char then [⟨[char], [], rest⟩] else []
  | one _, [] => []
  | most accepts, text => mostWays accepts text
  | least accepts, text => leastWays accepts text
  | both first second, text =>
    (first.ways text).flatMap fun way => (second.ways way.rest).map way.followedBy
  | group inner, text => (inner.ways text).map .kept

/-- The texts of the groups where a pattern first matches at the start of a text. -/
def groups? (pattern : Pattern) (text : List Char) : Option (List (List Char)) :=
  (pattern.ways text).head?.map Way.groups

/-- The first answer that the groups of a match and the text behind it have. -/
def answer? {α : Type} (pattern : Pattern) (text : List Char)
    (next : List (List Char) → List Char → Option α) : Option α :=
  (pattern.ways text).findSome? fun way => next way.groups way.rest

section Laws

variable {α : Type} {accepts : Char → Bool} {text : List Char}
variable {next : List (List Char) → List Char → Option α}

/-- The groups of a pattern are the first answer when all is accepted. -/
theorem groups?_eq (pattern : Pattern) (text : List Char) :
    pattern.groups? text = pattern.answer? text fun groups _ => some groups := by
  rw [groups?, answer?]
  cases pattern.ways text with
  | nil => rfl
  | cons way others => rfl

/-- A character is matched if it belongs to the class. -/
theorem answer?_one (accepts : Char → Bool) (char : Char) (rest : List Char) :
    (one accepts).answer? (char :: rest) next = if accepts char then next [] rest else none := by
  cases accepted : accepts char with
  | false => simp [answer?, ways, accepted]
  | true => cases answered : next [] rest <;> simp [answer?, ways, accepted, answered]

/-- The second of two patterns answers for each way of the first. -/
theorem answer?_both (first second : Pattern) (text : List Char) :
    (both first second).answer? text next =
      first.answer? text fun groups rest =>
        second.answer? rest fun others behind => next (groups ++ others) behind := by
  simp only [answer?, ways]
  induction first.ways text with
  | nil => rfl
  | cons way ways ih =>
    rw [List.flatMap_cons, List.findSome?_append, ih, List.findSome?_cons, List.findSome?_map]
    -- The ways of the second pattern behind this one come before those behind any other.
    change Option.or ((second.ways way.rest).findSome? fun own =>
      next (way.groups ++ own.groups) own.rest) _ = _
    cases (second.ways way.rest).findSome? fun own => next (way.groups ++ own.groups) own.rest with
    | none => rfl
    | some answer => rfl

/-- Of the runs at a text, those with its first character come before that character alone. -/
theorem answer?_most_cons (accepts : Char → Bool) (char : Char) (rest : List Char) :
    (most accepts).answer? (char :: rest) next =
      if accepts char then ((most accepts).answer? rest next).or (next [] rest) else none := by
  cases accepted : accepts char with
  | false => simp [answer?, ways, mostWays, accepted]
  | true =>
    simp only [answer?, ways, mostWays, accepted, if_true, List.findSome?_append,
      List.findSome?_map, Function.comp_def, Way.onto]
    cases answered : next [] rest <;> simp [answered]

/-- The empty run is tried before those with the first character of a text. -/
theorem answer?_least_cons (accepts : Char → Bool) (char : Char) (rest : List Char) :
    (least accepts).answer? (char :: rest) next =
      (next [] (char :: rest)).or
        (if accepts char then (least accepts).answer? rest next else none) := by
  simp only [answer?, ways, leastWays, List.findSome?_cons]
  cases next [] (char :: rest) with
  | some answer => rfl
  | none =>
    cases accepted : accepts char with
    | false => simp
    | true => simp [List.findSome?_map, Function.comp_def, Way.onto]

/-- Only the empty run is tried at the end of a text. -/
theorem answer?_least_nil (accepts : Char → Bool) :
    (least accepts).answer? [] next = next [] [] := by
  cases answered : next [] [] <;> simp [answer?, ways, leastWays, answered]

/-- The longest run at a text is tried first. -/
theorem head?_mostWays (accepts : Char → Bool) (text : List Char) :
    (mostWays accepts text).head? =
      if text.takeWhile accepts = [] then none
      else some ⟨text.takeWhile accepts, [], text.dropWhile accepts⟩ := by
  induction text with
  | nil => rfl
  | cons char rest ih =>
    cases accepted : accepts char with
    | false => simp [mostWays, accepted]
    | true =>
      -- Where no run follows, the character is a run of its own.
      by_cases alone : rest.takeWhile accepts = []
      · have stays : rest.dropWhile accepts = rest := by
          have joined := List.takeWhile_append_dropWhile (p := accepts) (l := rest)
          rwa [alone, List.nil_append] at joined
        simp [mostWays, accepted, ih, alone, stays]
      · simp [mostWays, accepted, ih, alone, Way.onto]

/-- The runs at a text are the longest one and then those that are shorter. -/
theorem mostWays_eq (accepts : Char → Bool) (text : List Char) :
    mostWays accepts text =
      if text.takeWhile accepts = [] then []
      else ⟨text.takeWhile accepts, [], text.dropWhile accepts⟩ :: (mostWays accepts text).tail := by
  have first := head?_mostWays accepts text
  by_cases missing : text.takeWhile accepts = []
  · rw [if_pos missing] at first ⊢
    exact List.head?_eq_none_iff.mp first
  · rw [if_neg missing] at first ⊢
    exact (List.cons_head?_tail first).symm

/-- A run that is not the longest one is followed by a character of its class. -/
theorem accepts_of_mem_tail_mostWays {way : Way} (shorter : way ∈ (mostWays accepts text).tail) :
    ∃ char rest, way.rest = char :: rest ∧ accepts char := by
  induction text generalizing way with
  | nil => simp [mostWays] at shorter
  | cons char rest ih =>
    cases accepted : accepts char with
    | false => simp [mostWays, accepted] at shorter
    | true =>
      rw [mostWays, if_pos accepted] at shorter
      cases runs : mostWays accepts rest with
      | nil => simp [runs] at shorter
      | cons longest others =>
        rw [runs, List.tail_cons] at ih
        rw [runs, List.map_cons, List.cons_append, List.tail_cons] at shorter
        rcases List.mem_append.mp shorter with longer | shortest
        · obtain ⟨own, among, rfl⟩ := List.mem_map.mp longer
          exact @ih own among
        · obtain rfl := List.mem_singleton.mp shortest
          -- A run stands in what follows the first character, which thus starts with one of the class.
          cases rest with
          | nil => simp [mostWays] at runs
          | cons second rest =>
            cases follows : accepts second with
            | false => simp [mostWays, follows] at runs
            | true => exact ⟨second, rest, rfl, follows⟩

/-- Where nothing is accepted in front of one more character of the class, only the longest run
counts. -/
theorem findSome?_mostWays {use : Way → Option α} (text : List Char)
    (refuses : ∀ way char rest, way.rest = char :: rest → accepts char → use way = none) :
    (mostWays accepts text).findSome? use =
      if text.takeWhile accepts = [] then none
      else use ⟨text.takeWhile accepts, [], text.dropWhile accepts⟩ := by
  have others : (mostWays accepts text).tail.findSome? use = none := by
    rw [List.findSome?_eq_none_iff]
    intro way shorter
    obtain ⟨char, rest, follows, accepted⟩ := accepts_of_mem_tail_mostWays shorter
    exact refuses way char rest follows accepted
  rw [mostWays_eq]
  split
  · rfl
  · rw [List.findSome?_cons, others]
    cases use ⟨text.takeWhile accepts, [], text.dropWhile accepts⟩ <;> rfl

/-- A run in front of what refuses its class is the longest one. -/
theorem answer?_most (text : List Char)
    (refuses : ∀ groups char rest, accepts char → next groups (char :: rest) = none) :
    (most accepts).answer? text next =
      if text.takeWhile accepts = [] then none else next [] (text.dropWhile accepts) := by
  apply findSome?_mostWays
  intro way char rest follows accepted
  rw [follows, refuses way.groups char rest accepted]

/-- A run kept as a group in front of what refuses its class is the longest one. -/
theorem answer?_group_most (text : List Char)
    (refuses : ∀ groups char rest, accepts char → next groups (char :: rest) = none) :
    (group (most accepts)).answer? text next =
      if text.takeWhile accepts = [] then none
      else next [text.takeWhile accepts] (text.dropWhile accepts) := by
  rw [answer?, ways, ways, List.findSome?_map]
  apply findSome?_mostWays
  intro way char rest follows accepted
  change next (way.taken :: way.groups) way.rest = none
  rw [follows, refuses _ char rest accepted]

/-- A run that ends a pattern is the longest one. -/
theorem answer?_group_most_last (text : List Char) (use : List (List Char) → α) :
    ((group (most accepts)).answer? text fun groups _ => some (use groups)) =
      if text.takeWhile accepts = [] then none else some (use [text.takeWhile accepts]) := by
  rw [answer?, ways, ways, List.findSome?_map, mostWays_eq]
  split <;> rfl

/-- A group keeps the matched text in front of the groups inside. -/
theorem groups?_group (inner : Pattern) (text : List Char) :
    (group inner).groups? text =
      (inner.ways text).head?.map fun way => way.taken :: way.groups := by
  rw [groups?, ways, List.head?_map, Option.map_map]
  rfl

/-- Of the texts that start with a run, longer runs come before the first character alone. -/
theorem groups?_group_both_most (accepts : Char → Bool) (second : Pattern) (char : Char)
    (rest : List Char) :
    (group (both (most accepts) second)).groups? (char :: rest) =
      if accepts char then
        (((group (both (most accepts) second)).groups? rest).or
          ((group second).groups? rest)).map (·.modifyHead (char :: ·))
      else none := by
  rw [groups?_group, groups?_group, groups?_group]
  cases accepted : accepts char with
  | false => simp [ways, mostWays, accepted]
  | true =>
    -- The ways with a longer run are those behind the first character, with it put in front.
    have longer : ((mostWays accepts rest).map (Way.onto char)).flatMap
          (fun way => (second.ways way.rest).map way.followedBy) =
        ((both (most accepts) second).ways rest).map (Way.onto char) := by
      rw [ways, ways, List.flatMap_map, List.map_flatMap]
      congr 1
      funext way
      rw [List.map_map]
      rfl
    rw [ways, ways, mostWays, if_pos accepted, if_pos rfl, List.flatMap_append, longer,
      List.flatMap_singleton]
    simp only [List.head?_append, List.head?_map, Option.map_or, Option.map_map]
    rfl

end Laws

end Pattern

end Footprint.Text
