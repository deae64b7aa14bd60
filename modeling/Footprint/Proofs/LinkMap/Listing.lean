import Footprint.LinkMap.Basic
import Footprint.Proofs.LinkMap.Keyed
import Mathlib.Data.Nat.Digits.Defs

/-! What the lines of a link map mention, and which mention each name and address keeps. -/

namespace Footprint.LinkMap

open Footprint.Symbol

/-- The number that hexadecimal digits spell, with the highest digit first. -/
def spelled (digits : List Char) : Nat := Nat.ofDigits 16 (digits.reverse.map hexDigitValue)

/-- The machine word with a value, if the value fits one. -/
def word? (value : Nat) : Option UInt64 := if value < 2 ^ 64 then some (.ofNat value) else none

/-- The lines behind the first heading, without further headings. -/
def listing (lines : List (List Char)) : List (List Char) :=
  match lines.dropWhile (!isHeading ·) with
  | [] => []
  | _ :: behind => behind.filter (!isHeading ·)

/-- The object file that the last line with one names. -/
def inForce? (lines : List (List Char)) : Option String :=
  (lines.reverse.findSome? object?).map String.ofList

/-- A symbol as a line mentions it. -/
structure Mention where
  name : String
  address : UInt64
  size : UInt64
  /-- The object file in force where the line stands. -/
  object? : Option String
deriving DecidableEq, Repr

namespace Mention

/-- The name and the address of a mentioned symbol. -/
def key (mention : Mention) : String × UInt64 := (mention.name, mention.address)

/-- The symbol of a mention, of which a link map tells no more. -/
def symbol (mention : Mention) : Symbol where
  name := mention.name
  kind := .unknown
  address := mention.address
  size := mention.size
  sectionName? := none
  object? := mention.object?
  sourceFile? := none
  sourceLine? := none

end Mention

/-- The symbol of a placement, unless it has no size or a number fits no machine word. -/
def Placement.mention? (placement : Placement) (object? : Option String) : Option Mention := do
  let address ← word? (spelled placement.address)
  let size ← word? (spelled placement.size)
  if size = 0 then none
  else return ⟨.ofList placement.name, address, size, object?⟩

/-- The symbol that the line with an index mentions, with the object file of the lines before. -/
def mentionAt? (lines : List (List Char)) (index : Nat) : Option Mention :=
  (lines[index]?.bind placement?).bind (·.mention? (inForce? (lines.take index)))

/-- All that lines mention, in their order. -/
def mentions (lines : List (List Char)) : List Mention :=
  (List.range lines.length).filterMap (mentionAt? lines)

/-- Whether a mention is the first one with the largest size. -/
def FirstLargest (mentions : List Mention) (mention : Mention) : Prop :=
  ∃ before after, mentions = before ++ mention :: after ∧
    (∀ other ∈ before, other.size < mention.size) ∧ ∀ other ∈ after, other.size ≤ mention.size

/-- The symbols that a link map keeps of mentions: one for each name and address, larger ones
first, and those of one size in the order in which they are first mentioned. -/
structure Keeps (mentions : List Mention) (symbols : List Symbol) : Prop where
  nodup : (symbols.map Symbol.key).Nodup
  mem : ∀ wanted, wanted ∈ symbols.map Symbol.key ↔ wanted ∈ mentions.map Mention.key
  chosen : ∀ symbol ∈ symbols, ∃ mention,
    FirstLargest (mentions.filter (·.key = symbol.key)) mention ∧ symbol = mention.symbol
  ordered : symbols.Pairwise (Precedes (mentions.map Mention.key))

section Lines

/-- The digits of a number are read from the highest one on. -/
theorem hexWord?_eq (digits : List Char) : hexWord? digits = word? (spelled digits) := by
  -- The digit read last has the lowest place, so that the induction takes digits off the end.
  have value : digits.foldl (fun value digit => value * 16 + hexDigitValue digit) 0 =
      spelled digits := by
    induction digits using List.reverseRecOn with
    | nil => rfl
    | append_singleton digits digit ih =>
      simp only [List.foldl_append, List.foldl_cons, List.foldl_nil, ih]
      simp only [spelled, List.reverse_append, List.reverse_singleton, List.singleton_append,
        List.map_cons, Nat.ofDigits_cons]
      omega
  rw [hexWord?, value]
  rfl

/-- The symbol of a placement is the one that it mentions. -/
theorem symbol?_eq (placement : Placement) (object? : Option String) :
    placement.symbol? object? = (placement.mention? object?).map Mention.symbol := by
  simp only [Placement.symbol?, Placement.mention?, hexWord?_eq]
  -- Both stop at the first number that fits no word, and at a size of zero.
  cases word? (spelled placement.address) with
  | none => rfl
  | some address =>
    cases word? (spelled placement.size) with
    | none => rfl
    | some size => by_cases none : size = 0 <;> simp [none, Mention.symbol]

/-- The lines of the symbols stand behind the first heading. -/
theorem body_eq (lines : List (List Char)) : body lines = listing lines := by
  rw [body, listing]
  cases behind : lines.dropWhile (!isHeading ·) with
  | nil => rfl
  | cons heading rest =>
    -- What is left starts with the first heading, which the filter takes away.
    have first := List.head?_dropWhile_not (!isHeading ·) lines
    have heads : isHeading heading := by simpa [behind] using first
    simp [heads]

/-- Lines in front of the first heading say nothing. -/
theorem listing_append {front : List (List Char)} (plain : ∀ line ∈ front, isHeading line = false)
    (lines : List (List Char)) : listing (front ++ lines) = listing lines := by
  -- The lines in front are passed on the way to the heading.
  have passed : (front ++ lines).dropWhile (!isHeading ·) = lines.dropWhile (!isHeading ·) := by
    rw [List.dropWhile_append_of_pos]
    intro line member
    simp [plain line member]
  rw [listing, listing, passed]

/-- A line that names an object file mentions no symbol. -/
theorem placement?_of_object? {line path : List Char} (found : object? line = some path) :
    placement? line = none := by
  -- Such a line starts with a period, which is neither a blank nor the start of a name.
  unfold object? at found
  split at found
  · rename_i rest
    have visible : Text.isBlank '.' = false := by decide +kernel
    have bare : isBareNameChar '.' = true := by decide
    have named : barePlacement? ('.' :: rest) = none := by
      rw [barePlacement?]
      cases pair? (('.' :: rest).dropWhile isBareNameChar) with
      | none => rfl
      | some pair => simp [bare]
    simp [placement?, indentedPlacement?, afterBlanks?, visible, named]
  · contradiction

/-- A line adds the symbol that it mentions, and puts in force the object file that it names. -/
theorem push_eq (progress : Progress) (line : List Char) :
    (progress.push line).object? = ((object? line).map String.ofList).or progress.object? ∧
      (progress.push line).symbols.toList = progress.symbols.toList ++
        ((placement? line).bind (·.symbol? progress.object?)).toList := by
  rw [Progress.push]
  cases named : object? line with
  | some path => simp [placement?_of_object? named]
  | none =>
    cases (placement? line).bind (·.symbol? progress.object?) with
    | none => simp
    | some symbol => simp

end Lines

section Mentions

variable (lines : List (List Char)) (line : List Char)

/-- A further line leaves what the lines before it mention. -/
theorem mentionAt?_concat {index : Nat} (before : index < lines.length) :
    mentionAt? (lines ++ [line]) index = mentionAt? lines index := by
  -- Neither the line itself nor the ones in front of it change.
  rw [mentionAt?, mentionAt?, List.getElem?_append_left before,
    List.take_append_of_le_length (Nat.le_of_lt before)]

/-- A further line adds what it mentions under the object file in force. -/
theorem mentions_concat :
    mentions (lines ++ [line]) =
      mentions lines ++ ((placement? line).bind (·.mention? (inForce? lines))).toList := by
  have kept : (List.range lines.length).filterMap (mentionAt? (lines ++ [line])) = mentions lines :=
    List.filterMap_congr fun index member =>
      mentionAt?_concat lines line (List.mem_range.mp member)
  have last : mentionAt? (lines ++ [line]) lines.length =
      (placement? line).bind (·.mention? (inForce? lines)) := by
    simp [mentionAt?]
  rw [mentions, List.length_append, List.length_singleton, List.range_succ, List.filterMap_append,
    kept]
  cases added : (placement? line).bind (·.mention? (inForce? lines)) <;> simp [last, added]

/-- A further line puts in force the object file that it names. -/
theorem inForce?_concat :
    inForce? (lines ++ [line]) = ((object? line).map String.ofList).or (inForce? lines) := by
  rw [inForce?, List.reverse_append, List.reverse_singleton, List.singleton_append,
    List.findSome?_cons]
  cases object? line <;> simp [inForce?]

/-- The symbols collected from lines are those that the lines mention. -/
theorem foldl_push :
    (lines.foldl Progress.push ⟨none, #[], #[]⟩).object? = inForce? lines ∧
      (lines.foldl Progress.push ⟨none, #[], #[]⟩).symbols.toList =
        (mentions lines).map Mention.symbol := by
  -- The object file in force and the symbols so far are carried from line to line.
  induction lines using List.reverseRecOn with
  | nil => exact ⟨rfl, rfl⟩
  | append_singleton lines line ih =>
    obtain ⟨object, symbols⟩ := ih
    obtain ⟨next, added⟩ := push_eq (lines.foldl Progress.push ⟨none, #[], #[]⟩) line
    rw [List.foldl_append, List.foldl_cons, List.foldl_nil, next, added, object, symbols,
      inForce?_concat, mentions_concat, List.map_append]
    refine ⟨rfl, ?_⟩
    cases placement? line with
    | none => rfl
    | some placement => simp [symbol?_eq, Option.toList_map]

end Mentions

section Largest

/-- The larger of two mentioned symbols is the mention with the larger size. -/
theorem larger_symbol (earlier later : Mention) :
    larger earlier.symbol later.symbol =
      (if earlier.size < later.size then later else earlier).symbol := by
  -- A mention and its symbol have one size.
  exact (apply_ite Mention.symbol (earlier.size < later.size) later earlier).symm

/-- One mention is the largest of itself. -/
theorem firstLargest_singleton (mention : Mention) : FirstLargest [mention] mention :=
  ⟨[], [], rfl, by simp, by simp⟩

/-- A further mention is the first largest if it is larger than all before it. -/
theorem FirstLargest.push {own : List Mention} {best : Mention} (largest : FirstLargest own best)
    (mention : Mention) :
    FirstLargest (own ++ [mention]) (if best.size < mention.size then mention else best) := by
  obtain ⟨before, after, rfl, smaller, others⟩ := largest
  by_cases grows : best.size < mention.size
  · rw [if_pos grows]
    refine ⟨before ++ best :: after, [], rfl, ?_, by simp⟩
    intro other member
    rw [List.mem_append, List.mem_cons] at member
    rcases member with early | rfl | late
    · exact UInt64.lt_trans (smaller other early) grows
    · exact grows
    · exact UInt64.lt_of_le_of_lt (others other late) grows
  · rw [if_neg grows]
    refine ⟨before, after ++ [mention], by simp, smaller, ?_⟩
    intro other member
    rcases List.mem_append.mp member with late | last
    · exact others other late
    · rw [List.mem_singleton.mp last]
      exact UInt64.not_lt.mp grows

/-- Of the mentions of one key, the first largest stays. -/
theorem foldl_larger {own : List Mention} (some_ : own ≠ []) :
    ∃ best, FirstLargest own best ∧
      (own.map Mention.symbol).foldl (absorb larger) none = some best.symbol := by
  -- Each further mention is weighed against the one that stayed so far.
  induction own using List.reverseRecOn with
  | nil => contradiction
  | append_singleton own mention ih =>
    rw [List.map_append, List.foldl_append]
    by_cases alone : own = []
    · subst alone
      exact ⟨mention, firstLargest_singleton mention, rfl⟩
    · obtain ⟨best, largest, stays⟩ := ih alone
      refine ⟨_, largest.push mention, ?_⟩
      rw [stays]
      simp only [List.map_cons, List.map_nil, List.foldl_cons, List.foldl_nil, absorb,
        Option.map_some, Option.getD_some, larger_symbol]

end Largest

/-- Putting mentioned symbols in by their keys and sorting them keeps what a link map keeps. -/
theorem keeps_placeAll (mentions : List Mention) :
    Keeps mentions (largestFirst (placeAll larger [] (mentions.map Mention.symbol))) := by
  have keys : (mentions.map Mention.symbol).map Symbol.key = mentions.map Mention.key := by
    rw [List.map_map]
    rfl
  have firsts : Firsts ([] ++ (mentions.map Mention.symbol).map Symbol.key)
      ((placeAll larger [] (mentions.map Mention.symbol)).map Symbol.key) :=
    firsts_placeAll keepsKey_larger firsts_nil _
  rw [List.nil_append, keys] at firsts
  -- Sorting only moves the symbols.
  have perm := (largestFirst_spec (placeAll larger [] (mentions.map Mention.symbol))).perm
  refine ⟨(perm.map Symbol.key).nodup_iff.mpr firsts.nodup, ?_, ?_, precedes_largestFirst firsts⟩
  · intro wanted
    rw [(perm.map Symbol.key).mem_iff, firsts.mem]
  · intro symbol member
    have placed := perm.mem_iff.mp member
    have found := at?_of_mem firsts.nodup placed
    -- The symbol of a key is what became of the mentions with that key.
    have own : (mentions.map Mention.symbol).filter (·.key = symbol.key) =
        (mentions.filter (·.key = symbol.key)).map Mention.symbol := List.filter_map
    rw [at?_placeAll keepsKey_larger, own] at found
    have mentioned : mentions.filter (·.key = symbol.key) ≠ [] := by
      intro empty
      rw [empty] at found
      contradiction
    obtain ⟨best, largest, stays⟩ := foldl_larger mentioned
    rw [show at? [] symbol.key = none from rfl, stays] at found
    exact ⟨best, largest, (Option.some.inj found).symm⟩

/-- The symbols of a link map are what it keeps of the mentions behind its heading. -/
theorem keeps_parse (text : String) :
    Keeps (mentions (listing (Text.lines text.toList))) (parse text).1.symbols := by
  have collected := (foldl_push (listing (Text.lines text.toList))).2
  rw [← body_eq] at collected ⊢
  change Keeps _ (largestFirst (placeAll larger [] _))
  rw [collect, collected]
  exact keeps_placeAll _

/-- The name on a line is not empty. -/
theorem name_ne_nil {line : List Char} {placement : Placement}
    (found : placement? line = some placement) : placement.name ≠ [] := by
  -- Both forms of a line refuse the empty name.
  rw [placement?] at found
  split at found
  · rename_i own indented
    obtain rfl := Option.some.inj found
    simp only [indentedPlacement?, Option.bind_eq_bind, Option.bind_eq_some_iff] at indented
    obtain ⟨chars, _, pair, _, kept⟩ := indented
    split at kept
    · contradiction
    · rename_i filled
      obtain rfl := Option.some.inj kept
      simpa using filled
  · simp only [barePlacement?, Option.bind_eq_bind, Option.bind_eq_some_iff] at found
    obtain ⟨pair, _, kept⟩ := found
    split at kept
    · contradiction
    · contradiction
    · rename_i filled _
      obtain rfl := Option.some.inj kept
      exact filled

/-- Mentioned symbols are plain. -/
theorem plain_of_mem_mentions {lines : List (List Char)} {mention : Mention}
    (member : mention ∈ mentions lines) : Plain mention.symbol := by
  obtain ⟨index, _, found⟩ := List.mem_filterMap.mp member
  obtain ⟨placement, placed, stated⟩ := Option.bind_eq_some_iff.mp found
  obtain ⟨line, _, read⟩ := Option.bind_eq_some_iff.mp placed
  simp only [Placement.mention?, Option.bind_eq_bind, Option.bind_eq_some_iff] at stated
  obtain ⟨address, _, size, _, kept⟩ := stated
  -- A mention without a size is none.
  split at kept
  · contradiction
  · rename_i sized
    obtain rfl := Option.some.inj kept
    refine ⟨UInt64.pos_iff_ne_zero.mpr sized, ?_, rfl, rfl⟩
    simpa [Mention.symbol] using name_ne_nil read

/-- The symbols of a link map are tidy. -/
theorem tidy_parse (text : String) : Tidy (parse text).1.symbols := by
  have keeps := keeps_parse text
  constructor
  · apply keeps.ordered.imp
    rintro first second (smaller | ⟨tied, _⟩)
    · exact UInt64.le_of_lt smaller
    · exact UInt64.le_of_eq tied
  · intro symbol member
    obtain ⟨mention, ⟨before, after, split, _, _⟩, rfl⟩ := keeps.chosen symbol member
    -- The chosen mention is one of those with the key of the symbol.
    have own : mention ∈ (mentions (listing (Text.lines text.toList))).filter
        (·.key = mention.symbol.key) := by
      rw [split]
      simp
    exact plain_of_mem_mentions (List.mem_of_mem_filter own)

/-- The link map depends on nothing but the lines behind the first heading. -/
theorem parse_congr {text other : String}
    (same : listing (Text.lines other.toList) = listing (Text.lines text.toList)) :
    (parse other).1 = (parse text).1 := by
  rw [← body_eq, ← body_eq] at same
  simp only [parse, collect, same]

/-- A link map keeps one symbol for each name and address that the lines behind the first heading
mention, of the largest size mentioned and with the object file in force where that size is first
reached; lines in front of the first heading make no difference. -/
theorem parse_keeps_mentions (text : String) :
    Keeps (mentions (listing (Text.lines text.toList))) (parse text).1.symbols ∧
      ∀ (other : String) (front otherFront rest : List (List Char)),
        Text.lines text.toList = front ++ rest → Text.lines other.toList = otherFront ++ rest →
        (∀ line ∈ front ++ otherFront, isHeading line = false) →
        (parse other).1 = (parse text).1 := by
  refine ⟨keeps_parse text, ?_⟩
  intro other front otherFront rest lines otherLines plain
  -- Neither front has a heading, so that the rest decides what both texts list.
  have own : listing (Text.lines text.toList) = listing rest := by
    rw [lines]
    exact listing_append (fun line member => plain line (List.mem_append_left _ member)) rest
  have others : listing (Text.lines other.toList) = listing rest := by
    rw [otherLines]
    exact listing_append (fun line member => plain line (List.mem_append_right _ member)) rest
  exact parse_congr (others.trans own.symm)

/-- A preface changes nothing, and two sizes of one symbol are told apart behind the heading. -/
theorem parse_keeps_mentions_behind_preface :
    let lines := "Symbol File\n.text.f 0x10 0x8 a.o\n f 0x10 0x4\n.text 0x10 0x8 b.o\n f 0x10 0x8"
    let text := " f 0x10 0x99\n" ++ lines
    Keeps [⟨"f", 0x10, 0x4, some "a.o"⟩, ⟨"f", 0x10, 0x8, some "b.o"⟩] (parse text).1.symbols ∧
      (parse lines).1 = (parse text).1 := by
  intro lines text
  obtain ⟨keeps, prefaced⟩ := parse_keeps_mentions text
  have mentioned : mentions (listing (Text.lines text.toList)) =
      [⟨"f", 0x10, 0x4, some "a.o"⟩, ⟨"f", 0x10, 0x8, some "b.o"⟩] := by decide +kernel
  rw [mentioned] at keeps
  exact ⟨keeps, prefaced lines [" f 0x10 0x99".toList] [] (Text.lines lines.toList)
    (by decide +kernel) rfl (by decide +kernel)⟩

end Footprint.LinkMap
