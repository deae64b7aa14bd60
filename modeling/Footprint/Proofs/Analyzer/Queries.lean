import Footprint.Analyzer.Query
import Footprint.Proofs.Elf.Queries

/-! Questions to an analyzer, one after the other: besides what is reported, no reply tells whether
the line table of the image was decoded before. -/

namespace Footprint.Analyzer

/-- The first of all symbols with a name, if they can be listed. -/
def known? (analyzer : Analyzer) (name : String) : Option Symbol :=
  match analyzer.allSymbols with
  | .ok symbols => symbols.find? (·.name = name)
  | .error _ => none

/-- Whether a question needs the line table of the image: questions about source lines do, and those
for the source location of a known symbol that is not data. -/
def needsLines (analyzer : Analyzer) : Query → Bool
  | .symbolDebugInfo name | .symbolWithDebugInfo name =>
    analyzer.elf?.isSome && (analyzer.known? name).any (·.kind ≠ .object)
  | .image question => analyzer.elf?.isSome && question.needsLines
  | _ => false

/-- What a question reports besides the decoding of the line table. -/
def ownEvents (analyzer : Analyzer) : Query → List Event
  | .symbolDebugInfo name =>
    match analyzer.elf?, analyzer.allSymbols with
    | some _, .error cause => [.lookupFailed name cause]
    | _, _ => []
  | .image question =>
    match analyzer.elf? with
    | some image => image.ownEvents question
    | none => []
  | _ => []

/-- What the decoding of the line table reports, if there is an image. -/
def lineEvents (analyzer : Analyzer) : List Event :=
  match analyzer.elf? with
  | some image => image.lineEvents
  | none => []

/-- What is known of the questions to an analyzer. -/
def service (analyzer : Analyzer) : Elf.Service Query where
  table? := analyzer.elf?.map Elf.Image.lineTable
  decoding := analyzer.lineEvents
  needs := analyzer.needsLines
  own := analyzer.ownEvents

/-- The replies are those to the questions in a row. -/
theorem replies_eq (analyzer : Analyzer) (cache : Elf.LineCache) (queries : List Query) :
    analyzer.replies cache queries = Elf.replies analyzer.reply cache queries := by
  induction queries generalizing cache with
  | nil => rfl
  | cons query queries ih => rw [replies, Elf.replies, ih]

section Served

variable {analyzer : Analyzer} {image : Elf.Image} {query : Query}

/-- With an image, the line table that is known is the one of the image. -/
theorem service_cache (image? : analyzer.elf? = some image) (needed : Bool) :
    analyzer.service.cache needed = image.service.cache needed := by
  rw [Elf.Service.cache, Elf.Service.cache, service, image?]
  rfl

/-- A question that does not need the line table gets the reply that it should get if it hands on
what is known of the table. -/
theorem served_plain (answer : Answer) (plain : analyzer.needsLines query = false)
    (same : ∀ cache, analyzer.reply query cache = ⟨answer, analyzer.ownEvents query, cache⟩)
    (needed : Bool) :
    analyzer.reply query (analyzer.service.cache needed) =
      analyzer.service.expected analyzer.reply needed query := by
  rw [Elf.Service.expected_plain plain, same, same none]
  rfl

/-- A question that needs the line table gets the reply that it should get if its answer is made
from the table. -/
theorem served_lines (image? : analyzer.elf? = some image) (use : LineTable → Answer)
    (needs : analyzer.needsLines query = true) (quiet : analyzer.ownEvents query = [])
    (same : ∀ cache, analyzer.reply query cache = (image.lines cache).map use) (needed : Bool) :
    analyzer.reply query (analyzer.service.cache needed) =
      analyzer.service.expected analyzer.reply needed query := by
  rw [Elf.Service.expected_needing needs quiet, service_cache image?, same, same none,
    image.lines_map use needed]
  simp only [service, lineEvents, image?, Option.map_some]

/-- A question for the source location of a symbol gets the reply that it should get: data needs no
line table, and all else does. -/
theorem served_located (image? : analyzer.elf? = some image) (symbol : Symbol)
    (use : Option SourceLocation → Answer)
    (needs : analyzer.needsLines query = decide (symbol.kind ≠ .object))
    (quiet : analyzer.ownEvents query = [])
    (same : ∀ cache, analyzer.reply query cache = (locate image symbol cache).map use)
    (needed : Bool) :
    analyzer.reply query (analyzer.service.cache needed) =
      analyzer.service.expected analyzer.reply needed query := by
  by_cases data : symbol.kind = .object
  · apply served_plain (use none)
    · rw [needs]
      simp [data]
    · intro cache
      rw [same, quiet, locate, if_pos data]
      rfl
  · apply served_lines image? (fun table =>
      use ((table.lookup? symbol.address).map LineProgram.Row.location)) _ quiet
    · intro cache
      rw [same, locate, if_neg data]
      rfl
    · rw [needs]
      exact decide_eq_true data

end Served

section Serves

variable (analyzer : Analyzer) (name : String) (needed : Bool)

/-- A question for the source location of a name gets the reply that it should get. -/
theorem served_symbolDebugInfo :
    analyzer.reply (.symbolDebugInfo name) (analyzer.service.cache needed) =
      analyzer.service.expected analyzer.reply needed (.symbolDebugInfo name) := by
  cases image? : analyzer.elf? with
  | none =>
    apply served_plain (.location none)
    · simp [needsLines, image?]
    · intro cache
      simp [reply, symbolDebugInfo, ownEvents, image?, Elf.Reply.map, Elf.Reply.plain]
  | some image =>
    cases listed : analyzer.allSymbols with
    | error cause =>
      -- A failed search is reported each time.
      apply served_plain (.location none)
      · simp [needsLines, known?, listed]
      · intro cache
        simp [reply, symbolDebugInfo, ownEvents, image?, listed, Elf.Reply.map]
    | ok symbols =>
      cases found : symbols.find? (·.name = name) with
      | none =>
        apply served_plain (.location none)
        · simp [needsLines, known?, listed, found]
        · intro cache
          simp [reply, symbolDebugInfo, ownEvents, image?, listed, symbolNamed?, found,
            Elf.Reply.map, Elf.Reply.plain]
      | some symbol =>
        apply served_located image? symbol .location
        · simp [needsLines, known?, image?, listed, found]
        · simp [ownEvents, image?, listed]
        · intro cache
          simp only [reply, symbolDebugInfo, image?, listed, symbolNamed?, found]

/-- A question for the symbol of a name gets the reply that it should get. -/
theorem served_symbolWithDebugInfo :
    analyzer.reply (.symbolWithDebugInfo name) (analyzer.service.cache needed) =
      analyzer.service.expected analyzer.reply needed (.symbolWithDebugInfo name) := by
  cases listed : analyzer.allSymbols with
  | error cause =>
    apply served_plain (.symbol (.error cause))
    · simp [needsLines, known?, listed]
    · intro cache
      simp [reply, symbolWithDebugInfo, ownEvents, listed, Elf.Reply.map, Elf.Reply.plain]
  | ok symbols =>
    cases found : symbols.find? (·.name = name) with
    | none =>
      apply served_plain (.symbol (.ok none))
      · simp [needsLines, known?, listed, found]
      · intro cache
        simp [reply, symbolWithDebugInfo, ownEvents, listed, symbolNamed?, found, Elf.Reply.map,
          Elf.Reply.plain]
    | some symbol =>
      cases image? : analyzer.elf? with
      | none =>
        apply served_plain (.symbol (.ok (some symbol)))
        · simp [needsLines, image?]
        · intro cache
          simp [reply, symbolWithDebugInfo, ownEvents, image?, listed, symbolNamed?, found,
            Elf.Reply.map, Elf.Reply.plain]
      | some image =>
        -- The location is written into the symbol.
        apply served_located image? symbol fun location? =>
          .symbol (.ok (some (location?.elim symbol symbol.withSource)))
        · simp [needsLines, known?, image?, listed, found]
        · rfl
        · intro cache
          simp only [reply, symbolWithDebugInfo, image?, listed, symbolNamed?, found]
          obtain ⟨location?, events, after⟩ := locate image symbol cache
          cases location? <;> rfl

/-- A question to the image gets the reply that it should get. -/
theorem served_image (question : Elf.Query) :
    analyzer.reply (.image question) (analyzer.service.cache needed) =
      analyzer.service.expected analyzer.reply needed (.image question) := by
  cases image? : analyzer.elf? with
  | none =>
    apply served_plain (.image none)
    · simp [needsLines, image?]
    · intro cache
      simp [reply, ownEvents, image?, Elf.Reply.plain]
  | some image =>
    -- The image serves its own questions, and the analyzer passes the replies on.
    have own := image.serves_reply needed question
    have passed : ∀ cache, analyzer.reply (.image question) cache =
        (image.reply question cache).map fun answer => .image (some answer) := by
      intro cache
      simp only [reply, image?]
    have needs : analyzer.needsLines (.image question) = question.needsLines := by
      simp [needsLines, image?]
    rw [passed, service_cache image?, own]
    simp only [Elf.Service.expected, Elf.Reply.map, passed, service_cache image?]
    simp only [service, Elf.Image.service, needs, ownEvents, lineEvents, image?]
    rfl

/-- An analyzer serves its questions. -/
theorem serves_reply : analyzer.service.Serves analyzer.reply := by
  intro needed query
  cases query with
  | symbolDebugInfo name => exact served_symbolDebugInfo analyzer name needed
  | symbolWithDebugInfo name => exact served_symbolWithDebugInfo analyzer name needed
  | image question => exact served_image analyzer needed question
  -- All other questions are answered from lists.
  | sections | sectionsWithSymbols | symbolsInSection _ | allSymbols | symbolsForObject _
  | objects =>
    exact served_plain _ rfl (fun _ => rfl) needed

end Serves

/-- Each of the questions asked of an image, or of an analyzer, gets the answer that it would get as
the first one. What is known of the line table is the table of the image, from the first question on
that needs it; decoding is reported for that question and for no other one. -/
theorem replies_decode_once :
    (∀ (image : Elf.Image) (questions : List Elf.Query) (index : Nat),
      (Elf.replies image.reply none questions)[index]? = questions[index]?.map fun question =>
        let needed := (questions.take index).any (·.needsLines)
        { answer := (image.reply question none).answer
          events := image.ownEvents question ++
            if question.needsLines && !needed then image.lineEvents else []
          cache := if needed || question.needsLines then some image.lineTable else none }) ∧
      ∀ (analyzer : Analyzer) (queries : List Query) (index : Nat),
        (analyzer.replies none queries)[index]? = queries[index]?.map fun query =>
          let needed := (queries.take index).any analyzer.needsLines
          { answer := (analyzer.reply query none).answer
            events := analyzer.ownEvents query ++
              if analyzer.needsLines query && !needed then analyzer.lineEvents else []
            cache := if needed || analyzer.needsLines query
              then analyzer.elf?.map Elf.Image.lineTable else none } := by
  constructor
  · intro image questions index
    exact image.serves_reply.getElem?_replies false questions index
  · intro analyzer queries index
    rw [replies_eq]
    exact analyzer.serves_reply.getElem?_replies false queries index

end Footprint.Analyzer
