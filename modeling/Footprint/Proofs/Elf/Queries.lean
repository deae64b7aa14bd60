import Footprint.Elf.Query
import Mathlib.Data.List.Basic

/-! Questions to an image, one after the other: the line table is decoded for the first one that
needs it, and no answer tells whether that has happened before. -/

namespace Footprint.Elf

namespace Image

/-- The line table of an image: the one in the contents of its section, and an empty one without
contents. -/
def lineTable (image : Image) : LineTable :=
  match (image.sectionData ".debug_line").1 with
  | some contents => (LineTable.parse contents).1
  | none => .empty

/-- What decoding the line table reports: first of its section, and then of its units or that there
are none. -/
def lineEvents (image : Image) : List Event :=
  (image.sectionData ".debug_line").2 ++
    match (image.sectionData ".debug_line").1 with
    | some contents => (LineTable.parse contents).2
    | none => [.noLineSection]

/-- Decoding gives the line table and reports its events. -/
theorem decodedLines_eq (image : Image) :
    image.decodedLines = (image.lineTable, image.lineEvents) := by
  unfold decodedLines lineTable lineEvents lineSection
  rcases image.sectionData ".debug_line" with ⟨contents?, events⟩
  cases contents? with
  | some contents => rfl
  | none => rfl

/-- What a question reports besides the decoding of the line table. -/
def ownEvents (image : Image) : Query → List Event
  | .sectionData name => (image.sectionData name).2
  | _ => []

end Image

/-- Whether a question is about source lines. -/
def Query.needsLines : Query → Bool
  | .lineTable | .lineInfo _ => true
  | _ => false

section Run

variable {Question Result : Type}

/-- The replies to questions asked one after the other. -/
def replies (reply : Question → LineCache → Reply Result) (cache : LineCache) :
    List Question → List (Reply Result)
  | [] => []
  | question :: questions =>
    let first := reply question cache
    first :: replies reply first.cache questions

/-- What is known of questions before they are asked: the line table and what decoding it reports,
which questions need it, and what each of them reports of its own. -/
structure Service (Question : Type) where
  table? : Option LineTable
  decoding : List Event
  needs : Question → Bool
  own : Question → List Event

namespace Service

variable (service : Service Question)

/-- The line table where a question has needed it. -/
def cache (needed : Bool) : LineCache := if needed then service.table? else none

/-- The reply that a question should get, given whether an earlier one has needed the line table:
the answer does not depend on it, and decoding is reported where it is done. -/
def expected (reply : Question → LineCache → Reply Result) (needed : Bool) (question : Question) :
    Reply Result where
  answer := (reply question none).answer
  events := service.own question ++
    if service.needs question && !needed then service.decoding else []
  cache := service.cache (needed || service.needs question)

/-- Whether each question gets the reply that it should get. -/
def Serves (reply : Question → LineCache → Reply Result) : Prop :=
  ∀ needed question, reply question (service.cache needed) = service.expected reply needed question

variable {service} {reply : Question → LineCache → Reply Result}

/-- A question that does not need the line table hands on what is known of it. -/
theorem expected_plain {needed : Bool} {question : Question}
    (plain : service.needs question = false) :
    service.expected reply needed question =
      ⟨(reply question none).answer, service.own question, service.cache needed⟩ := by
  simp [expected, plain]

/-- A question that needs the line table reports its decoding if it is the first one. -/
theorem expected_needing {needed : Bool} {question : Question}
    (needs : service.needs question = true) (quiet : service.own question = []) :
    service.expected reply needed question =
      ⟨(reply question none).answer, if needed then [] else service.decoding,
        service.table?⟩ := by
  cases needed <;> simp [expected, cache, needs, quiet]

/-- Questions asked one after the other get the replies that they should get, each of them as the
ones before it have needed the line table. -/
theorem Serves.getElem?_replies (serves : service.Serves reply) (needed : Bool)
    (questions : List Question) (index : Nat) :
    (replies reply (service.cache needed) questions)[index]? =
      questions[index]?.map
        (service.expected reply (needed || (questions.take index).any service.needs)) := by
  -- What the first question needs is what the others find.
  induction questions generalizing needed index with
  | nil => rfl
  | cons question questions ih =>
    have first := serves needed question
    cases index with
    | zero => simp [replies, first]
    | succ index =>
      have others := ih (needed || service.needs question) index
      rw [replies, first]
      simp only [List.getElem?_cons_succ, List.take_succ_cons, List.any_cons, ← Bool.or_assoc]
      exact others

end Service

end Run

namespace Image

variable (image : Image)

/-- What is known of the questions to an image. -/
def service : Service Query where
  table? := some image.lineTable
  decoding := image.lineEvents
  needs := Query.needsLines
  own := image.ownEvents

/-- An answer made from the line table is the same whether the table was known or not, and decoding
is reported where it was not. -/
theorem lines_map {Result : Type} (use : LineTable → Result) (needed : Bool) :
    (image.lines (image.service.cache needed)).map use =
      ⟨((image.lines none).map use).answer, if needed then [] else image.lineEvents,
        some image.lineTable⟩ := by
  have decoded : image.lines none = ⟨image.lineTable, image.lineEvents, some image.lineTable⟩ := by
    rw [lines, decodedLines_eq]
  -- A table that is known is the one that decoding would give.
  cases needed with
  | true =>
    rw [decoded]
    rfl
  | false =>
    change (image.lines none).map use = _
    rw [decoded]
    rfl

/-- An image serves its questions. -/
theorem serves_reply : image.service.Serves image.reply := by
  intro needed query
  cases query with
  | lineTable =>
    rw [Service.expected_needing rfl rfl]
    exact image.lines_map Answer.lines needed
  | lineInfo address =>
    rw [Service.expected_needing rfl rfl]
    exact image.lines_map (fun table => Answer.row (table.lookup? address)) needed
  | sectionData name =>
    rw [Service.expected_plain rfl]
    rfl
  -- All other questions are answered from the tables of the image.
  | header | is64Bit | sectionHeaders | sections | symbols | symbolsInSection _ =>
    rw [Service.expected_plain rfl]
    rfl

end Image

end Footprint.Elf
