import Footprint.Symbol
import Mathlib.Data.List.Infix

/-! The language of a symbol is told by the start of its name. All names that demangle start with one
of six marks, of which the language goes by two, so that the two agree but for certain names. -/

namespace Footprint

namespace Text

/-- What stands before a mark starts the text. -/
theorem prefix_of_splitAt? {mark text before after : List Char}
    (found : splitAt? mark text = some (before, after)) : before <+: text := by
  -- Each character that is passed joins those before the mark.
  induction text generalizing before after with
  | nil =>
    simp only [splitAt?, Option.ite_none_right_eq_some, Option.some.injEq, Prod.mk.injEq] at found
    rw [← found.2.1]
  | cons char rest ih =>
    rw [splitAt?] at found
    split at found
    · simp only [Option.some.injEq, Prod.mk.injEq] at found
      rw [← found.1]
      exact List.nil_prefix
    · obtain ⟨⟨inner, behind⟩, later, same⟩ := Option.map_eq_some_iff.mp found
      simp only [Prod.mk.injEq] at same
      rw [← same.1]
      exact (List.prefix_cons_inj char).mpr (ih later)

end Text

namespace Mangled

/-- The marks that names of the first scheme start with. -/
def Legacy.marks : List (List Char) := [['_', 'Z', 'N'], ['Z', 'N'], ['_', '_', 'Z', 'N']]

/-- The marks that names of the second scheme start with. -/
def V0.marks : List (List Char) := [['_', 'R'], ['R'], ['_', '_', 'R']]

/-- A name without the number of a module is the start of the whole name. -/
theorem withoutModule_prefix (name : List Char) : withoutModule name <+: name := by
  rw [withoutModule]
  split
  · split
    · exact Text.prefix_of_splitAt? (by assumption)
    · exact List.prefix_rfl
  · exact List.prefix_rfl

/-- A name of the first scheme starts with one of its marks. -/
theorem Legacy.marked_of_demangle? {name : List Char} {result : String × List Char}
    (found : Legacy.demangle? name = some result) : ∃ mark ∈ marks, mark <+: name := by
  unfold Legacy.demangle? at found
  dsimp only at found
  split at found
  · exact ⟨['_', 'Z', 'N'], by decide, by simp⟩
  · exact ⟨['Z', 'N'], by decide, by simp⟩
  · exact ⟨['_', '_', 'Z', 'N'], by decide, by simp⟩
  · simp at found

/-- A name of the second scheme starts with one of its marks. -/
theorem V0.marked_of_demangle? {name : List Char} {result : String × List Char}
    (found : V0.demangle? name = some result) : ∃ mark ∈ marks, mark <+: name := by
  unfold V0.demangle? at found
  obtain ⟨inner, marked, -⟩ := Option.bind_eq_some_iff.mp found
  unfold inner? at marked
  split at marked
  · exact ⟨['_', 'R'], by decide, by simp⟩
  · exact ⟨['R'], by decide, by simp⟩
  · exact ⟨['_', '_', 'R'], by decide, by simp⟩
  · contradiction

/-- A name that demangles starts with a mark of one of the schemes. -/
theorem marked_of_demangle? {name : String} (found : (demangle? name).isSome) :
    ∃ mark ∈ Legacy.marks ++ V0.marks, mark <+: name.toList := by
  obtain ⟨text, found⟩ := Option.isSome_iff_exists.mp found
  unfold demangle? at found
  obtain ⟨result, read, -⟩ := Option.bind_eq_some_iff.mp found
  have start := withoutModule_prefix name.toList
  -- The second scheme is tried where the first one fails.
  cases first : Legacy.demangle? (withoutModule name.toList) with
  | some path =>
    obtain ⟨mark, member, marked⟩ := Legacy.marked_of_demangle? first
    exact ⟨mark, List.mem_append_left _ member, marked.trans start⟩
  | none =>
    rw [first] at read
    obtain ⟨mark, member, marked⟩ := V0.marked_of_demangle? read
    exact ⟨mark, List.mem_append_right _ member, marked.trans start⟩

end Mangled

namespace Symbol

open Mangled

/-- Whether the name of a symbol starts with a mark. -/
def Starts (symbol : Symbol) (mark : List Char) : Prop := mark <+: symbol.name.toList

instance (symbol : Symbol) (mark : List Char) : Decidable (symbol.Starts mark) :=
  inferInstanceAs (Decidable (mark <+: symbol.name.toList))

/-- The language of a symbol as its name demangles, or by its start where it does not. -/
def languageOfDemangled (symbol : Symbol) : Language :=
  if symbol.demangled?.isSome then .rust else if symbol.Starts ['_', 'Z'] then .cpp else .c

/-- The marks of the schemes that the language does not go by. -/
def uncommonMarks : List (List Char) :=
  [['Z', 'N'], ['_', '_', 'Z', 'N'], ['R'], ['_', '_', 'R']]

/-- Whether the start of a name misleads: it is the common mark of the second scheme and the name does
not demangle, or the name demangles behind a mark that the language does not go by. -/
def Misleads (symbol : Symbol) : Prop :=
  (symbol.Starts ['_', 'R'] ∧ symbol.demangled? = none) ∨
    (symbol.demangled?.isSome ∧ ∃ mark ∈ uncommonMarks, symbol.Starts mark)

/-- A name does not start with two marks of which neither starts with the other. -/
theorem Starts.not_starts {symbol : Symbol} {mark other : List Char} (starts : symbol.Starts mark)
    (apart : ¬ (mark <+: other ∨ other <+: mark)) : ¬ symbol.Starts other :=
  fun both => apart (List.prefix_or_prefix_of_prefix starts both)

/-- The language is told by four starts, and for one of them by whether the name demangles. -/
theorem language_eq (symbol : Symbol) :
    symbol.language =
      if symbol.Starts ['_', 'R'] then .rust
      else if symbol.Starts ['_', 'Z', 'N'] ∧ symbol.demangled?.isSome then .rust
      else if symbol.Starts ['_', 'Z'] then .cpp else .c := by
  unfold language
  split
  · rename_i tail named
    simp [Starts, named]
  · rename_i tail named
    simp [Starts, named]
  · rename_i tail other named
    have plain : ¬ ['N'] <+: tail := fun ⟨rest, same⟩ => other rest same.symm
    simp [Starts, named, plain]
  · rename_i rust _ cpp
    -- A name that starts with the longest of the marks also starts with a shorter one.
    have second : ¬ symbol.Starts ['_', 'R'] := fun ⟨rest, same⟩ => rust rest same.symm
    have either : ¬ symbol.Starts ['_', 'Z'] := fun ⟨rest, same⟩ => cpp rest same.symm
    have first : ¬ symbol.Starts ['_', 'Z', 'N'] := fun starts =>
      either ((List.prefix_append ['_', 'Z'] ['N']).trans starts)
    rw [if_neg second, if_neg fun both => first both.1, if_neg either]

/-- A mark that shares no start with the marks that the language does not go by starts no name that
one of those starts. -/
theorem Starts.not_uncommon {symbol : Symbol} {mark : List Char} (starts : symbol.Starts mark)
    (apart : ∀ other ∈ uncommonMarks, ¬ (mark <+: other ∨ other <+: mark)) :
    ¬ ∃ other ∈ uncommonMarks, symbol.Starts other :=
  fun ⟨other, member, both⟩ => starts.not_starts (apart other member) both

/-- A name that demangles starts with one of the two marks that the language goes by, or with one that
it does not go by. -/
theorem starts_of_demangled? {symbol : Symbol} (found : symbol.demangled?.isSome) :
    symbol.Starts ['_', 'R'] ∨ symbol.Starts ['_', 'Z', 'N'] ∨
      ∃ mark ∈ uncommonMarks, symbol.Starts mark := by
  have each : ∀ mark ∈ Legacy.marks ++ V0.marks,
      mark = ['_', 'R'] ∨ mark = ['_', 'Z', 'N'] ∨ mark ∈ uncommonMarks := by decide
  obtain ⟨mark, member, marked⟩ := marked_of_demangle? found
  rcases each mark member with rfl | rfl | uncommon
  · exact .inl marked
  · exact .inr (.inl marked)
  · exact .inr (.inr ⟨mark, uncommon, marked⟩)

/-- A symbol is taken for Rust exactly if its name demangles, but for names whose start misleads; all
other names that do not demangle are told apart by whether they start like nested names. A name that
starts with the common mark of the second scheme is taken for Rust though it does not demangle, and one
that demangles behind an uncommon mark is taken for C. -/
theorem language_eq_rust_iff_demangled (symbol : Symbol) :
    ((symbol.language = .rust ↔ symbol.demangled?.isSome) ↔ ¬ symbol.Misleads) ∧
      (¬ symbol.Misleads → symbol.language = symbol.languageOfDemangled) ∧
      (symbol.Misleads → symbol.language = if symbol.Starts ['_', 'R'] then .rust else .c) := by
  rw [language_eq, languageOfDemangled, Misleads]
  by_cases second : symbol.Starts ['_', 'R']
  · have alone := second.not_uncommon (by decide)
    cases demangles : symbol.demangled? with
    | some text => simp [second, alone]
    | none => simp [second]
  · cases demangles : symbol.demangled? with
    | none => by_cases either : symbol.Starts ['_', 'Z'] <;> simp [second, either]
    | some text =>
      have found : symbol.demangled?.isSome := demangles ▸ rfl
      rcases starts_of_demangled? found with common | first | uncommon
      · exact absurd common second
      · have alone := first.not_uncommon (by decide)
        simp [second, first, alone]
      · -- Such a mark leaves nothing that the language goes by.
        have first : ¬ symbol.Starts ['_', 'Z', 'N'] := fun starts =>
          starts.not_uncommon (by decide) uncommon
        have either : ¬ symbol.Starts ['_', 'Z'] := fun starts =>
          starts.not_uncommon (by decide) uncommon
        simp [second, first, either, uncommon]

/-- A function of a name alone. -/
def functionNamed (name : String) : Symbol := ⟨name, .function, 0, 4, none, none, none, none⟩

/-- A name that only starts like one of the second scheme is taken for Rust, and a name that demangles
behind an uncommon mark is taken for C. -/
theorem language_of_misleading_names :
    let handler := functionNamed "_Reset_Handler"
    let start := functionNamed "ZN4mainE"
    handler.demangled? = none ∧ handler.language = .rust ∧
      ¬ (handler.language = .rust ↔ handler.demangled?.isSome) ∧
      start.demangled? = some "main" ∧ start.language = .c ∧
      ¬ (start.language = .rust ↔ start.demangled?.isSome) := by
  intro handler start
  have unmangled : handler.demangled? = none := by decide +kernel
  have mangled : start.demangled? = some "main" := by decide +kernel
  have rust : handler.language = .rust := by decide +kernel
  have c : start.language = .c := by decide +kernel
  refine ⟨unmangled, rust, ?_, mangled, c, ?_⟩
  · simp [unmangled, rust]
  · simp [mangled, c]

end Symbol

end Footprint
