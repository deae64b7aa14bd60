import Footprint.Elf.Image
import Footprint.Proofs.Outcomes
import Footprint.Proofs.Symbol

/-! The symbols of an image that was parsed. -/

namespace Footprint.Elf

open Footprint.Symbol

/-- The symbol of an entry is plain, and comes from no object file. -/
theorem plain_of_symbol? {strings : Bytes} {sectionNames : Array String} {entry : SymbolEntry}
    {symbol : Symbol} (found : entry.symbol? strings sectionNames = some symbol) :
    Plain symbol ∧ symbol.object? = none := by
  -- Entries without a size or a name give no symbol.
  simp only [SymbolEntry.symbol?] at found
  split at found
  · contradiction
  · rename_i kept
    obtain ⟨sized, named⟩ := not_or.mp kept
    obtain rfl := Option.some.inj found
    refine ⟨⟨UInt64.pos_iff_ne_zero.mpr sized, ?_, rfl, rfl⟩, rfl⟩
    intro empty
    exact named (String.isEmpty_iff.mpr empty)

/-- The symbols of an image are those of the entries of its table, larger ones first. -/
theorem symbols?_eq_some {data : Bytes} {file : Header} {headers : Array SectionHeader}
    {sectionNames : Array String} {symbols : List Symbol}
    (found : symbols? data file headers sectionNames = .ok (some symbols)) :
    ∃ (entries : List SymbolEntry) (strings : Bytes),
      symbols = largestFirst (entries.filterMap (SymbolEntry.symbol? strings sectionNames)) := by
  obtain ⟨table?, _, rest⟩ := ok_of_bind found
  cases table? with
  | none => simp [Pure.pure, Except.pure] at rest
  | some tables =>
    obtain ⟨entries, _, listed⟩ := ok_of_map rest
    exact ⟨entries, tables.2, (Option.some.inj listed).symm⟩

/-- An image has the symbols that its tables were decoded to. -/
theorem symbols?_of_parse {data : Bytes} {image : Image} (parsed : Image.parse data = .ok image) :
    symbols? data image.header image.sectionHeaders image.sectionNames = .ok image.symbols? := by
  obtain ⟨header, _, parsed⟩ := ok_of_bind parsed
  obtain ⟨sectionHeaders, _, parsed⟩ := ok_of_bind parsed
  obtain ⟨sectionNames, _, parsed⟩ := ok_of_bind parsed
  obtain ⟨symbols, decoded, rfl⟩ := ok_of_map parsed
  exact decoded

/-- The symbols that a parsed image lists are those of the entries of its table, larger ones first. -/
theorem entries_of_parse {data : Bytes} {image : Image} {symbols : List Symbol}
    (parsed : Image.parse data = .ok image) (listed : image.symbols = .ok symbols) :
    ∃ (entries : List SymbolEntry) (strings : Bytes), symbols =
      largestFirst (entries.filterMap (SymbolEntry.symbol? strings image.sectionNames)) := by
  have decoded := symbols?_of_parse parsed
  rw [Image.symbols] at listed
  cases table : image.symbols? with
  | none => simp [table] at listed
  | some own =>
    simp only [table, Except.ok.injEq] at listed
    subst own
    rw [table] at decoded
    exact symbols?_eq_some decoded

/-- The symbols of a parsed image are tidy, and come from no object file. -/
theorem tidy_of_parse {data : Bytes} {image : Image} {symbols : List Symbol}
    (parsed : Image.parse data = .ok image) (listed : image.symbols = .ok symbols) :
    Tidy symbols ∧ ∀ symbol ∈ symbols, symbol.object? = none := by
  obtain ⟨entries, strings, rfl⟩ := entries_of_parse parsed listed
  -- Each symbol stands for an entry, wherever the sort puts it.
  have each : ∀ symbol ∈ entries.filterMap (SymbolEntry.symbol? strings image.sectionNames),
      Plain symbol ∧ symbol.object? = none := by
    intro symbol member
    obtain ⟨entry, _, found⟩ := List.mem_filterMap.mp member
    exact plain_of_symbol? found
  refine ⟨tidy_largestFirst fun symbol member => (each symbol member).1, ?_⟩
  intro symbol member
  exact (each symbol ((largestFirst_spec _).perm.mem_iff.mp member)).2

end Footprint.Elf
