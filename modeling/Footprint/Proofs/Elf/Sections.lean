import Footprint.Proofs.Elf.Symbols
import Footprint.Proofs.Elf.Watched

/-! The names of sections, which symbols are told to lie in, and which sections are told by. -/

namespace Footprint.Elf

/-- The sections of an image have the names that are not empty, in the order of their headers. -/
theorem names_sections {image : Image} (named : image.sectionNames.size = image.sectionHeaders.size) :
    image.sections.map (·.name) = image.sectionNames.toList.filter (!·.isEmpty) := by
  -- No name is lost where the headers are paired with them.
  have same : image.namedHeaders.map Prod.snd = image.sectionNames.toList := by
    rw [Image.namedHeaders, Array.toList_zip, List.map_snd_zip]
    exact Nat.le_of_eq named
  rw [← same, List.filter_map, Image.sections, List.map_map]
  rfl

/-- Each header of a parsed image has a name, if only an empty one. -/
theorem size_sectionNames {data : Bytes} {image : Image} (parsed : Image.parse data = .ok image) :
    image.sectionNames.size = image.sectionHeaders.size := by
  obtain ⟨header, _, parsed⟩ := ok_of_bind parsed
  obtain ⟨headers, _, parsed⟩ := ok_of_bind parsed
  obtain ⟨names, named, parsed⟩ := ok_of_bind parsed
  obtain ⟨symbols, _, rfl⟩ := ok_of_map parsed
  exact Watched.size_of_sectionNames named

/-- A symbol that lies in a section has the name of one that is not empty. -/
theorem sectionName_of_symbol? {strings : Bytes} {sectionNames : Array String}
    {entry : SymbolEntry} {symbol : Symbol} {name : String}
    (found : entry.symbol? strings sectionNames = some symbol)
    (inside : symbol.sectionName? = some name) :
    name ∈ sectionNames.toList.filter (!·.isEmpty) := by
  simp only [SymbolEntry.symbol?] at found
  split at found
  · contradiction
  · obtain rfl := Option.some.inj found
    simp only [SymbolEntry.sectionName?] at inside
    -- The index zero names no section, and any other one the section at its place.
    split at inside
    · contradiction
    · obtain ⟨there, filled⟩ := Option.filter_eq_some_iff.mp inside
      exact List.mem_filter.mpr ⟨Array.mem_toList_iff.mpr (Array.mem_of_getElem? there), filled⟩

/-- A symbol of a parsed image that lies in a section lies in one of the sections of the image. -/
theorem sectionName_mem_sections {data : Bytes} {image : Image} {symbols : List Symbol}
    (parsed : Image.parse data = .ok image) (listed : image.symbols = .ok symbols) :
    ∀ symbol ∈ symbols, ∀ name, symbol.sectionName? = some name →
      name ∈ image.sections.map (·.name) := by
  intro symbol member name inside
  obtain ⟨entries, strings, rfl⟩ := entries_of_parse parsed listed
  obtain ⟨entry, _, found⟩ :=
    List.mem_filterMap.mp ((Symbol.largestFirst_spec _).perm.mem_iff.mp member)
  rw [names_sections (size_sectionNames parsed)]
  exact sectionName_of_symbol? found inside

end Footprint.Elf
