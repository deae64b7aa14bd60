import Footprint.Elf.Load
import Footprint.LinkMap.Basic

/-! Link maps loaded from a text or a file. -/

namespace Footprint.LinkMap

/-- The link map of a source, and what is reported of it; only a file that cannot be read fails. -/
def load (files : Files) : Source String → Except Error (LinkMap × List Event)
  | .file path => do
    let data ← (files path).mapError Error.file
    let (map, events) := parse (Text.Utf8.decode data)
    return (map, .loadingMap path :: events)
  | .memory text => .ok (parse text)

end Footprint.LinkMap
