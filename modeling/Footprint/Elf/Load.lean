import Footprint.Elf.Image

/-! Inputs that are given at once or kept in a file, and images loaded from them. -/

namespace Footprint

/-- The bytes of the file with a path. -/
abbrev Files := String → Except FileFault Bytes

/-- An input that is given at once or kept in a file. -/
inductive Source (α : Type) where
  | file (path : String)
  | memory (value : α)
deriving DecidableEq, Repr

/-- The image of a source, and what is reported of it. -/
def Elf.Image.load (files : Files) : Source Bytes → Except Error (Image × List Event)
  | .file path => do
    let data ← (files path).mapError Error.file
    let image ← parse data
    return (image, [.loadingImage path, image.parsedEvent])
  | .memory data => do
    let image ← parse data
    return (image, [image.parsedEvent])

end Footprint
