/-! Texts filled up with spaces to the width of a column, in which each character takes one
place. -/

namespace Footprint.Text

/-- Spaces that fill a text up to a width. -/
def filling (width : Nat) (text : String) : String :=
  String.ofList (List.replicate (width - text.length) ' ')

/-- A text at the left of its column. -/
def padRight (width : Nat) (text : String) : String := text ++ filling width text

/-- A text at the right of its column. -/
def padLeft (width : Nat) (text : String) : String := filling width text ++ text

end Footprint.Text
