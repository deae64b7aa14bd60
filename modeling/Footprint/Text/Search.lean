/-! Finding marks in texts, and parting texts into lines. -/

namespace Footprint.Text

/-- The characters before the first place where a mark stands, and those after the mark. -/
def splitAt? (mark : List Char) : List Char → Option (List Char × List Char)
  | [] => if mark.isEmpty then some ([], []) else none
  | char :: rest =>
    if mark.isPrefixOf (char :: rest) then some ([], (char :: rest).drop mark.length)
    else (splitAt? mark rest).map fun (before, after) => (char :: before, after)

/-- Whether a mark stands anywhere in a text. -/
def occurs (mark text : List Char) : Bool := (splitAt? mark text).isSome

/-- A line without the carriage return before its end, given from its end on. -/
def withoutReturn : List Char → List Char
  | '\r' :: line => line
  | line => line

/-- The lines read so far, with the open one given from its end on. -/
def linesOnto (lines : Array (List Char)) (line : List Char) : List Char → Array (List Char)
  | [] => if line.isEmpty then lines else lines.push line.reverse
  | char :: rest =>
    if char = '\n' then linesOnto (lines.push (withoutReturn line).reverse) [] rest
    else linesOnto lines (char :: line) rest

/-- The lines of a text; only a line that has an end loses a carriage return before it. -/
def lines (text : List Char) : List (List Char) := (linesOnto #[] [] text).toList

end Footprint.Text
