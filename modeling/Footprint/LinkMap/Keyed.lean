import Footprint.Symbol

/-! Lists of symbols of which no two share a name and an address. -/

namespace Footprint

namespace Symbol

/-- Two symbols are the same piece of memory if they share name and address. -/
def sameKey (first second : Symbol) : Bool :=
  first.address = second.address && first.name = second.name

/-- The name and the address of a symbol. -/
def key (symbol : Symbol) : String × UInt64 := (symbol.name, symbol.address)

/-- Puts a symbol at the end of a list, or combines it with the one of its key where that stands. -/
def place (combine : Symbol → Symbol → Symbol) (symbol : Symbol) : List Symbol → List Symbol
  | [] => [symbol]
  | slot :: slots =>
    -- The slot keeps its place.
    if slot.sameKey symbol then combine slot symbol :: slots
    else slot :: place combine symbol slots

/-- Puts symbols into a list one after the other. -/
def placeAll (combine : Symbol → Symbol → Symbol) (slots symbols : List Symbol) : List Symbol :=
  symbols.foldl (fun slots symbol => place combine symbol slots) slots

/-- The larger of two symbols, and of two with one size the earlier. -/
def larger (earlier later : Symbol) : Symbol :=
  if earlier.size < later.size then later else earlier

/-- The later of two symbols. -/
def latest (_ later : Symbol) : Symbol := later

/-- A symbol with its own object file, or else with that of another. -/
def fillObject (symbol other : Symbol) : Symbol :=
  match symbol.object?, other.object? with
  -- An object file that is known is never replaced.
  | none, some object => symbol.withObject object
  | _, _ => symbol

end Symbol

end Footprint
