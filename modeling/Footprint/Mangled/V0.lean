import Footprint.Mangled.Path

/-! The second mangling scheme: a path, an optional path of the crate that made it, and a suffix. -/

namespace Footprint.Mangled.V0

/-- What is said instead of the rest of a name that fills the page. -/
def full : String := "\x7bsize limit reached\x7d"

/-- What follows a path that can be read at a place of a name. -/
def afterPath? (inner rest : List Char) : Option (List Char) :=
  match path deepest false ⟨inner, .ok rest, none, 0⟩ with
  | .ok () state => state.rest.toOption
  | .error () _ => none

/-- What follows the paths of a name, of which the second is that of a crate and is not shown. -/
def suffix? (inner : List Char) : Option (List Char) := do
  match ← afterPath? inner inner with
  | [] => return []
  | next :: rest =>
    if 'A' ≤ next ∧ next ≤ 'Z' then afterPath? inner (next :: rest) else return next :: rest

/-- The written form of the path that a name starts with. -/
def pathText (inner : List Char) : String :=
  match path deepest true ⟨inner, .ok inner, some ⟨"", pageSize⟩, 0⟩ with
  | .ok () state => (state.page?.map Page.text).getD ""
  | .error () state => (state.page?.map Page.text).getD "" ++ full

/-- The characters after the mark of the scheme; a mark alone marks nothing. -/
def inner? : List Char → Option (List Char)
  | '_' :: 'R' :: next :: rest => some (next :: rest)
  | 'R' :: next :: rest => some (next :: rest)
  | '_' :: '_' :: 'R' :: next :: rest => some (next :: rest)
  | _ => none

/-- The path in a name of this scheme, and what follows it. -/
def demangle? (name : List Char) : Option (String × List Char) := do
  let inner ← inner? name
  let first ← inner.head?
  if ¬ ('A' ≤ first ∧ first ≤ 'Z') then none
  if inner.any (0x80 ≤ ·.toNat) then none
  let suffix ← suffix? inner
  return (pathText inner, suffix)

end Footprint.Mangled.V0
