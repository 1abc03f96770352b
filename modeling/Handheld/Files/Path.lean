namespace Handheld

/-!
# Paths

A path in the file store is text with names between slashes. Empty names and
`.` mean nothing, and `..` takes back the name before it. Collapsing a path
ignores a `..` that has nothing to take back; descending along one refuses it.
-/

namespace Path

/-- Put a character in front of the first segment, or open a new one at a slash. -/
def prepend
    (character : Char)
    (segments : List (List Char)) :
    List (List Char) :=
  if character = '/' then
    [] :: segments
  else
    match segments with
    | [] => [[character]]
    | first :: others => (character :: first) :: others

/-- The segments between slashes, empty ones included. -/
def segments (path : String) : List String :=
  (path.toList.foldr prepend [[]]).map String.ofList

/-- Whether a path starts at the root of the store. -/
def isAbsolute (path : String) : Bool :=
  path.toList.head? = some '/'

/-- Whether a path ends in a slash. -/
def endsInSlash (path : String) : Bool :=
  path.toList.getLast? = some '/'

/-- The names of a path as they stand, `.` and `..` among them. -/
def names (path : String) : List String :=
  (segments path).filter (· ≠ "")

/-- Take one segment into the names walked so far, the last one first. -/
def collapseStep
    (names : List String)
    (segment : String) :
    List String :=
  if segment = "" ∨ segment = "." then
    names
  else if segment = ".." then
    names.tail
  else
    segment :: names

/-- The names that a path leads to; a `..` at the root stays there. -/
def collapse (path : String) : List String :=
  ((segments path).foldl collapseStep []).reverse

/-- The text of names, with a slash at both ends. -/
def ofNames (names : List String) : String :=
  "/" ++ String.join (names.map (· ++ "/"))

/-- A path without empty names, `.` and `..`, with a slash at both ends. -/
def normalize (path : String) : String :=
  ofNames (collapse path)

/-- Take one segment into the names walked so far, unless it leaves the root. -/
def descendStep?
    (names : List String)
    (segment : String) :
    Option (List String) :=
  if segment = "" ∨ segment = "." then
    some names
  else if segment = ".." then
    match names with
    | [] => none
    | _ :: above => some above
  else
    some (segment :: names)

/-- The names that a path leads to, unless it leaves the root on the way. -/
def descend? (path : String) : Option (List String) :=
  ((segments path).foldlM descendStep? []).map List.reverse

end Path

end Handheld
