import Handheld.Files.Path

namespace Handheld

/-!
# Routes

A place says where something lies on the host: the names that lead to it from
the top of the tree. A route is a path as it is handed to the host, which sees
more of it: `.` and `..` are walked like other names, the length of the whole
text is limited, and a slash at the end asks for a directory.
-/

/-- The names that lead from the top of the tree to a place in it. -/
abbrev Place := List String

/-- The text of a symbolic link, taken apart. -/
structure LinkTarget where
  /-- Whether the link starts at the top of the tree, not at its own directory. -/
  fromTop : Bool
  names : List String
  deriving DecidableEq, Repr

/-- Take the text of a symbolic link apart; a slash at its end asks for a directory. -/
def LinkTarget.ofText (text : String) : LinkTarget where
  fromTop := Path.isAbsolute text
  names := if Path.endsInSlash text then Path.names text ++ ["."] else Path.names text

/-- A path as it is handed to the host. -/
structure Route where
  text : String
  /-- The names to follow from the top of the tree. -/
  names : List String
  /-- Whether a slash stands at the end. -/
  slash : Bool := false
  deriving DecidableEq, Repr

namespace Route

/-- The route straight to a place. -/
def ofPlace (place : Place) : Route where
  text := "/" ++ "/".intercalate place
  names := place

/-- The route of a text, seen from a directory. -/
def ofText
    (directory : Place)
    (text : String) :
    Route where
  text := text
  names := if Path.isAbsolute text then Path.names text else directory ++ Path.names text
  slash := Path.endsInSlash text

/-- The route to a name in the directory at the end of a route. -/
def child
    (route : Route)
    (name : String) :
    Route where
  text := (if route.slash then route.text else route.text ++ "/") ++ name
  names := route.names ++ [name]

/-- The names to walk to what lies at the end; a slash there walks one step into it. -/
def steps (route : Route) : List String :=
  if route.slash then route.names ++ ["."] else route.names

/-- The longest text of a route, in bytes. -/
def sizeLimit : Nat := 4095

/-- Whether a text is no longer than a host takes. -/
def fits (route : Route) : Bool :=
  route.text.utf8ByteSize ≤ sizeLimit

/-- Whether a text can be handed to a host at all, where NUL ends a text. -/
def isPlain (route : Route) : Bool :=
  !route.text.toList.contains (Char.ofNat 0)

/-- Drop each `.` at the end, which leads nowhere. -/
def dropDots (names : List String) : List String :=
  (names.reverse.dropWhile (· = ".")).reverse

/-- The names of the directory that is made first when the way to a directory is missing. -/
def above (names : List String) : List String :=
  dropDots (dropDots names).dropLast

/-- Leaving out single dots makes names no longer. -/
theorem length_dropDots_le
    (names : List String) :
    (dropDots names).length ≤ names.length := by
  have shorter := (List.dropWhile_sublist (· = ".") (l := names.reverse)).length_le
  simpa [dropDots] using shorter

/-- The names above the last are fewer, so going up comes to an end. -/
theorem length_above_lt
    {names : List String}
    (nonempty : names ≠ []) :
    (above names).length < names.length := by
  have outer := length_dropDots_le (dropDots names).dropLast
  have inner := length_dropDots_le names
  have positive := List.length_pos_iff.mpr nonempty
  simp only [List.length_dropLast] at outer
  simp only [above]
  omega

end Route

end Handheld
