import Handheld.Files.Route

namespace Handheld

/-!
# The host's files

The file tree of the host as a value: what lies at each place. Operations take a
route, follow the links along it, at most forty of them, and fail for the reasons
a host gives.
-/

/-- What lies at a place. -/
inductive Entry where
  | file (content : List UInt8)
  | directory
  | link (target : LinkTarget)
  deriving DecidableEq, Repr

/-- Why the host did not do what it was asked. -/
inductive HostError where
  | notFound
  | alreadyExists
  | notADirectory
  | isADirectory
  | notEmpty
  | tooManyLinks
  | nameTooLong
  | nulByte
  deriving DecidableEq, Repr

/-- The host's text for an error, with its number. -/
def HostError.message : HostError → String
  | .notFound => "No such file or directory (os error 2)"
  | .alreadyExists => "File exists (os error 17)"
  | .notADirectory => "Not a directory (os error 20)"
  | .isADirectory => "Is a directory (os error 21)"
  | .notEmpty => "Directory not empty (os error 39)"
  | .tooManyLinks => "Too many levels of symbolic links (os error 40)"
  | .nameTooLong => "File name too long (os error 36)"
  | .nulByte => "file name contained an unexpected NUL byte"

/-- A file tree. The top is a directory that is not listed. -/
structure Host where
  entries : List (Place × Entry) := []
  deriving DecidableEq, Repr

namespace Host

/-- What lies at a place, without following links. -/
def entry?
    (host : Host)
    (place : Place) :
    Option Entry :=
  if place = [] then some .directory else host.entries.lookup place

/-- Take a place out of the tree. -/
def erase
    (host : Host)
    (place : Place) :
    Host :=
  { entries := host.entries.filter fun item => item.1 ≠ place }

/-- Put something at a place. -/
def insert
    (host : Host)
    (place : Place)
    (entry : Entry) :
    Host :=
  { entries := (place, entry) :: (host.erase place).entries }

/-- The names in a directory. -/
def children
    (host : Host)
    (place : Place) :
    List String :=
  host.entries.filterMap fun item =>
    if item.1.dropLast = place ∧ item.1 ≠ [] then item.1.getLast? else none

/-- The most links that are followed on the way to a place. -/
def linkLimit : Nat := 40

/-- The longest name that the host takes, in bytes. -/
def nameLimit : Nat := 255

/--
Walk along names from a directory and give the place they lead to, at which
there may be nothing as long as its directory is there. The last name is
followed if it is a link only where `followLast` says so.
-/
def walk
    (host : Host)
    (followLast : Bool)
    (links : Nat)
    (place : Place) :
    List String → Except HostError Place
  | [] => .ok place
  | name :: rest =>
      if name = "." then
        host.walk followLast links place rest
      else if name = ".." then
        host.walk followLast links place.dropLast rest
      else if nameLimit < name.utf8ByteSize then
        .error .nameTooLong
      else
        match host.entry? (place ++ [name]) with
        | none =>
            if rest = [] then .ok (place ++ [name]) else .error .notFound
        | some .directory =>
            host.walk followLast links (place ++ [name]) rest
        | some (.file _) =>
            if rest = [] then .ok (place ++ [name]) else .error .notADirectory
        | some (.link target) =>
            if rest = [] ∧ !followLast then
              .ok (place ++ [name])
            else
              match links with
              | 0 => .error .tooManyLinks
              | fewer + 1 =>
                  host.walk followLast fewer (if target.fromTop then [] else place)
                    (target.names ++ rest)
termination_by names => (links, names.length)

/-- Accept a route, unless its text is refused before any name is looked at. -/
def accept (route : Route) : Except HostError Unit :=
  if !route.isPlain then
    .error .nulByte
  else if !route.fits then
    .error .nameTooLong
  else
    .ok ()

/-- The place that a route leads to when all links are followed. -/
def follow
    (host : Host)
    (route : Route) :
    Except HostError Place := do
  accept route
  host.walk true linkLimit [] route.steps

/-- The place of something that exists. -/
def locate
    (host : Host)
    (route : Route) :
    Except HostError Place := do
  let place ← host.follow route
  if (host.entry? place).isSome then .ok place else .error .notFound

/--
The place of something that exists, to be spelled out anew. A route is walked name
by name for this, so it is the length of the place that counts, not its own.
-/
def canonical
    (host : Host)
    (route : Route) :
    Except HostError Place :=
  if !route.isPlain then
    .error .nulByte
  else do
    let place ← host.walk true linkLimit [] route.steps
    if (host.entry? place).isNone then
      .error .notFound
    else if !(Route.ofPlace place).fits then
      .error .nameTooLong
    else
      .ok place

/-- Whether there is something at the end of a route. -/
def pathExists
    (host : Host)
    (route : Route) :
    Bool :=
  (host.locate route).isOk

/-- Whether a route leads to a directory. -/
def isDirectory
    (host : Host)
    (route : Route) :
    Bool :=
  match host.locate route with
  | .ok place => host.entry? place = some .directory
  | .error _ => false

/-- The content of a file. -/
def readFile
    (host : Host)
    (route : Route) :
    Except HostError (List UInt8) := do
  let place ← host.follow route
  match host.entry? place with
  | some (.file content) => .ok content
  | some .directory => .error .isADirectory
  | some (.link _) => .error .tooManyLinks
  | none => .error .notFound

/-- Write a file, which need not exist, in a directory that does. -/
def writeFile
    (host : Host)
    (route : Route)
    (content : List UInt8) :
    Except HostError Host := do
  let place ← host.follow route
  match host.entry? place with
  | some .directory => .error .isADirectory
  | _ => .ok (host.insert place (.file content))

/-- Make a directory where there is nothing, in a directory that exists. -/
def makeDirectoryAt
    (host : Host)
    (names : List String) :
    Except HostError Host := do
  let place ← host.walk false linkLimit [] names
  match host.entry? place with
  | some _ => .error .alreadyExists
  | none => .ok (host.insert place .directory)

/-- Make the directory at the end of a route. -/
def makeDirectory
    (host : Host)
    (route : Route) :
    Except HostError Host := do
  accept route
  host.makeDirectoryAt route.names

/-- Whether names lead to a directory. -/
def isDirectoryAt
    (host : Host)
    (names : List String) :
    Bool :=
  match host.walk true linkLimit [] names with
  | .ok place => host.entry? place = some .directory
  | .error _ => false

/-- Make a directory unless it is there. -/
def ensureDirectoryAt
    (host : Host)
    (names : List String) :
    Except HostError Host :=
  match host.makeDirectoryAt names with
  | .ok made => .ok made
  | .error error => if host.isDirectoryAt names then .ok host else .error error

/--
Make a directory unless it is there, after the one above it if the way is missing.
What was made before a failure stays.
-/
def makeDirectoriesAt
    (host : Host)
    (names : List String) :
    Except HostError Unit × Host :=
  match host.ensureDirectoryAt names with
  | .ok made => (.ok (), made)
  | .error error =>
      if error ≠ .notFound ∨ names = [] then
        (.error error, host)
      else
        match host.makeDirectoriesAt (Route.above names) with
        | (.error reason, left) => (.error reason, left)
        | (.ok (), ready) =>
            match ready.ensureDirectoryAt names with
            | .ok made => (.ok (), made)
            | .error reason => (.error reason, ready)
termination_by names.length
decreasing_by exact Route.length_above_lt fun empty => by simp_all

/-- Make a directory and those on the way to it, as far as they are missing. -/
def makeDirectories
    (host : Host)
    (route : Route) :
    Except HostError Unit × Host :=
  match accept route with
  | .ok () => host.makeDirectoriesAt route.names
  | .error error => (.error error, host)

/-- Remove a file or a link. -/
def removeFile
    (host : Host)
    (route : Route) :
    Except HostError Host := do
  accept route
  let place ← host.walk false linkLimit [] route.steps
  match host.entry? place with
  | none => .error .notFound
  | some .directory => .error .isADirectory
  | some _ => .ok (host.erase place)

/-- Remove a directory that holds nothing. -/
def removeDirectory
    (host : Host)
    (route : Route) :
    Except HostError Host := do
  accept route
  let place ← host.walk false linkLimit [] route.names
  match host.entry? place with
  | some .directory =>
      if host.children place = [] then .ok (host.erase place) else .error .notEmpty
  | some _ => .error .notADirectory
  | none => .error .notFound

/-- Remove whatever lies at the end of a route, a directory with all it holds. -/
def removeAll
    (host : Host)
    (route : Route) :
    Except HostError Host := do
  if route.slash ∧ !host.isDirectory route then
    .error .notADirectory
  else
    accept route
    let place ← host.walk false linkLimit [] route.names
    match host.entry? place with
    | none => .error .notFound
    | some _ => .ok { entries := host.entries.filter fun item => !place.isPrefixOf item.1 }

/-- Everything below a place, with the names that lead to it from there. -/
def below
    (host : Host)
    (place : Place) :
    List (Place × Entry) :=
  host.entries.filterMap fun item =>
    if place.isPrefixOf item.1 ∧ item.1 ≠ place then
      some (item.1.drop place.length, item.2)
    else
      none

end Host

end Handheld
