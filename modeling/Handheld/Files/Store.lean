import Handheld.Files.OpenFile
import Handheld.Files.Path

namespace Handheld

/-!
# The file store

A directory of the host is the root of the store. Paths start at that root and
are refused when they leave it, whether by `..` or by a link that exists. What
is open is remembered by its place on the host.
-/

/-- A store, the host it lives on, and the places of its open files. -/
structure Store where
  host : Host
  root : Place
  opened : List Place := []
  deriving DecidableEq, Repr

namespace Store

/-- The store whose root is a directory of the host. -/
def ofDirectory
    (host : Host)
    (route : Route) :
    Except FileError Store :=
  if host.isDirectory route then
    match host.canonical route with
    | .ok root => .ok { host := host, root := root }
    | .error error => .error (.host error)
  else
    .error (.notADirectory route.text)

/--
The store at the end of a route, whose directories are made if they are missing.
Those that were made before a failure stay on the host.
-/
def create
    (host : Host)
    (route : Route) :
    Except FileError Store × Host :=
  match host.makeDirectories route with
  | (.ok (), made) => (ofDirectory made route, made)
  | (.error error, left) => (.error (.host error), left)

/-- The place on the host of a path in the store. -/
def place
    (store : Store)
    (path : String) :
    Except FileError Place :=
  if Path.isAbsolute path then
    match Path.descend? path with
    | none =>
        .error (.outsideRoot (store.root ++ Path.segments path))
    | some names =>
        match store.host.canonical (.ofPlace (store.root ++ names)) with
        | .ok place =>
            if store.root.isPrefixOf place then .ok place else .error (.outsideRoot place)
        | .error _ =>
            .ok (store.root ++ names)
  else
    .error (.relativePath path)

/-- Make the file of a path if it is to be created and does not exist. -/
def prepare
    (store : Store)
    (path : String)
    (access : Access) :
    Except FileError Place × Store :=
  match store.place path with
  | .error error => (.error error, store)
  | .ok place =>
      if access.creates && !store.host.pathExists (.ofPlace place) then
        match store.host.writeFile (.ofPlace place) [] with
        | .error error => (.error (.host error), store)
        | .ok host =>
            let made := { store with host := host }
            (made.place path, made)
      else
        (.ok place, store)

/-- Open a file. -/
def openFile
    (store : Store)
    (path : String)
    (access : Access) :
    Except FileError OpenFile × Store :=
  if !access.reads && !access.writes then
    (.error (.invalidMode ("access " ++ toString access.bits)), store)
  else
    match store.prepare path access with
    | (.error error, prepared) => (.error error, prepared)
    | (.ok place, prepared) =>
        if place ∈ prepared.opened then
          (.error (.alreadyOpen path), prepared)
        else
          match prepared.host.readFile (.ofPlace place) with
          | .error error => (.error (.host error), prepared)
          | .ok content =>
              (.ok {
                place := place
                content := content
                canRead := access.reads
                canWrite := access.writes
              }, { prepared with opened := place :: prepared.opened })

/-- Close a file and write back what was changed. -/
def closeFile
    (store : Store)
    (file : OpenFile) :
    Except FileError Unit × Store :=
  let released := { store with opened := store.opened.filter (· ≠ file.place) }
  if file.dirty then
    match released.host.writeFile (.ofPlace file.place) file.content with
    | .ok host => (.ok (), { released with host := host })
    | .error error => (.error (.host error), released)
  else
    (.ok (), released)

/-- Whether a path leads to a directory of the store. -/
def isDirectory
    (store : Store)
    (path : String) :
    Bool :=
  match store.place path with
  | .ok place => store.host.isDirectory (.ofPlace place)
  | .error _ => false

/-- Make a directory, and tell whether that worked. -/
def makeDirectory
    (store : Store)
    (path : String) :
    Except FileError Bool × Store :=
  match store.place path with
  | .error error => (.error error, store)
  | .ok place =>
      match store.host.makeDirectory (.ofPlace place) with
      | .ok host => (.ok true, { store with host := host })
      | .error _ => (.ok false, store)

/-- Delete a file that is not open or an empty directory, and tell whether that worked. -/
def delete
    (store : Store)
    (path : String) :
    Except FileError Bool × Store :=
  match store.place path with
  | .error error => (.error error, store)
  | .ok place =>
      if place ∈ store.opened then
        (.ok false, store)
      else
        let removed :=
          if store.host.isDirectory (.ofPlace place) then
            store.host.removeDirectory (.ofPlace place)
          else
            store.host.removeFile (.ofPlace place)
        match removed with
        | .ok host => (.ok true, { store with host := host })
        | .error _ => (.ok false, store)

/-- The names in a directory, in no particular order. -/
def list
    (store : Store)
    (path : String) :
    Except FileError (List String) :=
  match store.place path with
  | .error error => .error error
  | .ok place =>
      if store.host.isDirectory (.ofPlace place) then
        match store.host.locate (.ofPlace place) with
        | .ok found => .ok (store.host.children found)
        | .error error => .error (.host error)
      else
        .error (.notADirectory path)

end Store

end Handheld
