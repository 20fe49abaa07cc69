import Relay.Files.Tree
import Relay.Json.Datum

/-!
# Saving and loading

A file is saved together with the directories that its path needs. The
directories are made before the file is written, so a save that fails may leave
new directories behind, but it never touches a file.

## Main definitions

* `StoreError` — why saving or loading can fail.
* `Tree.makeDirectories` — makes a directory and those above it.
* `Tree.save`, `Tree.load`, `Tree.saveJson`.
-/

namespace Relay

/-- Why saving or loading can fail. -/
inductive StoreError where
  | io (e : IoError)
  /-- The data have no JSON form. -/
  | keyNotString
  deriving DecidableEq

/-- The error as it is reported. -/
def StoreError.message : StoreError → String
  | .io e => "IO error: " ++ e.message
  | .keyNotString => "JSON error: key must be a string"

namespace Tree

/-- A directory that could not be made is as good as made if it is there. -/
def acceptDirectory (t : Tree) (path : String) : Except IoError Tree → Except IoError Unit × Tree
  | .ok made => (.ok (), made)
  | .error e => (if t.isDirectory path then .ok () else .error e, t)

/-- Makes the directory that the path names. If the one above it is missing,
that one is made first; `levels` bounds how far up this goes. -/
def makeDirectoriesUp (t : Tree) (path : String) : Nat → Except IoError Unit × Tree
  | 0 => (.ok (), t)
  | levels + 1 =>
    if path = "" then (.ok (), t)
    else
      match t.makeDirectory path with
      | .error .notFound =>
        match makeDirectoriesUp t (Path.parent path) levels with
        | (.error e, above) => (.error e, above)
        | (.ok (), above) => above.acceptDirectory path (above.makeDirectory path)
      | made => t.acceptDirectory path made

/-- Makes the directory that the path names and those above it, as far as they
are missing. A path has no more levels than parts. -/
def makeDirectories (t : Tree) (path : String) : Except IoError Unit × Tree :=
  t.makeDirectoriesUp path ((Path.parts path).length + 1)

/-- Saves the bytes under the path. -/
def save (t : Tree) (path : String) (bytes : ByteArray) : Except StoreError Unit × Tree :=
  match t.makeDirectories (Path.parent path) with
  | (.error e, t) => (.error (.io e), t)
  | (.ok (), t) =>
    match t.write path bytes with
    | .error e => (.error (.io e), t)
    | .ok written => (.ok (), written)

/-- The bytes saved under the path. -/
def load (t : Tree) (path : String) : Except StoreError ByteArray :=
  match t.read path with
  | .error e => .error (.io e)
  | .ok bytes => .ok bytes

/-- Saves the written form of the data, over several lines, under the path. -/
def saveJson (t : Tree) (path : String) (data : Json.Datum) : Except StoreError Unit × Tree :=
  match data.encode? with
  | none => (.error .keyNotString, t)
  | some v => t.save path v.prettyText.toUTF8

end Tree

end Relay
