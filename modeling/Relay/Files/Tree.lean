import Relay.Files.Path
import Relay.Files.Place

/-!
# The file tree

The files and directories in and around the working directory, each under its
place. Four operations touch the tree: a directory is made, a file is written, a
file is read, and a path is asked whether it names a directory. Each follows its
path part by part, from the working directory, and fails at the first part that
cannot be followed. That holds of a path with a slash in front as well, since all
paths are taken to be relative. A path may climb out of the working directory; what
it leads to there does not show among the paths of the tree.

## Main definitions

* `Tree`, `Tree.find?` — the tree and what stands at a place.
* `Tree.inside` — what stands in the working directory or below it.
* `IoError` — why an operation can fail.
* `Tree.makeDirectory`, `Tree.write`, `Tree.read`, `Tree.isDirectory`.
-/

namespace Relay

/-- Why a file operation, or the reading of a line, can fail. -/
inductive IoError where
  | notFound
  | alreadyExists
  | notDirectory
  | isDirectory
  | nameTooLong
  /-- A path holds a NUL character. -/
  | nulInName
  /-- A line is not UTF-8. -/
  | notUtf8
  deriving DecidableEq

/-- The error as it is reported. -/
def IoError.message : IoError → String
  | .notFound => "No such file or directory (os error 2)"
  | .alreadyExists => "File exists (os error 17)"
  | .notDirectory => "Not a directory (os error 20)"
  | .isDirectory => "Is a directory (os error 21)"
  | .nameTooLong => "File name too long (os error 36)"
  | .nulInName => "file name contained an unexpected NUL byte"
  | .notUtf8 => "stream did not contain valid UTF-8"

/-- What stands at a place. -/
inductive Entry where
  | directory
  | file (bytes : ByteArray)

/-- The files and directories that were made, in and around the working directory. -/
structure Tree where
  /-- The places with what stands there. -/
  entries : List (Place × Entry)

namespace Tree

/-- The tree of an empty working directory, with nothing around it. -/
def empty : Tree := ⟨[]⟩

instance : Inhabited Tree := ⟨empty⟩

/-- What stands at a place; the working directory and those above it are always there. -/
def find? (t : Tree) (place : Place) : Option Entry :=
  if place.names = [] then some .directory
  else (t.entries.find? (·.1 == place)).map Prod.snd

/-- The tree with an entry put at a place, instead of any that was there. -/
def put (t : Tree) (place : Place) (entry : Entry) : Tree :=
  ⟨(place, entry) :: t.entries.filter (·.1 != place)⟩

/-- A put entry is found at its place, and no other place changes. -/
theorem find?_put (t : Tree) {place : Place} (hplace : place.names ≠ []) (entry : Entry)
    (other : Place) :
    (t.put place entry).find? other = if other = place then some entry else t.find? other := by
  simp only [find?, put]
  by_cases hroot : other.names = []
  · have : other ≠ place := fun h => hplace (h ▸ hroot)
    simp [hroot, this]
  · by_cases heq : other = place
    · simp [heq, hplace]
    · have hne : (place == other) = false := beq_eq_false_iff_ne.2 fun h => heq h.symm
      simp only [hroot, heq, if_false, List.find?_cons, hne, List.find?_filter]
      refine congrArg (Option.map Prod.snd)
        (congrArg (fun p => List.find? p t.entries) (funext fun e => ?_))
      by_cases he : e.1 = other <;> simp [he, heq]

/-! ### Following a path -/

/-- The greatest number of bytes of a name. -/
def nameLimit : Nat := 255

/-- The number of bytes from which on a path is too long. -/
def pathLimit : Nat := 4096

/-- A name is too long for a directory to hold. -/
def isTooLong (name : String) : Bool := nameLimit < name.utf8ByteSize

/-- The place of the directory that the parts lead to, starting from a place. -/
def descend (t : Tree) : Place → List String → Except IoError Place
  | place, [] => .ok place
  | place, part :: rest =>
    if part = "" || part = "." then descend t place rest
    else if part = ".." then descend t place.up rest
    else if isTooLong part then .error .nameTooLong
    else
      match t.find? (place.child part) with
      | none => .error .notFound
      | some (.file _) => .error .notDirectory
      | some .directory => descend t (place.child part) rest

/-- What a path leads to. -/
inductive Target where
  /-- A directory that is there already, since the path does not end in a name. -/
  | here
  /-- A name in the directory at the place; a slash may follow the name. -/
  | named (directory : Place) (name : String) (slash : Bool)

/-- A path can be followed at all: it holds no NUL, is not empty and not too long. -/
def checkPath (path : String) : Except IoError Unit :=
  if '\x00' ∈ path.toList then .error .nulInName
  else if path = "" then .error .notFound
  else if pathLimit ≤ path.utf8ByteSize then .error .nameTooLong
  else .ok ()

/-- Follows a path from the working directory up to its last part. -/
def resolve (t : Tree) (path : String) : Except IoError Target := do
  checkPath path
  let parts := (Path.parts path).filter (· != "")
  match parts.getLast? with
  | none => return .here
  | some last =>
    let directory ← t.descend .working parts.dropLast
    if last = "." || last = ".." then return .here
    else return .named directory last (path.toList.getLast? == some '/')

/-! ### Operations -/

/-- The tree with the directory made that the path names. -/
def makeDirectory (t : Tree) (path : String) : Except IoError Tree := do
  match ← t.resolve path with
  | .here => throw .alreadyExists
  | .named directory name _ =>
    if isTooLong name then throw .nameTooLong
    match t.find? (directory.child name) with
    | some _ => throw .alreadyExists
    | none => return t.put (directory.child name) .directory

/-- The tree with the bytes as the contents of the file that the path names. -/
def write (t : Tree) (path : String) (bytes : ByteArray) : Except IoError Tree := do
  match ← t.resolve path with
  | .here => throw .isDirectory
  | .named directory name slash =>
    if slash then throw .isDirectory
    if isTooLong name then throw .nameTooLong
    match t.find? (directory.child name) with
    | some .directory => throw .isDirectory
    | _ => return t.put (directory.child name) (.file bytes)

/-- The contents of the file that the path names. -/
def read (t : Tree) (path : String) : Except IoError ByteArray := do
  match ← t.resolve path with
  | .here => throw .isDirectory
  | .named directory name slash =>
    if isTooLong name then throw .nameTooLong
    match t.find? (directory.child name) with
    | none => throw .notFound
    | some .directory => throw .isDirectory
    | some (.file bytes) => if slash then throw .notDirectory else return bytes

/-- The path names a directory. -/
def isDirectory (t : Tree) (path : String) : Bool :=
  match checkPath path, t.descend .working (Path.parts path) with
  | .ok (), .ok _ => true
  | _, _ => false

/-- What stands in the working directory or below it. -/
def inside (t : Tree) : List (Place × Entry) := t.entries.filter (·.1.isInside)

/-- The path of a place inside the working directory; that of a directory ends in a slash. -/
def pathOf : Place × Entry → String
  | (place, .directory) => "/".intercalate place.names ++ "/"
  | (place, .file _) => "/".intercalate place.names

/-- The paths of everything inside the working directory, in code point order. -/
def paths (t : Tree) : List String :=
  (t.inside.map pathOf).mergeSort fun a b => decide (a ≤ b)

end Tree

end Relay
