import Relay.Text.Pieces

/-!
# Paths

A path is a text that names a file or directory, part by part, with slashes
between the parts. A part is empty where two slashes meet, `.` stays where it
is, `..` goes up, and any other part is a name.

All paths are taken to be relative: each is followed from the working directory.
There is no root to start from, so a slash in front makes an empty first part and
nothing else, and `/out` names what `out` names.

## Main definitions

* `Path.parts` — the parts of a path.
* `Path.parent` — the path of the directory that holds the last part.
* `Path.join` — a path extended by a file name.
-/

namespace Relay.Path

/-- The parts of a path, with an empty part at each end that has a slash. -/
def parts (path : String) : List String :=
  (Text.piecesAt '/' path.toList).map String.ofList

/-- Parts, the last first, without those at the end of the path that lead
nowhere: empty parts, and dots unless the path starts with them. -/
def dropIdle : List String → List String
  | [] => []
  | part :: earlier =>
    if part = "" || (part = "." && !earlier.isEmpty) then dropIdle earlier else part :: earlier

/-- The path of the directory that holds what the path names; empty if that is
the directory the path starts from. -/
def parent (path : String) : String :=
  match dropIdle (parts path).reverse with
  | [] => ""
  | _ :: earlier => "/".intercalate (dropIdle earlier).reverse

/-- The path of a file in the directory that the path names. -/
def join (directory file : String) : String :=
  if directory = "" || directory.toList.getLast? = some '/' then directory ++ file
  else directory ++ "/" ++ file

end Relay.Path
