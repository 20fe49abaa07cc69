/-!
# Places

A place is where a file or directory stands: the names that lead to it from the
working directory or, outside of that, from a directory above it. The directories
above are always there. They have no names here: a path can climb to them, but
cannot come back down into the working directory. So every place is written in
one way, and the working directory and those above it are the places without
names.

## Main definitions

* `Place` — the names and where they start.
* `Place.child`, `Place.up` — one step down, one step up.
-/

namespace Relay

/-- The names that lead to a file or directory, and where they start. -/
structure Place where
  /-- How far above the working directory the names start. -/
  above : Nat
  /-- The names, the outermost directory first. -/
  names : List String
  deriving DecidableEq

namespace Place

/-- The working directory. -/
def working : Place := ⟨0, []⟩

/-- The place of a name in the directory at a place. -/
def child (place : Place) (name : String) : Place := { place with names := place.names ++ [name] }

/-- The directory that holds a place. -/
def up (place : Place) : Place :=
  if place.names = [] then ⟨place.above + 1, []⟩ else { place with names := place.names.dropLast }

@[simp] theorem names_child (place : Place) (name : String) :
    (place.child name).names = place.names ++ [name] := rfl

/-- A step up undoes a step down. -/
@[simp] theorem up_child (place : Place) (name : String) : (place.child name).up = place := by
  simp [up, child]

/-- The place is in the working directory or in a directory below it. -/
def isInside (place : Place) : Bool := place.above == 0

/-- A name in a directory is inside if the directory is. -/
@[simp] theorem isInside_child (place : Place) (name : String) :
    (place.child name).isInside = place.isInside := rfl

end Place

end Relay
