/-!
# Text in a column

A text can be laid out in a column: cut to a greatest length, then filled up to
a least width on the side or sides that its alignment leaves free. Lengths are
counted in characters.

## Main definitions

* `Alignment`, `Layout` — how a text sits in its column.
* `Layout.apply` — the text laid out.
-/

namespace Relay.Text

/-- The side of the column that the text keeps to. -/
inductive Alignment where
  | left
  | center
  | right
  deriving DecidableEq

/-- A column for a text. -/
structure Layout where
  /-- The least number of characters of the result. -/
  width : Nat := 0
  /-- The greatest number of characters kept of the text. -/
  limit : Option Nat := none
  /-- The side that the text keeps to. -/
  alignment : Alignment := .left
  /-- The character that fills the free places. -/
  fill : Char := ' '

namespace Layout

/-- The places to fill before and after a text, when `free` are to be filled.
In the center an odd place goes after the text. -/
def shares (free : Nat) : Alignment → Nat × Nat
  | .left => (0, free)
  | .center => (free / 2, free - free / 2)
  | .right => (free, 0)

/-- The text cut to the limit and filled up to the width. -/
def apply (layout : Layout) (text : String) : String :=
  let kept := match layout.limit with
    | none => text.toList
    | some limit => text.toList.take limit
  let (before, after) := shares (layout.width - kept.length) layout.alignment
  String.ofList (List.replicate before layout.fill ++ kept ++ List.replicate after layout.fill)

/-- All free places are filled, on one side or the other. -/
theorem shares_add (free : Nat) (alignment : Alignment) :
    (shares free alignment).1 + (shares free alignment).2 = free := by
  cases alignment <;> simp only [shares] <;> omega

/-- A column without a limit is as wide as the wider of text and width. -/
theorem length_apply (layout : Layout) (text : String) (h : layout.limit = none) :
    (layout.apply text).toList.length = max layout.width text.toList.length := by
  have hshares := shares_add (layout.width - text.toList.length) layout.alignment
  simp only [apply, h, String.toList_ofList, List.length_append, List.length_replicate]
  omega

end Layout

end Relay.Text
