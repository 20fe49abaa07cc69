/-!
# Pieces of a text

A text is cut at every occurrence of a separator, from left to right, into one
piece more than there are separators. Flows are cut at arrows into stages, and
stages at commas into members.

## Main definitions

* `piecesAt` — the pieces between the occurrences of one character.
* `piecesAtArrow` — the pieces between the occurrences of the arrow `->`.

## Main statements

* `intercalate_piecesAt`, `intercalate_piecesAtArrow` — joining the pieces with
  the separator gives the text back.
* `piecesAt_ne_nil`, `piecesAtArrow_ne_nil` — there is always a piece.
-/

namespace Relay.Text

/-- Put a character in front of the first piece. -/
def consHead (c : Char) : List (List Char) → List (List Char)
  | [] => [[c]]
  | piece :: rest => (c :: piece) :: rest

/-- The pieces of a text between the occurrences of `sep`. -/
def piecesAt (sep : Char) : List Char → List (List Char)
  | [] => [[]]
  | c :: rest => if c = sep then [] :: piecesAt sep rest else consHead c (piecesAt sep rest)

/-- The pieces of a text between the occurrences of the arrow `->`. -/
def piecesAtArrow : List Char → List (List Char)
  | [] => [[]]
  | '-' :: '>' :: rest => [] :: piecesAtArrow rest
  | c :: rest => consHead c (piecesAtArrow rest)

section Lemmas

variable {sep c : Char} {cs : List Char} {pieces : List (List Char)}

theorem consHead_ne_nil : consHead c pieces ≠ [] := by
  cases pieces <;> simp [consHead]

theorem piecesAt_ne_nil : piecesAt sep cs ≠ [] := by
  cases cs with
  | nil => simp [piecesAt]
  | cons c rest =>
    rw [piecesAt]
    split
    · simp
    · exact consHead_ne_nil

theorem piecesAtArrow_ne_nil : piecesAtArrow cs ≠ [] := by
  unfold piecesAtArrow
  split
  · simp
  · simp
  · exact consHead_ne_nil

theorem intercalate_consHead (sep : List Char) (h : pieces ≠ []) :
    sep.intercalate (consHead c pieces) = c :: sep.intercalate pieces := by
  match pieces, h with
  | [piece], _ => simp [consHead, List.intercalate]
  | piece :: next :: rest, _ => simp [consHead, List.intercalate]

theorem intercalate_nil_cons (sep : List Char) (h : pieces ≠ []) :
    sep.intercalate ([] :: pieces) = sep ++ sep.intercalate pieces := by
  match pieces, h with
  | piece :: rest, _ => simp [List.intercalate]

/-- Joining the pieces with the separator gives the text back. -/
theorem intercalate_piecesAt (sep : Char) (cs : List Char) :
    [sep].intercalate (piecesAt sep cs) = cs := by
  induction cs with
  | nil => simp [piecesAt, List.intercalate]
  | cons c rest ih =>
    rw [piecesAt]
    split
    · next h => rw [intercalate_nil_cons _ piecesAt_ne_nil, ih, h]; rfl
    · rw [intercalate_consHead _ piecesAt_ne_nil, ih]

/-- Joining the pieces with arrows gives the text back. -/
theorem intercalate_piecesAtArrow (cs : List Char) :
    ['-', '>'].intercalate (piecesAtArrow cs) = cs := by
  fun_induction piecesAtArrow cs with
  | case1 => simp [List.intercalate]
  | case2 rest ih => rw [intercalate_nil_cons _ piecesAtArrow_ne_nil, ih]; rfl
  | case3 c rest _ ih => rw [intercalate_consHead _ piecesAtArrow_ne_nil, ih]

end Lemmas

end Relay.Text
