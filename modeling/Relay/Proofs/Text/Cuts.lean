import Mathlib.Data.List.Infix
import Relay.Text.Pieces

/-!
# Cuts of a text

A cut of a text at a separator is a list of pieces in which the separator does not
occur, and which give the text when they are joined with it. Commas and arrows cut
every text in exactly one way: a comma is a single character, and an arrow cannot
overlap another one, nor begin in one piece and end behind it, because its two
characters differ.

## Main definitions

* `arrow` — the two characters of an arrow.
* `IsCut` — some pieces are a cut of a text.

## Main statements

* `piecesAtArrow_append`, `piecesAt_append` — cutting two texts joined by a separator.
* `isCut_char_iff`, `isCut_arrow_iff` — the pieces are the only cut.
-/

namespace Relay.Text

/-- The two characters of an arrow. -/
abbrev arrow : List Char := ['-', '>']

/-- The pieces give the text when they are joined, and the separator occurs in none
of them. -/
structure IsCut (sep : List Char) (pieces : List (List Char)) (text : List Char) : Prop where
  ne_nil : pieces ≠ []
  joined : sep.intercalate pieces = text
  apart : ∀ piece ∈ pieces, ¬ sep <:+: piece

/-- A function that cuts at every separator, and nowhere else, finds the pieces. -/
theorem IsCut.eq_of_append {sep : List Char} {pieces : List (List Char)} {text : List Char}
    {cut : List Char → List (List Char)} (happend : ∀ a b, cut (a ++ sep ++ b) = cut a ++ cut b)
    (hone : ∀ a, ¬ sep <:+: a → cut a = [a]) (h : IsCut sep pieces text) : cut text = pieces := by
  obtain ⟨hne, rfl, hapart⟩ := h
  induction pieces with
  | nil => exact absurd rfl hne
  | cons piece rest ih =>
    have hpiece : cut piece = [piece] := hone piece (hapart piece List.mem_cons_self)
    cases rest with
    | nil => rw [List.intercalate_singleton, hpiece]
    | cons next rest =>
      have hrest := ih (by simp) fun p hp => hapart p (List.mem_cons_of_mem piece hp)
      rw [List.intercalate_cons_cons, happend, hpiece, hrest, List.singleton_append]

theorem prefix_intercalate_cons (sep first : List Char) (rest : List (List Char)) :
    first <+: sep.intercalate (first :: rest) := by
  cases rest with
  | nil => rw [List.intercalate_singleton]
  | cons next rest =>
    rw [List.intercalate_cons_cons, List.append_assoc]
    exact List.prefix_append first _

/-- What is joined occurs in the whole. -/
theorem infix_intercalate_of_mem {piece sep : List Char} {pieces : List (List Char)}
    (h : piece ∈ pieces) : piece <:+: sep.intercalate pieces := by
  induction pieces with
  | nil => exact absurd h List.not_mem_nil
  | cons first rest ih =>
    rcases List.mem_cons.mp h with rfl | hrest
    · exact (prefix_intercalate_cons sep piece rest).isInfix
    · cases rest with
      | nil => exact absurd hrest List.not_mem_nil
      | cons next rest =>
        rw [List.intercalate_cons_cons, List.append_assoc]
        exact ((ih hrest).trans (List.suffix_append sep _).isInfix).trans
          (List.suffix_append first _).isInfix

theorem consHead_append {c : Char} {l r : List (List Char)} (h : l ≠ []) :
    consHead c (l ++ r) = consHead c l ++ r := by
  match l, h with
  | piece :: rest, _ => rfl

/-! ### Commas and other single characters -/

section Character

variable {sep : Char}

theorem piecesAt_append (sep : Char) (a b : List Char) :
    piecesAt sep (a ++ sep :: b) = piecesAt sep a ++ piecesAt sep b := by
  induction a with
  | nil => simp [piecesAt]
  | cons c rest ih =>
    rw [List.cons_append, piecesAt, piecesAt, ih]
    split
    · rfl
    · exact consHead_append piecesAt_ne_nil

theorem piecesAt_of_notMem {cs : List Char} (h : sep ∉ cs) : piecesAt sep cs = [cs] := by
  induction cs with
  | nil => rfl
  | cons c rest ih =>
    rw [List.mem_cons, not_or] at h
    rw [piecesAt, if_neg (Ne.symm h.1), ih h.2]
    rfl

theorem notMem_of_mem_piecesAt {cs piece : List Char} (h : piece ∈ piecesAt sep cs) :
    sep ∉ piece := by
  induction cs generalizing piece with
  | nil =>
    obtain rfl := List.mem_singleton.mp h
    exact List.not_mem_nil
  | cons c rest ih =>
    rw [piecesAt] at h
    split at h
    · rcases List.mem_cons.mp h with rfl | hrest
      · exact List.not_mem_nil
      · exact ih hrest
    · next hc =>
      cases hpieces : piecesAt sep rest with
      | nil => exact absurd hpieces piecesAt_ne_nil
      | cons first others =>
        rw [hpieces] at ih h
        rcases List.mem_cons.mp h with rfl | hothers
        · rw [List.mem_cons, not_or]
          exact ⟨Ne.symm hc, ih List.mem_cons_self⟩
        · exact ih (List.mem_cons_of_mem first hothers)

/-- A text has one cut at a character. -/
theorem isCut_char_iff {pieces : List (List Char)} {text : List Char} :
    IsCut [sep] pieces text ↔ pieces = piecesAt sep text := by
  constructor
  · intro h
    refine (h.eq_of_append (fun a b => ?_) fun a ha => ?_).symm
    · rw [List.append_assoc]
      exact piecesAt_append sep a b
    · exact piecesAt_of_notMem fun hmem => ha ((List.singleton_infix_iff sep a).mpr hmem)
  · rintro rfl
    refine ⟨piecesAt_ne_nil, intercalate_piecesAt sep text, fun piece hpiece hinfix => ?_⟩
    exact notMem_of_mem_piecesAt hpiece ((List.singleton_infix_iff sep piece).mp hinfix)

end Character

/-! ### Arrows -/

/-- Two texts joined by an arrow are cut into the pieces of both. -/
theorem piecesAtArrow_append (a b : List Char) :
    piecesAtArrow (a ++ '-' :: '>' :: b) = piecesAtArrow a ++ piecesAtArrow b := by
  fun_induction piecesAtArrow a with
  | case1 => rw [List.nil_append, piecesAtArrow]; rfl
  | case2 rest ih => rw [List.cons_append, List.cons_append, piecesAtArrow, ih]; rfl
  | case3 c rest hc ih =>
    -- No arrow begins at `c`, not even one that ends behind the seam.
    have hno : ∀ tail, ¬ (c = '-' ∧ rest ++ '-' :: '>' :: b = '>' :: tail) := by
      rintro tail ⟨rfl, htail⟩
      cases rest with
      | nil => exact absurd (List.cons.inj htail).1 (by decide)
      | cons d rest => exact hc rest rfl (congrArg (· :: rest) (List.cons.inj htail).1)
    rw [List.cons_append, piecesAtArrow, ih, consHead_append piecesAtArrow_ne_nil]
    exact fun tail h h' => hno tail ⟨h, h'⟩

theorem piecesAtArrow_of_apart {cs : List Char} (h : ¬ arrow <:+: cs) :
    piecesAtArrow cs = [cs] := by
  fun_induction piecesAtArrow cs with
  | case1 => rfl
  | case2 rest => exact absurd (List.prefix_append arrow rest).isInfix h
  | case3 c rest _ ih =>
    rw [ih fun hrest => h (List.infix_cons hrest)]
    rfl

theorem apart_of_mem_piecesAtArrow {cs piece : List Char} (h : piece ∈ piecesAtArrow cs) :
    ¬ arrow <:+: piece := by
  fun_induction piecesAtArrow cs generalizing piece with
  | case1 =>
    obtain rfl := List.mem_singleton.mp h
    simp
  | case2 rest ih =>
    rcases List.mem_cons.mp h with rfl | hrest
    · simp
    · exact ih hrest
  | case3 c rest hc ih =>
    cases hpieces : piecesAtArrow rest with
    | nil => exact absurd hpieces piecesAtArrow_ne_nil
    | cons first others =>
      rw [hpieces] at ih h
      rcases List.mem_cons.mp h with rfl | hothers
      · rw [List.infix_cons_iff]
        rintro (hfront | hinfix)
        · -- An arrow at `c` would go on with the first character of the rest.
          obtain ⟨rfl, hhead⟩ := List.cons_prefix_cons.mp hfront
          have hfirst : first <+: rest := by
            rw [← intercalate_piecesAtArrow rest, hpieces]
            exact prefix_intercalate_cons arrow first others
          obtain ⟨tail, htail⟩ := hhead.trans hfirst
          exact hc tail rfl htail.symm
        · exact ih List.mem_cons_self hinfix
      · exact ih (List.mem_cons_of_mem first hothers)

/-- A text has one cut at the arrows. -/
theorem isCut_arrow_iff {pieces : List (List Char)} {text : List Char} :
    IsCut arrow pieces text ↔ pieces = piecesAtArrow text := by
  constructor
  · intro h
    refine (h.eq_of_append (fun a b => ?_) fun a ha => piecesAtArrow_of_apart ha).symm
    rw [List.append_assoc]
    exact piecesAtArrow_append a b
  · rintro rfl
    exact ⟨piecesAtArrow_ne_nil, intercalate_piecesAtArrow text,
      fun piece hpiece => apart_of_mem_piecesAtArrow hpiece⟩

/-- No arrow goes across a character that is none of its own. -/
theorem arrow_infix_append_cons_iff {c : Char} (hshaft : c ≠ '-') (hhead : c ≠ '>')
    {l r : List Char} : arrow <:+: l ++ c :: r ↔ arrow <:+: l ∨ arrow <:+: r := by
  induction l with
  | nil => simp [List.infix_cons_iff, List.cons_prefix_cons, hshaft.symm]
  | cons d l ih =>
    have hprefix : arrow <+: d :: (l ++ c :: r) ↔ arrow <+: d :: l := by
      cases l with
      | nil => simp [List.cons_prefix_cons, hhead.symm]
      | cons e l => simp [List.cons_prefix_cons]
    rw [List.cons_append, List.infix_cons_iff, List.infix_cons_iff, ih, hprefix, or_assoc]

/-- A text without an arrow is one piece. -/
theorem length_piecesAtArrow_lt_two_iff {text : List Char} :
    (piecesAtArrow text).length < 2 ↔ ¬ arrow <:+: text := by
  constructor
  · intro hlen
    match hpieces : piecesAtArrow text with
    | [] => exact absurd hpieces piecesAtArrow_ne_nil
    | [piece] =>
      have hjoined := intercalate_piecesAtArrow text
      rw [hpieces, List.intercalate_singleton] at hjoined
      exact hjoined ▸ apart_of_mem_piecesAtArrow (hpieces ▸ List.mem_singleton_self piece)
    | first :: second :: rest =>
      rw [hpieces] at hlen
      exact absurd hlen (by simp)
  · intro h
    rw [piecesAtArrow_of_apart h]
    simp

end Relay.Text
