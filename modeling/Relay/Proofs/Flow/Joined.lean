import Mathlib.Data.List.Forall2
import Relay.Flow.Parse
import Relay.Proofs.Text.Cuts

/-!
# Flows joined by an arrow

Two texts joined by an arrow are cut into the pieces of the one and then the
pieces of the other, whatever stands at the seam. So the text of two flows joined
by an arrow writes down the stages of the one and then those of the other.

## Main statements

* `Flow.parse_eq_ok_iff` — what a text writes down, piece by piece.
* `Flow.parse_append` — reading two flows joined by an arrow.
-/

namespace Relay

open Text

namespace Flow

/-- The text writes down the stage. -/
def Writes (text : List Char) (s : Stage) : Prop := Stage.parse? text = some s

/-- The index from which stages are counted matters for errors alone. -/
theorem parseStages_eq_ok_iff {index : Nat} {texts : List (List Char)} {stages : List Stage} :
    parseStages index texts = .ok stages ↔ List.Forall₂ Writes texts stages := by
  induction texts generalizing index stages with
  | nil => rw [parseStages, List.forall₂_nil_left_iff, Except.ok.injEq, eq_comm]
  | cons text rest ih =>
    rw [parseStages]
    cases hstage : Stage.parse? text with
    | none =>
      refine ⟨(nomatch ·), fun h => ?_⟩
      obtain ⟨s, _, hs, -, -⟩ := List.forall₂_cons_left_iff.mp h
      exact absurd (hstage.symm.trans hs) (by simp)
    | some stage =>
      constructor
      · intro h
        cases hrest : parseStages (index + 1) rest with
        | error e => simp [hrest] at h
        | ok tail =>
          obtain rfl : stage :: tail = stages := by simpa [hrest] using h
          exact .cons hstage (ih.mp hrest)
      · intro h
        obtain ⟨s, tail, hs, htail, rfl⟩ := List.forall₂_cons_left_iff.mp h
        obtain rfl : stage = s := Option.some.inj (hstage.symm.trans hs)
        simp [ih.mpr htail]

/-- A text writes down a flow when it has an arrow and its pieces write down the
stages, one by one. -/
theorem parse_eq_ok_iff {text : String} {f : Flow} :
    parse text = .ok f ↔ 2 ≤ (piecesAtArrow text.toList).length ∧
      List.Forall₂ Writes (piecesAtArrow text.toList) f.stages := by
  obtain ⟨stages⟩ := f
  rw [parse]
  split
  · next first second rest hpieces =>
    have hstages : parseStages 0 (first :: second :: rest) = .ok stages ↔
        List.Forall₂ Writes (first :: second :: rest) stages := parseStages_eq_ok_iff
    rw [hpieces, ← hstages]
    cases parseStages 0 (first :: second :: rest) <;> simp
  · next hfew =>
    refine ⟨(nomatch ·), fun ⟨hlen, _⟩ => ?_⟩
    match hpieces : piecesAtArrow text.toList with
    | [] | [_] => simp [hpieces] at hlen
    | first :: second :: rest => exact absurd hpieces (hfew first second rest)

/-- Two flows joined by an arrow are the stages of the one and then of the other. -/
theorem parse_append {a b : String} {f g : Flow} (hf : parse a = .ok f) (hg : parse b = .ok g) :
    parse (a ++ "->" ++ b) = .ok ⟨f.stages ++ g.stages⟩ := by
  obtain ⟨hlen, hfst⟩ := parse_eq_ok_iff.mp hf
  obtain ⟨-, hsnd⟩ := parse_eq_ok_iff.mp hg
  have hcut : piecesAtArrow (a ++ "->" ++ b).toList =
      piecesAtArrow a.toList ++ piecesAtArrow b.toList := by
    rw [String.toList_append, String.toList_append, List.append_assoc]
    exact piecesAtArrow_append a.toList b.toList
  refine parse_eq_ok_iff.mpr ⟨?_, ?_⟩
  · rw [hcut, List.length_append]
    omega
  · rw [hcut]
    exact List.rel_append hfst hsnd

end Flow

end Relay
