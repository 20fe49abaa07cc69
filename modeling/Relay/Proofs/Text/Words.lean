import Mathlib.Data.List.Basic
import Mathlib.Data.List.TakeWhile
import Relay.Text.Blank

/-!
# Words

A word is a name with the blanks around it. The name has something in it, and no
blank at either end; so the text of a word says what the name is and what stands
before and after it, and every text that is not blank is that of one word.

## Main definitions

* `Word` — a name with what stands before and after it.
* `Word.IsPadded` — what stands around the name is blank, and the name is not.

## Main statements

* `Word.IsPadded.trim_text` — the text without the blanks at either end is the name.
* `exists_word`, `Word.IsPadded.ext_text` — every text that is not blank is that of
  one word.
-/

namespace Relay.Text

/-- A name with what stands before and after it. -/
structure Word where
  before : List Char
  name : List Char
  after : List Char
  deriving DecidableEq

namespace Word

/-- The word as it is written. -/
def text (w : Word) : List Char := w.before ++ w.name ++ w.after

/-- What stands around the name is blank. The name is not empty, and neither its
first nor its last character is blank. -/
structure IsPadded (w : Word) : Prop where
  before : ∀ c ∈ w.before, isBlank c
  after : ∀ c ∈ w.after, isBlank c
  name_ne_nil : w.name ≠ []
  first : ∀ c, w.name.head? = some c → isBlank c = false
  last : ∀ c, w.name.getLast? = some c → isBlank c = false

end Word

/-! ### Blanks at the ends of a text -/

section Blanks

variable {cs tail : List Char} {p : Char → Bool}

theorem dropTrailing_append_of_all (h : ∀ c ∈ tail, p c) :
    dropTrailing p (cs ++ tail) = dropTrailing p cs := by
  induction cs with
  | nil => exact dropTrailing_eq_nil_iff.mpr h
  | cons c rest ih => rw [List.cons_append, dropTrailing, dropTrailing, ih]

theorem takeWhile_blank_of_head (h : ∀ c, cs.head? = some c → isBlank c = false) :
    cs.takeWhile isBlank = [] := by
  cases cs with
  | nil => rfl
  | cons c rest => rw [List.takeWhile_cons_of_neg (by simp [h c rfl])]

end Blanks

namespace Word

variable {w v : Word}

theorem IsPadded.takeWhile_text (h : w.IsPadded) : w.text.takeWhile isBlank = w.before := by
  have hrest : (w.name ++ w.after).takeWhile isBlank = [] :=
    takeWhile_blank_of_head (List.head?_append_of_ne_nil w.name h.name_ne_nil ▸ h.first)
  rw [text, List.append_assoc, List.takeWhile_append_of_pos h.before, hrest, List.append_nil]

theorem IsPadded.dropWhile_text (h : w.IsPadded) :
    w.text.dropWhile isBlank = w.name ++ w.after := by
  have hsplit := List.takeWhile_append_dropWhile (p := isBlank) (l := w.text)
  rw [h.takeWhile_text] at hsplit
  refine List.append_cancel_left (hsplit.trans ?_)
  rw [text, List.append_assoc]

/-- Without the blanks at either end, a word is its name. -/
theorem IsPadded.trim_text (h : w.IsPadded) : trim w.text = w.name := by
  rw [trim, h.dropWhile_text, dropTrailing_append_of_all h.after, dropTrailing_eq_self h.last]

/-- Words that are written alike are the same. -/
theorem IsPadded.ext_text (h : w.IsPadded) (h' : v.IsPadded) (heq : w.text = v.text) : w = v := by
  have hbefore : w.before = v.before := by rw [← h.takeWhile_text, heq, h'.takeWhile_text]
  have hname : w.name = v.name := by rw [← h.trim_text, heq, h'.trim_text]
  have hrest : w.name ++ w.after = v.name ++ v.after := by
    rw [← h.dropWhile_text, heq, h'.dropWhile_text]
  obtain ⟨before, name, after⟩ := w
  obtain ⟨before', name', after'⟩ := v
  obtain rfl : before = before' := hbefore
  obtain rfl : name = name' := hname
  obtain rfl : after = after' := List.append_cancel_left hrest
  rfl

end Word

/-- A text that is not blank is that of a word. -/
theorem exists_word {text : List Char} (h : trim text ≠ []) :
    ∃ w : Word, w.IsPadded ∧ w.text = text := by
  obtain ⟨tail, hrest, htail⟩ : ∃ tail, text.dropWhile isBlank = trim text ++ tail ∧
      ∀ c ∈ tail, isBlank c := exists_dropTrailing_append isBlank (text.dropWhile isBlank)
  let w : Word := ⟨text.takeWhile isBlank, trim text, tail⟩
  have hpadded : w.IsPadded := {
    before := fun c hc => List.mem_takeWhile_imp hc
    after := htail
    name_ne_nil := h
    first := fun c hc => by
      have hhead : (text.dropWhile isBlank).head? = some c := by
        rw [hrest, List.head?_append_of_ne_nil _ h]
        exact hc
      have hnot := List.head?_dropWhile_not isBlank text
      rwa [hhead] at hnot
    last := fun c hc => getLast?_dropTrailing hc }
  refine ⟨w, hpadded, ?_⟩
  rw [Word.text, List.append_assoc]
  refine Eq.trans ?_ (List.takeWhile_append_dropWhile (p := isBlank))
  exact congrArg (text.takeWhile isBlank ++ ·) hrest.symm

end Relay.Text
