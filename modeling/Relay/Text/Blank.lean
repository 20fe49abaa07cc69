/-!
# Blank characters

The characters with the Unicode property `White_Space`, and the removal of a
run of characters at either end of a text. A name in a flow is read without the
blanks around it; blanks inside it belong to the name.

## Main definitions

* `isBlank` — the property `White_Space`.
* `dropTrailing` — a text without its longest ending of characters of one kind.
* `trim` — a text without the blanks at either end.

## Main statements

* `trim_eq_nil_iff` — what is left is empty exactly when everything is blank.
* `trim_of_edges` — a text with no blank at either end stays as it is.
-/

namespace Relay.Text

/-- A character is blank when it has the Unicode property `White_Space`. -/
def isBlank (c : Char) : Bool :=
  let n := c.toNat
  (9 ≤ n && n ≤ 13) || n == 0x20 || n == 0x85 || n == 0xA0 || n == 0x1680 ||
    (0x2000 ≤ n && n ≤ 0x200A) || n == 0x2028 || n == 0x2029 || n == 0x202F ||
    n == 0x205F || n == 0x3000

/-- Every character that core counts as whitespace is blank. -/
theorem isBlank_of_isWhitespace {c : Char} (h : c.isWhitespace) : isBlank c := by
  simp only [Char.isWhitespace, Bool.or_eq_true, decide_eq_true_eq] at h
  rcases h with ((rfl | rfl) | rfl) | rfl <;> decide

/-- The text without its longest ending of characters that satisfy `p`. -/
def dropTrailing (p : Char → Bool) : List Char → List Char
  | [] => []
  | c :: rest =>
    match dropTrailing p rest with
    | [] => if p c then [] else [c]
    | kept => c :: kept

/-- The text without the blanks at either end. -/
def trim (cs : List Char) : List Char :=
  dropTrailing isBlank (cs.dropWhile isBlank)

/-- A text all of whose characters are blank. -/
def allBlank (cs : List Char) : Bool :=
  cs.all isBlank

section Lemmas

variable {p : Char → Bool} {c : Char} {cs : List Char}

theorem dropTrailing_eq_nil_iff : dropTrailing p cs = [] ↔ ∀ c ∈ cs, p c := by
  induction cs with
  | nil => simp [dropTrailing]
  | cons c rest ih =>
    rw [dropTrailing]
    split
    · next h => split <;> simp_all
    · next h =>
      have hne : ¬ ∀ c ∈ rest, p c := fun hall => h (ih.2 hall)
      simp only [reduceCtorEq, List.mem_cons, forall_eq_or_imp, false_iff, not_and]
      exact fun _ => hne

/-- Nothing but an ending of characters that satisfy `p` is lost. -/
theorem exists_dropTrailing_append (p : Char → Bool) (cs : List Char) :
    ∃ tail, cs = dropTrailing p cs ++ tail ∧ ∀ c ∈ tail, p c := by
  induction cs with
  | nil => exact ⟨[], rfl, by simp⟩
  | cons c rest ih =>
    obtain ⟨tail, hrest, htail⟩ := ih
    rw [dropTrailing]
    split
    · next h =>
      rw [h] at hrest
      split
      · next hc => exact ⟨c :: tail, by simpa using hrest, by simpa [hc] using htail⟩
      · exact ⟨tail, by simpa using hrest, htail⟩
    · exact ⟨tail, by simpa using hrest, htail⟩

/-- What is kept does not end in a character that satisfies `p`. -/
theorem getLast?_dropTrailing (h : (dropTrailing p cs).getLast? = some c) : p c = false := by
  induction cs with
  | nil => simp [dropTrailing] at h
  | cons d rest ih =>
    rw [dropTrailing] at h
    split at h
    · split at h
      · simp at h
      · next hd =>
        simp only [List.getLast?_singleton, Option.some.injEq] at h
        simpa [← h] using hd
    · next kept hkept =>
      rw [List.getLast?_cons_of_ne_nil hkept] at h
      exact ih h

/-- A text whose last character does not satisfy `p` stays as it is. -/
theorem dropTrailing_eq_self (h : ∀ c, cs.getLast? = some c → p c = false) :
    dropTrailing p cs = cs := by
  induction cs with
  | nil => rfl
  | cons d rest ih =>
    cases rest with
    | nil => simp [dropTrailing, h d (by simp)]
    | cons e tail =>
      have hkept : dropTrailing p (e :: tail) = e :: tail :=
        ih fun c hc => h c (by rwa [List.getLast?_cons_cons])
      rw [dropTrailing, hkept]

theorem trim_eq_nil_iff : trim cs = [] ↔ ∀ c ∈ cs, isBlank c := by
  rw [trim, dropTrailing_eq_nil_iff]
  constructor
  · intro h c hc
    induction cs with
    | nil => simp at hc
    | cons d rest ih =>
      cases hd : isBlank d with
      | true =>
        rw [List.dropWhile_cons_of_pos hd] at h
        rcases List.mem_cons.1 hc with rfl | hc
        · exact hd
        · exact ih h hc
      | false =>
        rw [List.dropWhile_cons_of_neg (by simp [hd])] at h
        exact h c hc
  · exact fun h c hc => h c (List.dropWhile_sublist _ |>.mem hc)

/-- A text with no blank at either end stays as it is. -/
theorem trim_of_edges (hfirst : ∀ c, cs.head? = some c → isBlank c = false)
    (hlast : ∀ c, cs.getLast? = some c → isBlank c = false) : trim cs = cs := by
  have hdrop : cs.dropWhile isBlank = cs := by
    cases cs with
    | nil => rfl
    | cons d rest => exact List.dropWhile_cons_of_neg (by simp [hfirst d (by simp)])
  rw [trim, hdrop, dropTrailing_eq_self hlast]

theorem allBlank_iff : allBlank cs ↔ trim cs = [] := by
  rw [trim_eq_nil_iff, allBlank, List.all_eq_true]

end Lemmas

end Relay.Text
