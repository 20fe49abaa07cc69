import Relay.Json.Skip
import Relay.Proofs.Json.Numerals

/-!
# Values that are passed over

A value is a word, a numeral, a literal, or a list or an object of values at any depth. The
brackets that are open are kept on a stack while a value is passed over, so no depth is too
great. Whatever the value is, the reader stands behind it in the end, and as every step
passes over a character, it does not run out of steps.

## Main definitions

* `Json.IsValue` — what a value looks like, at any depth.
* `Json.IsFilling` — what stands between the brackets of a list or an object.

## Main statements

* `Json.skipValue_of_isValue` — a value is passed over.
-/

namespace Relay.Json

variable {cs rest blanks : List Char} {b : Bracket} {outer : List Bracket} {steps : Nat}

/-! ### What values look like -/

/-- The character that opens a bracket. -/
def Bracket.opening : Bracket → Char
  | .list => '['
  | .object => '\x7b'

/-- A value without brackets. -/
inductive IsScalar : List Char → Prop
  | null : IsScalar ['n', 'u', 'l', 'l']
  | yes : IsScalar ['t', 'r', 'u', 'e']
  | no : IsScalar ['f', 'a', 'l', 's', 'e']
  | numeral {n : Numeral} {cs : List Char} (h : n.HasText cs) : IsScalar cs
  | literal {cs : List Char} (h : IsQuotable cs) : IsScalar ('"' :: cs ++ ['"'])

/-- What stands in front of a value inside a bracket: in an object a name and a colon. -/
inductive IsLabel : Bracket → List Char → Prop
  | item : IsLabel .list []
  | name {cs before after : List Char} (hname : IsQuotable cs) (hbefore : Spaces before)
      (hafter : Spaces after) : IsLabel .object ('"' :: cs ++ '"' :: (before ++ ':' :: after))

mutual

/-- A value of any kind. -/
inductive IsValue : List Char → Prop
  | scalar {cs : List Char} (h : IsScalar cs) : IsValue cs
  | empty {blanks : List Char} (b : Bracket) (h : Spaces blanks) :
      IsValue (b.opening :: (blanks ++ [b.closing]))
  | filled {cs : List Char} (b : Bracket) (h : IsFilling b cs) :
      IsValue (b.opening :: (cs ++ [b.closing]))

/-- One value or more with commas between them, each with blanks around it. -/
inductive IsFilling : Bracket → List Char → Prop
  | last {b : Bracket} {before label value after : List Char} (hbefore : Spaces before)
      (hlabel : IsLabel b label) (hvalue : IsValue value) (hafter : Spaces after) :
      IsFilling b (before ++ (label ++ (value ++ after)))
  | cons {b : Bracket} {before label value after rest : List Char} (hbefore : Spaces before)
      (hlabel : IsLabel b label) (hvalue : IsValue value) (hafter : Spaces after)
      (hrest : IsFilling b rest) :
      IsFilling b (before ++ (label ++ (value ++ (after ++ ',' :: rest))))

end

/-! ### Values without brackets -/

theorem Numeral.HasText.exists_cons {n : Numeral} (h : n.HasText cs) :
    ∃ c tail, cs = c :: tail ∧ (c = '-' ∨ c.isDigit) := by
  obtain ⟨hsign, hwhole, -, -⟩ := h
  obtain ⟨hnil, hdigits⟩ := hwhole.isDigits
  obtain ⟨c, whole, hcons⟩ := List.exists_cons_of_ne_nil hnil
  generalize n.negative = negative at hsign
  cases hsign with
  | none =>
    rw [hcons] at hdigits ⊢
    exact ⟨c, _, rfl, .inr (hdigits c List.mem_cons_self)⟩
  | minus => exact ⟨'-', _, rfl, .inl rfl⟩

/-- A numeral starts with no character that starts another value. -/
theorem ne_of_startsNumeral {c d : Char} (hc : c = '-' ∨ c.isDigit) (hminus : d ≠ '-')
    (hdigit : d.isDigit = false) : c ≠ d := by
  rintro rfl
  rcases hc with rfl | hc
  · exact hminus rfl
  · exact Bool.noConfusion (hc.symm.trans hdigit)

/-- A value starts neither with a blank nor with a character that closes a bracket. -/
def StartsValue (c : Char) : Prop := isSpace c = false ∧ ∀ b : Bracket, c ≠ b.closing

instance (c : Char) : Decidable (StartsValue c) :=
  decidable_of_iff (isSpace c = false ∧ c ≠ ']' ∧ c ≠ '\x7d')
    ⟨fun ⟨hspace, hlist, hobject⟩ => ⟨hspace, fun | .list => hlist | .object => hobject⟩,
      fun ⟨hspace, hclosing⟩ => ⟨hspace, hclosing .list, hclosing .object⟩⟩

theorem StartsValue.of_numeral {c : Char} (hc : c = '-' ∨ c.isDigit) : StartsValue c := by
  have hspace : isSpace c = false := by
    simp only [isSpace, Bool.or_eq_false_iff, beq_eq_false_iff_ne]
    exact ⟨⟨⟨ne_of_startsNumeral hc (by decide) (by decide),
      ne_of_startsNumeral hc (by decide) (by decide)⟩,
      ne_of_startsNumeral hc (by decide) (by decide)⟩,
      ne_of_startsNumeral hc (by decide) (by decide)⟩
  exact ⟨hspace, fun
    | .list => ne_of_startsNumeral hc (by decide) (by decide)
    | .object => ne_of_startsNumeral hc (by decide) (by decide)⟩

theorem ofOpening?_of_numeral {c : Char} (hc : c = '-' ∨ c.isDigit) :
    Bracket.ofOpening? c = none := by
  rw [Bracket.ofOpening?, if_neg (ne_of_startsNumeral hc (by decide) (by decide)),
    if_neg (ne_of_startsNumeral hc (by decide) (by decide))]

theorem IsScalar.exists_cons (h : IsScalar cs) :
    ∃ c tail, cs = c :: tail ∧ StartsValue c ∧ Bracket.ofOpening? c = none := by
  cases h with
  | null | yes | no | literal _ => exact ⟨_, _, rfl, by decide, by decide⟩
  | numeral h =>
    obtain ⟨c, tail, rfl, hc⟩ := h.exists_cons
    exact ⟨c, tail, rfl, .of_numeral hc, ofOpening?_of_numeral hc⟩

theorem expectWord_append (word : List Char) : expectWord word (word ++ rest) = .ok rest := by
  induction word with
  | nil => simp [expectWord]
  | cons c word ih => rw [List.cons_append, expectWord, if_pos rfl, ih]

theorem skipScalar_numeral {n : Numeral} (h : n.HasText cs) (hrest : Ends rest) :
    skipScalar (cs ++ rest) = .ok rest := by
  have hscan : scanNumeral .malformed (cs ++ rest) = .ok (n, rest) :=
    scanNumeral_of_hasText h hrest
  obtain ⟨c, tail, rfl, hc⟩ := h.exists_cons
  have hstart : (c = '-' || c.isDigit) = true := by simpa using hc
  rw [List.cons_append] at hscan ⊢
  rw [skipScalar, if_neg (ne_of_startsNumeral hc (by decide) (by decide)),
    if_neg (ne_of_startsNumeral hc (by decide) (by decide)),
    if_neg (ne_of_startsNumeral hc (by decide) (by decide)),
    if_neg (ne_of_startsNumeral hc (by decide) (by decide)), if_pos hstart, hscan]

theorem skipScalar_append (h : IsScalar cs) (hrest : Ends rest) :
    skipScalar (cs ++ rest) = .ok rest := by
  cases h with
  | null => exact expectWord_append ['u', 'l', 'l']
  | yes => exact expectWord_append ['r', 'u', 'e']
  | no => exact expectWord_append ['a', 'l', 's', 'e']
  | numeral h => exact skipScalar_numeral h hrest
  | @literal cs h =>
    have hskip : skipString (cs ++ '"' :: rest) = .ok rest := skipString_of_isQuotable h
    simpa [skipScalar] using hskip

/-! ### Blanks and names in front of a value -/

theorem skipFrom_spaces (hblanks : Spaces blanks) :
    skipFrom steps false outer (blanks ++ cs) = skipFrom steps false outer cs := by
  cases steps with
  | zero => simp [skipFrom]
  | succ steps => simp only [skipFrom, skipSpaces_append hblanks]

/-- The value that starts behind an opening bracket or a comma, and all that follows. -/
def skipEntry (steps : Nat) (b : Bracket) (outer : List Bracket) (cs : List Char) :
    Except Fault (List Char) :=
  match skipName cs b with
  | .error e => .error e
  | .ok rest => skipFrom steps false (b :: outer) rest

theorem skipEntry_spaces (hblanks : Spaces blanks) :
    skipEntry steps b outer (blanks ++ cs) = skipEntry steps b outer cs := by
  cases b with
  | list => simp only [skipEntry, skipName, skipFrom_spaces hblanks]
  | object => simp only [skipEntry, skipName, skipSpaces_append hblanks]

theorem expectColon_append {before : List Char} (hbefore : Spaces before) :
    expectColon (before ++ ':' :: cs) = .ok cs := by
  simp [expectColon, skipSpaces_append_cons hbefore (show isSpace ':' = false by decide)]

theorem skipEntry_label {label : List Char} (hlabel : IsLabel b label) :
    skipEntry steps b outer (label ++ cs) = skipFrom steps false (b :: outer) cs := by
  cases hlabel with
  | item => rfl
  | @name name before after hname hbefore hafter =>
    have hskip : skipString (name ++ '"' :: (before ++ ':' :: (after ++ cs))) =
        .ok (before ++ ':' :: (after ++ cs)) := skipString_of_isQuotable hname
    have hcolon : expectColon (before ++ ':' :: (after ++ cs)) = .ok (after ++ cs) :=
      expectColon_append hbefore
    have hquote : isSpace '"' = false := by decide
    simp only [List.append_assoc, List.cons_append, skipEntry, skipName, skipSpaces_cons hquote,
      if_true, hskip, hcolon, skipFrom_spaces hafter]

/-! ### What a step does -/

theorem skipFrom_scalar (h : IsScalar cs) (hrest : Ends rest) :
    skipFrom (steps + 1) false outer (cs ++ rest) = skipFrom steps true outer rest := by
  have hskip := skipScalar_append h hrest
  obtain ⟨c, tail, rfl, ⟨hspace, -⟩, hopening⟩ := h.exists_cons
  rw [List.cons_append] at hskip ⊢
  simp only [skipFrom, skipSpaces_cons hspace, hopening, hskip]

theorem ofOpening?_opening (b : Bracket) : Bracket.ofOpening? b.opening = some b := by
  cases b <;> decide

theorem isSpace_opening (b : Bracket) : isSpace b.opening = false := by
  cases b <;> decide

theorem isSpace_closing (b : Bracket) : isSpace b.closing = false := by
  cases b <;> decide

theorem closing_ne_comma (b : Bracket) : b.closing ≠ ',' := by
  cases b <;> decide

/-- A bracket that is closed at once. -/
theorem skipFrom_empty (b : Bracket) (hblanks : Spaces blanks) :
    skipFrom (steps + 1) false outer (b.opening :: (blanks ++ b.closing :: rest)) =
      skipFrom steps true outer rest := by
  simp only [skipFrom, skipSpaces_cons (isSpace_opening b), ofOpening?_opening,
    skipSpaces_append_cons hblanks (isSpace_closing b), if_true]

/-- A bracket that is not closed at once. -/
theorem skipFrom_opening {c : Char} (hblanks : Spaces blanks) (hspace : isSpace c = false)
    (hclosing : c ≠ b.closing) :
    skipFrom (steps + 1) false outer (b.opening :: (blanks ++ c :: rest)) =
      skipEntry steps b outer (c :: rest) := by
  simp only [skipFrom, skipSpaces_cons (isSpace_opening b), ofOpening?_opening,
    skipSpaces_append_cons hblanks hspace, if_neg hclosing]
  rfl

theorem skipFrom_comma (hblanks : Spaces blanks) :
    skipFrom (steps + 1) true (b :: outer) (blanks ++ ',' :: rest) =
      skipEntry steps b outer rest := by
  simp only [skipFrom, skipSpaces_append_cons hblanks (show isSpace ',' = false by decide),
    if_true]
  rfl

theorem skipFrom_closing (hblanks : Spaces blanks) :
    skipFrom (steps + 1) true (b :: outer) (blanks ++ b.closing :: rest) =
      skipFrom steps true outer rest := by
  simp only [skipFrom, skipSpaces_append_cons hblanks (isSpace_closing b),
    if_neg (closing_ne_comma b), if_true]

/-! ### Values at any depth -/

theorem IsValue.exists_cons (h : IsValue cs) : ∃ c tail, cs = c :: tail ∧ StartsValue c := by
  cases h with
  | scalar h =>
    obtain ⟨c, tail, hcons, hstart, -⟩ := h.exists_cons
    exact ⟨c, tail, hcons, hstart⟩
  | empty b _ | filled b _ => exact ⟨b.opening, _, rfl, by cases b <;> decide⟩

/-- In front of a value there is a name or nothing. -/
theorem IsLabel.exists_cons {label : List Char} (hlabel : IsLabel b label) (hcs : IsValue cs)
    (rest : List Char) : ∃ c tail, label ++ (cs ++ rest) = c :: tail ∧ StartsValue c := by
  cases hlabel with
  | item =>
    obtain ⟨c, tail, rfl, hc⟩ := hcs.exists_cons
    exact ⟨c, tail ++ rest, rfl, hc⟩
  | name _ _ _ => exact ⟨'"', _, rfl, by decide⟩

theorem IsFilling.exists_cons (h : IsFilling b cs) :
    ∃ blanks c tail, cs = blanks ++ c :: tail ∧ Spaces blanks ∧ StartsValue c := by
  cases h with
  | last hbefore hlabel hvalue _ | cons hbefore hlabel hvalue _ _ =>
    obtain ⟨c, tail, hcons, hc⟩ := hlabel.exists_cons hvalue _
    exact ⟨_, c, tail, by rw [hcons], hbefore, hc⟩

/-- The reader passes over the text, whatever is open around it, in no more steps than the text
has characters. -/
def Passes (cs : List Char) : Prop :=
  ∀ steps outer rest, Ends rest → cs.length ≤ steps → ∃ left, steps ≤ left + cs.length ∧
    skipFrom steps false outer (cs ++ rest) = skipFrom left true outer rest

/-- The reader passes over the text and the bracket behind it. -/
def PassesIn (b : Bracket) (cs : List Char) : Prop :=
  ∀ steps outer rest, cs.length < steps → ∃ left, steps ≤ left + (cs.length + 1) ∧
    skipEntry steps b outer (cs ++ b.closing :: rest) = skipFrom left true outer rest

theorem Passes.of_isScalar (h : IsScalar cs) : Passes cs := by
  intro steps outer rest hrest hsteps
  obtain ⟨c, tail, hcons, -⟩ := h.exists_cons
  have hlength : cs.length = tail.length + 1 := by rw [hcons, List.length_cons]
  obtain ⟨steps, rfl⟩ := Nat.exists_eq_add_one.mpr (show 0 < steps by omega)
  exact ⟨steps, by omega, skipFrom_scalar h hrest⟩

theorem Passes.empty (b : Bracket) (hblanks : Spaces blanks) :
    Passes (b.opening :: (blanks ++ [b.closing])) := by
  intro steps outer rest _ hsteps
  simp only [List.length_cons, List.length_append, List.length_nil] at hsteps ⊢
  obtain ⟨steps, rfl⟩ := Nat.exists_eq_add_one.mpr (show 0 < steps by omega)
  refine ⟨steps, by omega, ?_⟩
  simpa using skipFrom_empty b hblanks

theorem PassesIn.passes (h : PassesIn b cs) (hcs : IsFilling b cs) :
    Passes (b.opening :: (cs ++ [b.closing])) := by
  intro steps outer rest _ hsteps
  simp only [List.length_cons, List.length_append, List.length_nil] at hsteps ⊢
  obtain ⟨steps, rfl⟩ := Nat.exists_eq_add_one.mpr (show 0 < steps by omega)
  obtain ⟨left, hleft, hskip⟩ := h steps outer rest (by omega)
  refine ⟨left, by omega, ?_⟩
  obtain ⟨blanks, c, tail, rfl, hblanks, hspace, hclosing⟩ := hcs.exists_cons
  calc skipFrom (steps + 1) false outer (b.opening :: (blanks ++ c :: tail ++ [b.closing]) ++ rest)
      = skipFrom (steps + 1) false outer
          (b.opening :: (blanks ++ c :: (tail ++ b.closing :: rest))) := by simp
    _ = skipEntry steps b outer (c :: (tail ++ b.closing :: rest)) :=
        skipFrom_opening hblanks hspace (hclosing b)
    _ = skipEntry steps b outer (blanks ++ c :: tail ++ b.closing :: rest) := by
        rw [List.append_assoc, skipEntry_spaces hblanks, List.cons_append]
    _ = skipFrom left true outer rest := hskip

section Entries

variable {before label value after : List Char} (steps : Nat) (outer : List Bracket)
  (hbefore : Spaces before) (hlabel : IsLabel b label) (hvalue : Passes value)

include hbefore hlabel hvalue

/-- The reader stands behind the value of an entry. -/
theorem exists_skipFrom_of_entry (hrest : Ends rest) (hsteps : value.length ≤ steps) :
    ∃ left, steps ≤ left + value.length ∧
      skipEntry steps b outer (before ++ (label ++ (value ++ rest))) =
        skipFrom left true (b :: outer) rest := by
  rw [skipEntry_spaces hbefore, skipEntry_label hlabel]
  exact hvalue steps (b :: outer) rest hrest hsteps

variable (hafter : Spaces after)

include hafter

theorem PassesIn.last : PassesIn b (before ++ (label ++ (value ++ after))) := by
  intro steps outer rest hsteps
  simp only [List.length_append] at hsteps
  have hnext : Ends (after ++ b.closing :: rest) :=
    Ends.append hafter (ends_cons (by cases b <;> decide))
  obtain ⟨left, hleft, hskip⟩ :=
    exists_skipFrom_of_entry steps outer hbefore hlabel hvalue hnext (by omega)
  obtain ⟨left, rfl⟩ := Nat.exists_eq_add_one.mpr (show 0 < left by omega)
  refine ⟨left, by simp only [List.length_append]; omega, ?_⟩
  simp only [List.append_assoc]
  rw [hskip, skipFrom_closing hafter]

theorem PassesIn.cons (hcs : PassesIn b cs) :
    PassesIn b (before ++ (label ++ (value ++ (after ++ ',' :: cs)))) := by
  intro steps outer rest hsteps
  simp only [List.length_append, List.length_cons] at hsteps
  have hnext : Ends (after ++ ',' :: (cs ++ b.closing :: rest)) :=
    Ends.append hafter (ends_cons (.inl rfl))
  obtain ⟨left, hleft, hskip⟩ :=
    exists_skipFrom_of_entry steps outer hbefore hlabel hvalue hnext (by omega)
  obtain ⟨left, rfl⟩ := Nat.exists_eq_add_one.mpr (show 0 < left by omega)
  obtain ⟨last, hlast, hrest⟩ := hcs left outer rest (by omega)
  refine ⟨last, by simp only [List.length_append, List.length_cons]; omega, ?_⟩
  simp only [List.append_assoc, List.cons_append]
  rw [hskip, skipFrom_comma hafter, hrest]

end Entries

mutual

theorem IsValue.passes {cs : List Char} : IsValue cs → Passes cs
  | .scalar h => .of_isScalar h
  | .empty b hblanks => .empty b hblanks
  | .filled _ h => h.passesIn.passes h

theorem IsFilling.passesIn {b : Bracket} {cs : List Char} : IsFilling b cs → PassesIn b cs
  | .last hbefore hlabel hvalue hafter => .last hbefore hlabel hvalue.passes hafter
  | .cons hbefore hlabel hvalue hafter hrest =>
    .cons hbefore hlabel hvalue.passes hafter hrest.passesIn

end

/-- A value is passed over, whatever blanks come before it. -/
theorem skipValue_of_isValue (h : IsValue cs) (hblanks : Spaces blanks) (hrest : Ends rest) :
    skipValue (blanks ++ (cs ++ rest)) = .ok rest := by
  have hsteps : cs.length ≤ (blanks ++ (cs ++ rest)).length := by
    simp only [List.length_append]
    omega
  obtain ⟨left, hleft, hskip⟩ :=
    h.passes ((blanks ++ (cs ++ rest)).length + 1) [] rest hrest (by omega)
  obtain ⟨left, rfl⟩ := Nat.exists_eq_add_one.mpr (show 0 < left by omega)
  rw [skipValue, skipFrom_spaces hblanks, hskip, skipFrom]

end Relay.Json
