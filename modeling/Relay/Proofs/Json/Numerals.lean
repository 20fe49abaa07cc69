import Relay.Proofs.Json.Literals

/-!
# Numerals

A numeral is a minus sign or none, digits without leading zeros, and perhaps a fraction and
an exponent. A reader takes all of it, because what may follow a numeral in a text cannot
go on with it: a blank, a comma, a closing bracket, or the end of the text. An integer that
fits in 64 bits has one numeral, and is read back from it.

## Main definitions

* `Json.Ends` — what may follow a value.
* `Json.Numeral.HasText` — what a numeral looks like.

## Main statements

* `Json.scanNumeral_of_hasText` — a numeral is read whole.
* `Json.readNumber_integerText` — an integer is read back.
-/

namespace Relay.Json

variable {cs rest digits : List Char}

/-! ### What may follow a value -/

/-- The text goes on with no character of the class. -/
def Stops (p : Char → Bool) (rest : List Char) : Prop := ∀ c ∈ rest.head?, p c = false

/-- A value may end where the text goes on so: with a blank, a comma, a closing bracket, or
not at all. -/
def Ends (rest : List Char) : Prop :=
  ∀ c ∈ rest.head?, isSpace c ∨ c = ',' ∨ c = ']' ∨ c = '\x7d'

theorem ends_nil : Ends [] := by simp [Ends]

theorem ends_cons {c : Char} (h : c = ',' ∨ c = ']' ∨ c = '\x7d') : Ends (c :: rest) := by
  rintro _ ⟨⟩
  exact .inr h

theorem Ends.append {blanks : List Char} (hblanks : Spaces blanks) (h : Ends rest) :
    Ends (blanks ++ rest) := by
  cases blanks with
  | nil => exact h
  | cons c blanks =>
    rintro _ ⟨⟩
    exact .inl (hblanks c List.mem_cons_self)

/-- A class that holds none of the characters that may follow a value is stopped by them. -/
theorem Ends.stops (h : Ends rest) {p : Char → Bool}
    (hp : [' ', '\n', '\t', '\r', ',', ']', '\x7d'].all (fun c => !p c) = true) : Stops p rest := by
  intro c hc
  have hall := List.all_eq_true.mp hp c
  have hends := h c hc
  simp only [isSpace, Bool.or_eq_true, beq_iff_eq] at hends
  simp only [List.mem_cons, List.not_mem_nil, or_false, Bool.not_eq_true'] at hall
  exact hall (by tauto)

/-! ### Digits -/

/-- One digit or more. -/
def IsDigits (cs : List Char) : Prop := cs ≠ [] ∧ ∀ c ∈ cs, c.isDigit

theorem takeWhile_of_stops {p : Char → Bool} (h : Stops p rest) : rest.takeWhile p = [] := by
  cases rest with
  | nil => rfl
  | cons c rest => exact List.takeWhile_cons_of_neg (by simp [h c rfl])

theorem dropWhile_of_stops {p : Char → Bool} (h : Stops p rest) : rest.dropWhile p = rest := by
  cases rest with
  | nil => rfl
  | cons c rest => exact List.dropWhile_cons_of_neg (by simp [h c rfl])

theorem scanDigits_append {atEnd : Fault} (h : IsDigits digits) (hrest : Stops Char.isDigit rest) :
    scanDigits atEnd (digits ++ rest) = .ok (digits, rest) := by
  obtain ⟨hne, hdigits⟩ := h
  obtain ⟨c, digits, rfl⟩ := List.exists_cons_of_ne_nil hne
  obtain ⟨hc, hdigits⟩ := List.forall_mem_cons.mp hdigits
  rw [List.cons_append, scanDigits, if_pos hc, List.takeWhile_append_of_pos hdigits,
    List.dropWhile_append_of_pos hdigits, takeWhile_of_stops hrest, dropWhile_of_stops hrest,
    List.append_nil]

/-! ### The parts of a numeral -/

/-- A minus sign, or none. -/
inductive IsSign : Bool → List Char → Prop
  | none : IsSign false []
  | minus : IsSign true ['-']

/-- The digits in front of the point: a zero stands alone. -/
inductive IsWhole : List Char → Prop
  | zero : IsWhole ['0']
  | digits {c : Char} {cs : List Char} (hc : c ≠ '0') (h : IsDigits (c :: cs)) : IsWhole (c :: cs)

/-- A point with its digits, or nothing. -/
inductive IsFraction : Option (List Char) → List Char → Prop
  | none : IsFraction none []
  | digits {cs : List Char} (h : IsDigits cs) : IsFraction (some cs) ('.' :: cs)

/-- A letter with its digits and perhaps a sign between them, or nothing. -/
inductive IsExponent : Option (Bool × List Char) → List Char → Prop
  | none : IsExponent none []
  | plain {e : Char} {cs : List Char} (he : e = 'e' ∨ e = 'E') (h : IsDigits cs) :
      IsExponent (some (false, cs)) (e :: cs)
  | plus {e : Char} {cs : List Char} (he : e = 'e' ∨ e = 'E') (h : IsDigits cs) :
      IsExponent (some (false, cs)) (e :: '+' :: cs)
  | minus {e : Char} {cs : List Char} (he : e = 'e' ∨ e = 'E') (h : IsDigits cs) :
      IsExponent (some (true, cs)) (e :: '-' :: cs)

/-- The text of a numeral with these parts. -/
inductive Numeral.HasText : Numeral → List Char → Prop
  | mk {n : Numeral} {sign fraction exponent : List Char} (hsign : IsSign n.negative sign)
      (hwhole : IsWhole n.whole) (hfraction : IsFraction n.fraction fraction)
      (hexponent : IsExponent n.exponent exponent) :
      n.HasText (sign ++ (n.whole ++ (fraction ++ exponent)))

theorem IsWhole.isDigits {whole : List Char} (h : IsWhole whole) : IsDigits whole := by
  cases h with
  | zero => exact ⟨by simp, List.forall_mem_singleton.mpr rfl⟩
  | digits _ h => exact h

theorem scanWhole_append {atEnd : Fault} {whole : List Char} (h : IsWhole whole)
    (hrest : Stops Char.isDigit rest) : scanWhole atEnd (whole ++ rest) = .ok (whole, rest) := by
  cases h with
  | zero =>
    cases rest with
    | nil => simp [scanWhole]
    | cons c rest => simp [scanWhole, hrest c rfl]
  | digits hc h =>
    simp only [List.cons_append, scanWhole, if_neg hc]
    exact scanDigits_append h hrest

theorem scanFraction_append {atEnd : Fault} {fraction? : Option (List Char)}
    {fraction : List Char} (h : IsFraction fraction? fraction) (hrest : Stops Char.isDigit rest)
    (hpoint : Stops (· == '.') rest) :
    scanFraction atEnd (fraction ++ rest) = .ok (fraction?, rest) := by
  cases h with
  | none =>
    rw [List.nil_append, scanFraction]
    rintro tail rfl
    exact absurd (hpoint '.' rfl) (by decide)
  | digits h => rw [List.cons_append, scanFraction, scanDigits_append h hrest]

theorem scanSign_append (h : IsDigits digits) :
    scanSign (digits ++ rest) = (false, digits ++ rest) := by
  obtain ⟨hne, hdigits⟩ := h
  obtain ⟨c, digits, rfl⟩ := List.exists_cons_of_ne_nil hne
  have hc : c.isDigit := hdigits c List.mem_cons_self
  rw [List.cons_append, scanSign]
  · rintro _ ⟨⟩
    exact absurd hc (by decide)
  · rintro _ ⟨⟩
    exact absurd hc (by decide)

theorem scanExponent_append {atEnd : Fault} {exponent? : Option (Bool × List Char)}
    {exponent : List Char} (h : IsExponent exponent? exponent) (hrest : Stops Char.isDigit rest)
    (hletter : Stops (fun c => c == 'e' || c == 'E') rest) :
    scanExponent atEnd (exponent ++ rest) = .ok (exponent?, rest) := by
  cases h with
  | none =>
    cases rest with
    | nil => rfl
    | cons c rest =>
      have hc : (c == 'e' || c == 'E') = false := hletter c rfl
      simp only [Bool.or_eq_false_iff, beq_eq_false_iff_ne] at hc
      simp [scanExponent, hc]
  | plain he h =>
    simp [scanExponent, he, scanSign_append h, scanDigits_append h hrest]
  | plus he h => simp [scanExponent, he, scanSign, scanDigits_append h hrest]
  | minus he h => simp [scanExponent, he, scanSign, scanDigits_append h hrest]

/-! ### Whole numerals -/

/-- A text that starts with one character or goes on with another text stops a class if both
do. -/
theorem Stops.append {p : Char → Bool} (h : Stops p cs) (hrest : Stops p rest) :
    Stops p (cs ++ rest) := by
  cases cs with
  | nil => exact hrest
  | cons c cs => exact h

theorem IsExponent.stops {exponent? : Option (Bool × List Char)} {exponent : List Char}
    (h : IsExponent exponent? exponent) {p : Char → Bool} (he : p 'e' = false)
    (hE : p 'E' = false) : Stops p exponent := by
  have hstart {e : Char} (hletter : e = 'e' ∨ e = 'E') : p e = false := by
    rcases hletter with rfl | rfl
    · exact he
    · exact hE
  cases h with
  | none => simp [Stops]
  | plain hletter _ | plus hletter _ | minus hletter _ =>
    rintro _ ⟨⟩
    exact hstart hletter

theorem IsFraction.stops {fraction? : Option (List Char)} {fraction : List Char}
    (h : IsFraction fraction? fraction) {p : Char → Bool} (hpoint : p '.' = false) :
    Stops p fraction := by
  cases h with
  | none => simp [Stops]
  | digits _ =>
    rintro _ ⟨⟩
    exact hpoint

/-- A numeral is read whole. -/
theorem scanNumeral_of_hasText {atEnd : Fault} {n : Numeral} (h : n.HasText cs)
    (hrest : Ends rest) : scanNumeral atEnd (cs ++ rest) = .ok (n, rest) := by
  obtain ⟨hsign, hwhole, hfraction, hexponent⟩ := h
  rename_i sign fraction exponent
  have hdigit : Stops Char.isDigit rest := hrest.stops (by decide)
  have hafterFraction : Stops Char.isDigit (exponent ++ rest) :=
    (hexponent.stops (by decide) (by decide)).append hdigit
  have hafterWhole : Stops Char.isDigit (fraction ++ (exponent ++ rest)) :=
    (hfraction.stops (by decide)).append hafterFraction
  have hpoint : Stops (· == '.') (exponent ++ rest) :=
    (hexponent.stops (by decide) (by decide)).append (hrest.stops (by decide))
  have hletter : Stops (fun c => c == 'e' || c == 'E') rest := hrest.stops (by decide)
  obtain ⟨negative, whole, fraction?, exponent?⟩ := n
  -- The whole part starts with a digit, so no sign is read where there is none.
  have hne : ∀ tail, whole ++ (fraction ++ (exponent ++ rest)) ≠ '-' :: tail := by
    intro tail htail
    obtain ⟨hnil, hdigits⟩ := hwhole.isDigits
    obtain ⟨c, whole, rfl⟩ := List.exists_cons_of_ne_nil hnil
    obtain ⟨rfl, -⟩ := List.cons.inj htail
    exact absurd (hdigits _ List.mem_cons_self) (by decide)
  have hreads : scanWhole atEnd (whole ++ (fraction ++ (exponent ++ rest))) =
      .ok (whole, fraction ++ (exponent ++ rest)) := scanWhole_append hwhole hafterWhole
  cases hsign with
  | none =>
    simp [scanNumeral, hreads, scanFraction_append hfraction hafterFraction hpoint,
      scanExponent_append hexponent hdigit hletter, bind, Except.bind, pure, Except.pure]
  | minus =>
    simp [scanNumeral, hreads, scanFraction_append hfraction hafterFraction hpoint,
      scanExponent_append hexponent hdigit hletter, bind, Except.bind, pure, Except.pure]

/-! ### Integers -/

theorem exists_cons_toDigits {n : Nat} (h : 0 < n) :
    ∃ c cs, Nat.toDigits 10 n = c :: cs ∧ c ≠ '0' := by
  have hdigit : ∀ d < 10, 0 < d → Nat.digitChar d ≠ '0' := by decide
  induction n using Nat.strongRecOn with
  | _ n ih =>
    by_cases hn : n < 10
    · exact ⟨Nat.digitChar n, [], Nat.toDigits_of_lt_base hn, hdigit n hn h⟩
    · obtain ⟨c, cs, hdigits, hc⟩ := ih (n / 10) (by omega) (by omega)
      refine ⟨c, cs ++ [Nat.digitChar (n % 10)], ?_, hc⟩
      rw [Nat.toDigits_of_base_le (by omega) (Nat.le_of_not_lt hn), hdigits]
      rfl

theorem isWhole_toDigits (n : Nat) : IsWhole (Nat.toDigits 10 n) := by
  have hdigits : ∀ c ∈ Nat.toDigits 10 n, c.isDigit := fun c hc =>
    Nat.isDigit_of_mem_toDigits (by omega) (by omega) hc
  cases n with
  | zero => exact Nat.toDigits_zero 10 ▸ .zero
  | succ n =>
    obtain ⟨c, cs, htext, hc⟩ := exists_cons_toDigits n.succ_pos
    rw [htext] at hdigits ⊢
    exact .digits hc ⟨List.cons_ne_nil c cs, hdigits⟩

/-- The numeral of an integer. -/
def integerNumeral (i : Int) : Numeral := ⟨decide (i < 0), Nat.toDigits 10 i.natAbs, none, none⟩

theorem hasText_integerText (i : Int) : (integerNumeral i).HasText (integerText i) := by
  have hsign : IsSign (decide (i < 0)) (if i < 0 then ['-'] else []) := by
    split
    · next h => exact decide_eq_true h ▸ .minus
    · next h => exact decide_eq_false h ▸ .none
  have htext : (if i < 0 then ['-'] else []) ++ (Nat.toDigits 10 i.natAbs ++ ([] ++ [])) =
      integerText i := by
    rw [integerText]
    split <;> simp
  rw [← htext]
  exact Numeral.HasText.mk (n := integerNumeral i) hsign (isWhole_toDigits _) .none .none

theorem value_integerNumeral {i : Int} (hlow : -0x8000000000000000 ≤ i)
    (hhigh : i < 0x10000000000000000) : (integerNumeral i).value = .ok (.int i) := by
  have hmagnitude : Nat.ofDigitChars 10 (Nat.toDigits 10 i.natAbs) 0 = i.natAbs :=
    Nat.ofDigitChars_ten_toDigits
  have hplain : (integerNumeral i).isPlain = true := rfl
  have hnegative : (integerNumeral i).negative = decide (i < 0) := rfl
  have hwhole : (integerNumeral i).whole = Nat.toDigits 10 i.natAbs := rfl
  rw [Numeral.value, hplain, hnegative, hwhole, hmagnitude]
  by_cases h : i < 0
  · have hfits : 0 < i.natAbs ∧ i.natAbs ≤ 0x8000000000000000 := by omega
    have habs : -(i.natAbs : Int) = i := by omega
    rw [if_neg (by simp [h]), if_pos (by simp [h, hfits]), habs]
  · have hfits : i.natAbs < 0x10000000000000000 := by omega
    have habs : (i.natAbs : Int) = i := by omega
    rw [if_pos (by simp [h, hfits]), habs]

/-- An integer that fits in 64 bits is read back. -/
theorem readNumber_integerText {i : Int} (hlow : -0x8000000000000000 ≤ i)
    (hhigh : i < 0x10000000000000000) (hrest : Ends rest) :
    readNumber (integerText i ++ rest) = .ok (.int i, rest) := by
  simp only [readNumber, scanNumeral_of_hasText (hasText_integerText i) hrest,
    value_integerNumeral hlow hhigh, bind, Except.bind, pure, Except.pure]

end Relay.Json
