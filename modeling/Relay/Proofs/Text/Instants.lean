import Relay.Proofs.Json.Numerals
import Relay.Timestamp

/-!
# Instants as texts

The numbers of an instant are written with leading zeros up to a width, and a sign, a
letter, a colon or a point stands between any two of them. So the reader, which takes as
many digits as it is allowed to, takes exactly those of one number, and finds every number
that was written.

## Main statements

* `Timestamp.takeNumber_padded` — a number is found behind its leading zeros.
* `Timestamp.takeDate_append`, `Timestamp.takeFraction_append` — a date and a part of a second
  are found.
* `Timestamp.ofText?_text` — an instant is read back as it was.
-/

namespace Relay.Timestamp

open Json (IsDigits Stops)

variable {digits rest : List Char} {n : Nat}

/-! ### Digits -/

theorem skipBlanks_cons {c : Char} (hc : Text.isBlank c = false) :
    skipBlanks (c :: rest) = c :: rest :=
  List.dropWhile_cons_of_neg (by simp [hc])

theorem isBlank_of_isDigit {c : Char} (h : c.isDigit) : Text.isBlank c = false := by
  simp only [Char.isDigit, Bool.and_eq_true, decide_eq_true_eq, ge_iff_le, UInt32.le_iff_toNat_le]
    at h
  have hlow : 48 ≤ c.toNat := h.1
  have hhigh : c.toNat ≤ 57 := h.2
  simp only [Text.isBlank, Bool.or_eq_false_iff, Bool.and_eq_false_iff, decide_eq_false_iff_not,
    beq_eq_false_iff_ne]
  omega

theorem skipBlanks_digits (h : IsDigits digits) : skipBlanks (digits ++ rest) = digits ++ rest := by
  obtain ⟨hne, hdigits⟩ := h
  obtain ⟨c, digits, rfl⟩ := List.exists_cons_of_ne_nil hne
  exact skipBlanks_cons (isBlank_of_isDigit (hdigits c List.mem_cons_self))

theorem takeNumber_append {limit : Nat} (h : IsDigits digits) (hlength : digits.length ≤ limit)
    (hrest : Stops Char.isDigit rest) :
    takeNumber limit (digits ++ rest) = some (Nat.ofDigitChars 10 digits 0, rest) := by
  obtain ⟨hne, hdigits⟩ := h
  have htail : Stops Char.isDigit (rest.take (limit - digits.length)) := by
    cases rest with
    | nil => simp [Stops]
    | cons c rest =>
      cases limit - digits.length with
      | zero => simp [Stops]
      | succ k => exact hrest
  have htaken : ((digits ++ rest).take limit).takeWhile Char.isDigit = digits := by
    rw [List.take_append, List.take_of_length_le hlength, List.takeWhile_append_of_pos hdigits,
      Json.takeWhile_of_stops htail, List.append_nil]
  simp [takeNumber, htaken, hne]

/-! ### Numbers with leading zeros -/

theorem length_padded {width : Nat} (hwidth : 0 < width) (h : n < Nat.pow 10 width) :
    (padded width n).length = width := by
  have hlength := (Nat.length_toDigits_le_iff (by omega) hwidth).mpr h
  simp only [padded, List.length_append, List.length_replicate]
  omega

theorem isDigits_padded (width n : Nat) : IsDigits (padded width n) := by
  refine ⟨by simp [padded], fun c hc => ?_⟩
  rcases List.mem_append.mp hc with hc | hc
  · obtain ⟨-, rfl⟩ := List.mem_replicate.mp hc
    decide
  · exact Nat.isDigit_of_mem_toDigits (by omega) (by omega) hc

theorem ofDigitChars_padded (width n : Nat) : Nat.ofDigitChars 10 (padded width n) 0 = n := by
  rw [padded, Nat.ofDigitChars_append, Nat.ofDigitChars_replicate_zero, Nat.mul_zero,
    Nat.ofDigitChars_ten_toDigits]

/-- A number is found behind its leading zeros. -/
theorem takeNumber_padded {width limit : Nat} (hlength : (padded width n).length ≤ limit)
    (hrest : Stops Char.isDigit rest) :
    takeNumber limit (padded width n ++ rest) = some (n, rest) := by
  rw [takeNumber_append (isDigits_padded width n) hlength hrest, ofDigitChars_padded]

theorem takePart_padded (h : n < 100) (hrest : Stops Char.isDigit rest) :
    takePart (padded 2 n ++ rest) = some (n, rest) := by
  rw [takePart, skipBlanks_digits (isDigits_padded 2 n)]
  exact takeNumber_padded (Nat.le_of_eq (length_padded (by decide) h)) hrest

theorem takeSeparator_cons {c : Char} (hc : Text.isBlank c = false) :
    takeSeparator c (c :: rest) = some rest := by
  simp [takeSeparator, skipBlanks_cons hc]

/-! ### Dates -/

theorem takeYear_digits (h : IsDigits digits) :
    takeYear (digits ++ rest) =
      (takeNumber 4 (digits ++ rest)).map fun (n, rest) => ((n : Int), rest) := by
  have hskip : skipBlanks (digits ++ rest) = digits ++ rest := skipBlanks_digits h
  obtain ⟨hne, hdigits⟩ := h
  obtain ⟨c, digits, rfl⟩ := List.exists_cons_of_ne_nil hne
  have hc : c.isDigit := hdigits c List.mem_cons_self
  rw [List.cons_append] at hskip ⊢
  rw [takeYear, hskip]
  split
  · next hcons =>
    obtain ⟨rfl, -⟩ := List.cons.inj hcons
    exact absurd hc (by decide)
  · next hcons =>
    obtain ⟨rfl, -⟩ := List.cons.inj hcons
    exact absurd hc (by decide)
  · rfl

theorem takeYear_yearText (year : Int) (hrest : Stops Char.isDigit rest) :
    takeYear (yearText year ++ rest) = some (year, rest) := by
  have hsigned : takeNumber (padded 4 year.natAbs ++ rest).length (padded 4 year.natAbs ++ rest) =
      some (year.natAbs, rest) := takeNumber_padded (by simp) hrest
  rw [yearText]
  split
  · next h =>
    simp only [Bool.and_eq_true, decide_eq_true_eq] at h
    have hfour : year.natAbs < 10000 := by omega
    have hlength : (padded 4 year.natAbs).length ≤ 4 :=
      Nat.le_of_eq (length_padded (by decide) hfour)
    have hyear : (year.natAbs : Int) = year := by omega
    rw [takeYear_digits (isDigits_padded 4 year.natAbs), takeNumber_padded hlength hrest]
    simp only [Option.map_some, hyear]
  · next h =>
    simp only [Bool.and_eq_true, decide_eq_true_eq] at h
    rw [List.cons_append]
    split
    · next hnegative =>
      have hyear : -(year.natAbs : Int) = year := by omega
      simp only [takeYear, skipBlanks_cons (show Text.isBlank '-' = false by decide), hsigned,
        Option.map_some, hyear]
    · next hpositive =>
      have hyear : (year.natAbs : Int) = year := by omega
      simp only [takeYear, skipBlanks_cons (show Text.isBlank '+' = false by decide), hsigned,
        Option.map_some, hyear]

theorem stops_cons {c : Char} (hc : c.isDigit = false) : Stops Char.isDigit (c :: rest) := by
  rintro _ ⟨⟩
  exact hc

/-- A date is found. -/
theorem takeDate_append (date : Date) (hrest : Stops Char.isDigit rest) :
    takeDate (yearText date.year ++ '-' :: (padded 2 date.month ++ '-' ::
      (padded 2 date.day ++ rest))) = some (date, rest) := by
  have hmonth : date.month < 100 := Nat.lt_of_le_of_lt date.month_range.2 (by decide)
  have hday : date.day < 100 := by
    have hrange := date.day_range
    have hmost : daysInMonth date.year date.month ≤ 31 := by
      rw [daysInMonth]
      split_ifs <;> omega
    omega
  have hdash : ∀ cs, Stops Char.isDigit ('-' :: cs) := fun _ => stops_cons (by decide)
  simp [takeDate, takeYear_yearText date.year (hdash _), takePart_padded hmonth (hdash _),
    takePart_padded hday hrest, takeSeparator_cons (show Text.isBlank '-' = false by decide)]

/-! ### Parts of a second -/

/-- The digits behind a point are found, and count as so many nanoseconds. -/
theorem takeFraction_padded {width : Nat} (hwidth : 0 < width) (hnine : width ≤ 9)
    (hn : n < Nat.pow 10 width) (hrest : Stops Char.isDigit rest) :
    takeFraction ('.' :: (padded width n ++ rest)) = some (n * Nat.pow 10 (9 - width), rest) := by
  obtain ⟨hne, hdigits⟩ := isDigits_padded width n
  have hlength := length_padded hwidth hn
  have htaken : (padded width n ++ rest).takeWhile Char.isDigit = padded width n := by
    rw [List.takeWhile_append_of_pos hdigits, Json.takeWhile_of_stops hrest, List.append_nil]
  have hcounted : (padded width n).take 9 = padded width n :=
    List.take_of_length_le (by omega)
  simp [takeFraction, htaken, hcounted, hne, hlength, ofDigitChars_padded]

/-- The part of a second is found, with as many digits as it is written with. -/
theorem takeFraction_append (hn : n < 1000000000) :
    takeFraction (fractionText n ++ ['Z']) = some (n, ['Z']) := by
  have hrest : Stops Char.isDigit ['Z'] := stops_cons (by decide)
  rw [fractionText]
  split_ifs with hzero hmilli hmicro
  · rw [hzero]
    rfl
  · have hdigits : n / 1000000 < 1000 := by omega
    have hvalue : n / 1000000 * 1000000 = n := by omega
    rw [List.cons_append, takeFraction_padded (by decide) (by decide) hdigits hrest]
    exact congrArg (fun n => some (n, ['Z'])) hvalue
  · have hdigits : n / 1000 < 1000000 := by omega
    have hvalue : n / 1000 * 1000 = n := by omega
    rw [List.cons_append, takeFraction_padded (by decide) (by decide) hdigits hrest]
    exact congrArg (fun n => some (n, ['Z'])) hvalue
  · rw [List.cons_append, takeFraction_padded (by decide) (by decide) hn hrest]
    exact congrArg (fun n => some (n, ['Z'])) (Nat.mul_one n)

/-! ### Instants -/

theorem ofLocal?_self (t : Timestamp) :
    ofLocal? t.date t.hour t.minute t.second t.nanosecond 0 = some t := by
  have hhour := t.hour_lt
  have hminute := t.minute_lt
  have hhours : (t.hour * 60 + t.minute) / 60 = t.hour := by omega
  have hminutes : (t.hour * 60 + t.minute) % 60 = t.minute := by omega
  have hlow : ¬ ((t.hour * 60 + t.minute : Nat) : Int) < 0 := by omega
  have hhigh : ¬ 1440 ≤ ((t.hour * 60 + t.minute : Nat) : Int) := by omega
  simp only [ofLocal?, Int.sub_zero, if_neg hlow, if_neg hhigh, Int.toNat_natCast, hhours, hminutes,
    of?_self]

/-- An instant is read back as it was. -/
theorem ofText?_text (t : Timestamp) : ofText? t.text = some t := by
  have hcolon : ∀ cs, Stops Char.isDigit (':' :: cs) := fun _ => stops_cons (by decide)
  have hfraction : Stops Char.isDigit (fractionText t.nanosecond ++ ['Z']) := by
    rw [fractionText]
    split_ifs <;> exact stops_cons (by decide)
  have hdivider : ∀ cs, Stops Char.isDigit ('T' :: cs) := fun _ => stops_cons (by decide)
  have hhour : t.hour < 100 := Nat.lt_trans t.hour_lt (by decide)
  have hminute : t.minute < 100 := Nat.lt_trans t.minute_lt (by decide)
  have hsecond : t.second < 100 := Nat.lt_of_le_of_lt t.second_le (by decide)
  have hoffset : takeOffset (skipBlanks ['Z']) = some (0, []) := rfl
  have hend : skipBlanks [] = [] := rfl
  simp [ofText?, text, chars, ofChars?, takeDate_append t.date (hdivider _), takeDivider,
    takePart_padded hhour (hcolon _), takePart_padded hminute (hcolon _),
    takePart_padded hsecond hfraction,
    takeSeparator_cons (show Text.isBlank ':' = false by decide),
    takeFraction_append t.nanosecond_lt, hoffset, hend, t.hour_lt, t.minute_lt, ofLocal?_self]

end Relay.Timestamp
