import Mathlib.Data.List.Basic
import Relay.Json.Record

/-!
# String literals

Between the quotes of a literal a character stands for itself, unless it is a quote, a
backslash or below U+0020. An escape stands for a character in a shorter or a longer form,
and a character beyond U+FFFF is written as a pair of halves in the longer form. So one
string has many literals, and all of them are read as it. A literal that is passed over
need not spell anything: there the halves of a pair may also stand alone.

## Main definitions

* `Json.Spaces` — blanks between the pieces of a text.
* `Json.Spells` — what the characters between the quotes of a literal stand for.
* `Json.IsQuotable` — what may stand between the quotes of a literal that is passed over.

## Main statements

* `Json.readString_of_spells` — a literal is read as what it spells.
* `Json.spells_escape` — the literal that is written spells the string.
* `Json.skipString_of_isQuotable` — a literal is passed over up to its closing quote.
-/

namespace Relay.Json

/-! ### Blanks -/

/-- All characters may stand between the pieces of a text. -/
def Spaces (cs : List Char) : Prop := ∀ c ∈ cs, isSpace c

instance (cs : List Char) : Decidable (Spaces cs) :=
  decidable_of_iff (cs.all isSpace = true) List.all_eq_true

theorem spaces_nil : Spaces [] := List.forall_mem_nil _

variable {blanks cs rest : List Char}

theorem skipSpaces_append (h : Spaces blanks) : skipSpaces (blanks ++ cs) = skipSpaces cs :=
  List.dropWhile_append_of_pos h

theorem skipSpaces_cons {c : Char} (h : isSpace c = false) : skipSpaces (c :: cs) = c :: cs :=
  List.dropWhile_cons_of_neg (by simp [h])

theorem skipSpaces_append_cons (hblanks : Spaces blanks) {c : Char} (h : isSpace c = false) :
    skipSpaces (blanks ++ c :: cs) = c :: cs := by
  rw [skipSpaces_append hblanks, skipSpaces_cons h]

theorem skipSpaces_of_spaces (h : Spaces blanks) : skipSpaces blanks = [] := by
  have hdropped : skipSpaces (blanks ++ []) = [] := skipSpaces_append h
  rwa [List.append_nil] at hdropped

/-! ### Hexadecimal digits -/

/-- The character is the hexadecimal digit of the number, in lower or upper case. -/
def IsHexDigit (c : Char) (n : Nat) : Prop :=
  n < 16 ∧ (c = Nat.digitChar n ∨ c = (Nat.digitChar n).toUpper)

instance (c : Char) (n : Nat) : Decidable (IsHexDigit c n) :=
  inferInstanceAs (Decidable (n < 16 ∧ (c = Nat.digitChar n ∨ c = (Nat.digitChar n).toUpper)))

/-- Four hexadecimal digits of the number. -/
inductive IsHexQuad : List Char → Nat → Prop
  | mk {a b c d : Char} {w x y z : Nat} (ha : IsHexDigit a w) (hb : IsHexDigit b x)
      (hc : IsHexDigit c y) (hd : IsHexDigit d z) :
      IsHexQuad [a, b, c, d] (((w * 16 + x) * 16 + y) * 16 + z)

theorem hexDigit?_of_isHexDigit {c : Char} {n : Nat} (h : IsHexDigit c n) :
    hexDigit? c = some n := by
  obtain ⟨hn, hc⟩ := h
  have hall : ∀ m < 16, hexDigit? (Nat.digitChar m) = some m ∧
      hexDigit? (Nat.digitChar m).toUpper = some m := by decide
  rcases hc with rfl | rfl
  · exact (hall n hn).1
  · exact (hall n hn).2

theorem exists_of_isHexQuad {digits : List Char} {n : Nat} (h : IsHexQuad digits n) :
    ∃ a b c d, digits = [a, b, c, d] ∧ hexQuad? a b c d = some n := by
  obtain @⟨a, b, c, d, w, x, y, z, ha, hb, hc, hd⟩ := h
  refine ⟨a, b, c, d, rfl, ?_⟩
  simp [hexQuad?, hexDigit?_of_isHexDigit ha, hexDigit?_of_isHexDigit hb,
    hexDigit?_of_isHexDigit hc, hexDigit?_of_isHexDigit hd]

/-! ### Literals that spell a string -/

/-- The letters of the shorter escapes, each with the character that it stands for. -/
def shortEscapes : List (Char × Char) :=
  [('"', '"'), ('\\', '\\'), ('/', '/'), ('b', '\x08'), ('f', '\x0c'), ('n', '\n'), ('r', '\r'),
    ('t', '\t')]

/-- The character may stand for itself in a literal. -/
def IsPlain (c : Char) : Prop := 0x20 ≤ c.toNat ∧ c ≠ '"' ∧ c ≠ '\\'

instance (c : Char) : Decidable (IsPlain c) :=
  inferInstanceAs (Decidable (0x20 ≤ c.toNat ∧ c ≠ '"' ∧ c ≠ '\\'))

/-- The first half of the pair that stands for a character beyond U+FFFF. -/
def highHalf (c : Char) : Nat := 0xD800 + (c.toNat - 0x10000) / 0x400

/-- The second half of the pair that stands for a character beyond U+FFFF. -/
def lowHalf (c : Char) : Nat := 0xDC00 + (c.toNat - 0x10000) % 0x400

/-- The characters between the quotes of a literal stand for these characters. -/
inductive Spells : List Char → List Char → Prop
  | nil : Spells [] []
  | plain {c : Char} {cs s : List Char} (hc : IsPlain c) (h : Spells cs s) :
      Spells (c :: cs) (c :: s)
  | short {letter c : Char} {cs s : List Char} (hc : (letter, c) ∈ shortEscapes)
      (h : Spells cs s) : Spells ('\\' :: letter :: cs) (c :: s)
  | long {digits : List Char} {c : Char} {cs s : List Char} (hc : IsHexQuad digits c.toNat)
      (h : Spells cs s) : Spells ('\\' :: 'u' :: digits ++ cs) (c :: s)
  | pair {high low : List Char} {c : Char} {cs s : List Char} (hc : 0x10000 ≤ c.toNat)
      (hhigh : IsHexQuad high (highHalf c)) (hlow : IsHexQuad low (lowHalf c))
      (h : Spells cs s) : Spells ('\\' :: 'u' :: high ++ '\\' :: 'u' :: low ++ cs) (c :: s)

/-! #### Reading -/

theorem readChars_plain {c : Char} (hc : IsPlain c) :
    readChars (c :: cs) = pushChar c (readChars cs) := by
  obtain ⟨hlow, hquote, hbackslash⟩ := hc
  rw [readChars]
  · exact if_neg (Nat.not_lt.mpr hlow)
  all_goals simp_all

theorem simpleEscape?_of_mem {letter c : Char} (hc : (letter, c) ∈ shortEscapes) :
    simpleEscape? letter = some c ∧ letter ≠ 'u' := by
  revert hc
  simp only [shortEscapes, List.mem_cons, Prod.mk.injEq, List.not_mem_nil, or_false]
  rintro (⟨rfl, rfl⟩ | ⟨rfl, rfl⟩ | ⟨rfl, rfl⟩ | ⟨rfl, rfl⟩ | ⟨rfl, rfl⟩ | ⟨rfl, rfl⟩ |
    ⟨rfl, rfl⟩ | ⟨rfl, rfl⟩) <;> decide

theorem readChars_short {letter c : Char} (hc : (letter, c) ∈ shortEscapes) :
    readChars ('\\' :: letter :: cs) = pushChar c (readChars cs) := by
  obtain ⟨hletter, hne⟩ := simpleEscape?_of_mem hc
  rw [readChars]
  · rw [hletter]
  all_goals simp_all

theorem isHighHalf_iff {n : Nat} : isHighHalf n ↔ 0xD800 ≤ n ∧ n ≤ 0xDBFF := by
  simp [isHighHalf]

theorem isLowHalf_iff {n : Nat} : isLowHalf n ↔ 0xDC00 ≤ n ∧ n ≤ 0xDFFF := by
  simp [isLowHalf]

/-- No character has the number of a half. -/
theorem toNat_valid (c : Char) : c.toNat < 0xD800 ∨ 0xDFFF < c.toNat ∧ c.toNat < 0x110000 :=
  c.valid

theorem readChars_long {digits : List Char} {c : Char} (hc : IsHexQuad digits c.toNat) :
    readChars ('\\' :: 'u' :: digits ++ cs) = pushChar c (readChars cs) := by
  obtain ⟨x, y, z, w, rfl, hquad⟩ := exists_of_isHexQuad hc
  have hvalid := toNat_valid c
  have hnotLow : ¬ isLowHalf c.toNat := by
    rw [isLowHalf_iff]
    omega
  have hnotHigh : ¬ isHighHalf c.toNat := by
    rw [isHighHalf_iff]
    omega
  simp only [List.cons_append, List.nil_append, readChars, hquad, if_neg hnotLow,
    if_neg hnotHigh, Char.ofNat_toNat]

theorem isLowHalf_lowHalf (c : Char) : isLowHalf (lowHalf c) := by
  rw [isLowHalf_iff, lowHalf]
  omega

section Pairs

variable {c : Char} (hc : 0x10000 ≤ c.toNat)

include hc

theorem isHighHalf_highHalf : isHighHalf (highHalf c) := by
  have hvalid := toNat_valid c
  rw [isHighHalf_iff, highHalf]
  omega

theorem pairChar_halves : pairChar (highHalf c) (lowHalf c) = c := by
  have hsum : (highHalf c - 0xD800) * 0x400 + (lowHalf c - 0xDC00) + 0x10000 = c.toNat := by
    rw [highHalf, lowHalf]
    omega
  rw [pairChar, hsum, Char.ofNat_toNat]

theorem readChars_pair {high low : List Char} (hhigh : IsHexQuad high (highHalf c))
    (hlow : IsHexQuad low (lowHalf c)) :
    readChars ('\\' :: 'u' :: high ++ '\\' :: 'u' :: low ++ cs) = pushChar c (readChars cs) := by
  obtain ⟨x, y, z, w, rfl, hquad⟩ := exists_of_isHexQuad hhigh
  obtain ⟨x', y', z', w', rfl, hquad'⟩ := exists_of_isHexQuad hlow
  have hisHigh := isHighHalf_highHalf hc
  have hnotLow : ¬ isLowHalf (highHalf c) := by
    rw [isHighHalf_iff] at hisHigh
    rw [isLowHalf_iff]
    omega
  simp only [List.cons_append, List.nil_append, readChars, hquad, hquad', if_neg hnotLow,
    if_pos hisHigh, if_pos (isLowHalf_lowHalf c), pairChar_halves hc]

end Pairs

theorem readChars_of_spells {s : List Char} (h : Spells cs s) :
    readChars (cs ++ '"' :: rest) = .ok (s, rest) := by
  induction h with
  | nil => simp [readChars]
  | plain hc _ ih => rw [List.cons_append, readChars_plain hc, ih, pushChar]
  | short hc _ ih => rw [List.cons_append, List.cons_append, readChars_short hc, ih, pushChar]
  | long hc _ ih => rw [List.append_assoc, readChars_long hc, ih, pushChar]
  | pair hc hhigh hlow _ ih =>
    rw [List.append_assoc, readChars_pair hc hhigh hlow, ih, pushChar]

/-- A literal is read as what it spells. -/
theorem readString_of_spells {s : String} (h : Spells cs s.toList) :
    readString (cs ++ '"' :: rest) = .ok (s, rest) := by
  rw [readString, readChars_of_spells h]
  simp only [String.ofList_toList]

/-! #### Writing -/

theorem isHexQuad_hexPair {n : Nat} (h : n < 256) : IsHexQuad ('0' :: '0' :: hexPair n) n := by
  have hzero : IsHexDigit '0' 0 := ⟨by decide, .inl rfl⟩
  have hhigh : IsHexDigit (Nat.digitChar (n / 16)) (n / 16) := ⟨by omega, .inl rfl⟩
  have hlow : IsHexDigit (Nat.digitChar (n % 16)) (n % 16) := ⟨by omega, .inl rfl⟩
  have hvalue : ((0 * 16 + 0) * 16 + n / 16) * 16 + n % 16 = n := by omega
  have hquad : IsHexQuad ('0' :: '0' :: hexPair n) (((0 * 16 + 0) * 16 + n / 16) * 16 + n % 16) :=
    .mk hzero hzero hhigh hlow
  rwa [hvalue] at hquad

/-- The escape of a character spells it. -/
theorem Spells.escape_append {s : List Char} (c : Char) (h : Spells cs s) :
    Spells (escape c ++ cs) (c :: s) := by
  rw [escape]
  split_ifs with hquote hbackslash hbackspace hfeed hline hreturn htab hlow
  · exact .short (by simp [shortEscapes, hquote]) h
  · exact .short (by simp [shortEscapes, hbackslash]) h
  · exact .short (by simp [shortEscapes, hbackspace]) h
  · exact .short (by simp [shortEscapes, hfeed]) h
  · exact .short (by simp [shortEscapes, hline]) h
  · exact .short (by simp [shortEscapes, hreturn]) h
  · exact .short (by simp [shortEscapes, htab]) h
  · exact .long (isHexQuad_hexPair (by omega)) h
  · exact .plain ⟨Nat.not_lt.mp hlow, hquote, hbackslash⟩ h

/-- The literal that is written spells the string. -/
theorem spells_escape (s : List Char) : Spells (s.flatMap escape) s := by
  induction s with
  | nil => exact .nil
  | cons c s ih =>
    rw [List.flatMap_cons]
    exact ih.escape_append c

/-! ### Literals that are passed over -/

/-- What may stand between the quotes of a literal that is passed over: any escape has its
form, whatever it stands for. -/
inductive IsQuotable : List Char → Prop
  | nil : IsQuotable []
  | plain {c : Char} {cs : List Char} (hc : IsPlain c) (h : IsQuotable cs) : IsQuotable (c :: cs)
  | short {letter c : Char} {cs : List Char} (hc : (letter, c) ∈ shortEscapes)
      (h : IsQuotable cs) : IsQuotable ('\\' :: letter :: cs)
  | long {digits : List Char} {n : Nat} {cs : List Char} (hn : IsHexQuad digits n)
      (h : IsQuotable cs) : IsQuotable ('\\' :: 'u' :: digits ++ cs)

/-- A literal is passed over up to its closing quote. -/
theorem skipString_of_isQuotable (h : IsQuotable cs) :
    skipString (cs ++ '"' :: rest) = .ok rest := by
  induction h with
  | nil => simp [skipString]
  | plain hc _ ih =>
    obtain ⟨hlow, hquote, hbackslash⟩ := hc
    rw [List.cons_append, skipString]
    · rw [if_neg (Nat.not_lt.mpr hlow), ih]
    all_goals simp_all
  | short hc _ ih =>
    obtain ⟨hletter, hne⟩ := simpleEscape?_of_mem hc
    rw [List.cons_append, List.cons_append, skipString]
    · rw [hletter, Option.isSome_some, if_pos rfl, ih]
    all_goals simp_all
  | long hn _ ih =>
    obtain ⟨x, y, z, w, rfl, hquad⟩ := exists_of_isHexQuad hn
    simp only [List.cons_append, List.nil_append, skipString, hquad, Option.isSome_some, if_true,
      ih]

end Relay.Json
