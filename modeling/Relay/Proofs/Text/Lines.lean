import Mathlib.Data.List.Basic
import Relay.Terminal

/-!
# Lines

Bytes are cut into lines behind every line feed. So a line holds no line feed but at its
end, and all lines but perhaps the last end in one; the lines together are the bytes.

What a line says is the text that it spells in UTF-8, without the carriage returns and line
feeds at its end. A line that is not UTF-8 says nothing.

## Main definitions

* `linesOf` — the lines of some bytes.
* `IsLines` — what makes them the lines.
* `Says` — what a line says.

## Main statements

* `isLines_linesOf` — bytes are cut into their lines.
* `takeLine_fst`, `linesOf_takeLine_snd` — taking a line leaves those behind it.
* `says_answerOfLine` — an answer is what the line says.
* `Says.no_lineEnd` — what a line says holds no line feed and ends in no carriage return.
-/

namespace Relay

/-- The lines with a byte put in front of the first of them. -/
def extendFirst (b : UInt8) : List (List UInt8) → List (List UInt8)
  | [] => [[b]]
  | line :: rest => (b :: line) :: rest

/-- The lines of the bytes, each with its line feed. -/
def linesOf : List UInt8 → List (List UInt8)
  | [] => []
  | b :: rest => if b = 10 then [b] :: linesOf rest else extendFirst b (linesOf rest)

/-- The bytes are cut behind every line feed, and nowhere else. -/
structure IsLines (bytes : List UInt8) (lines : List (List UInt8)) : Prop where
  flatten : lines.flatten = bytes
  nonempty : [] ∉ lines
  /-- A line feed stands nowhere but at the end of a line. -/
  inner : ∀ line ∈ lines, 10 ∉ line.dropLast
  /-- All lines but the last end in a line feed. -/
  ended : ∀ line ∈ lines.dropLast, line.getLast? = some 10

/-- What a line says: the text that it spells, without what ends it. -/
inductive Says (line : List UInt8) : Except IoError String → Prop
  /-- The line is UTF-8 for a text, whose end is left out. -/
  | text {kept ending : List Char}
      (hbytes : (String.ofList (kept ++ ending)).toUTF8 = ⟨line.toArray⟩)
      (hending : ∀ c ∈ ending, c = '\r' ∨ c = '\n')
      (hkept : ∀ c, kept.getLast? = some c → c ≠ '\r' ∧ c ≠ '\n') :
      Says line (.ok (String.ofList kept))
  /-- The line is not UTF-8 for any text. -/
  | broken (hbytes : ∀ text : String, text.toUTF8 ≠ ⟨line.toArray⟩) : Says line (.error .notUtf8)

/-! ### Cutting into lines -/

section Cutting

variable {b : UInt8} {bytes : List UInt8} {lines : List (List UInt8)}

theorem extendFirst_flatten : (extendFirst b lines).flatten = b :: lines.flatten := by
  cases lines <;> rfl

theorem flatten_linesOf (bytes : List UInt8) : (linesOf bytes).flatten = bytes := by
  induction bytes with
  | nil => rfl
  | cons b rest ih =>
    rw [linesOf]
    split
    · rw [List.flatten_cons, ih]
      rfl
    · rw [extendFirst_flatten, ih]

theorem IsLines.extendFirst (hb : b ≠ 10) (h : IsLines bytes lines) :
    IsLines (b :: bytes) (extendFirst b lines) := by
  obtain ⟨rfl, hnonempty, hinner, hended⟩ := h
  cases lines with
  | nil => exact ⟨rfl, by simp [Relay.extendFirst], by simp [Relay.extendFirst],
      by simp [Relay.extendFirst]⟩
  | cons line rest =>
    have hline : line ≠ [] := fun h => hnonempty (h ▸ List.mem_cons_self)
    refine ⟨rfl, ?_, ?_, ?_⟩
    · simpa [Relay.extendFirst] using fun h => hnonempty (List.mem_cons_of_mem line h)
    · intro l hl
      rcases List.mem_cons.mp hl with rfl | hl
      · rw [List.dropLast_cons_of_ne_nil hline, List.mem_cons, not_or]
        exact ⟨fun heq => hb heq.symm, hinner line List.mem_cons_self⟩
      · exact hinner l (List.mem_cons_of_mem line hl)
    · intro l hl
      cases rest with
      | nil => simp [Relay.extendFirst] at hl
      | cons next more =>
        rw [Relay.extendFirst, List.dropLast_cons_cons] at hl
        rw [List.dropLast_cons_cons] at hended
        rcases List.mem_cons.mp hl with rfl | hl
        · rw [List.getLast?_cons_of_ne_nil hline]
          exact hended line List.mem_cons_self
        · exact hended l (List.mem_cons_of_mem line hl)

/-- A line that holds nothing but a line feed, in front of others. -/
theorem IsLines.cons_feed (h : IsLines bytes lines) : IsLines (10 :: bytes) ([10] :: lines) := by
  obtain ⟨rfl, hnonempty, hinner, hended⟩ := h
  refine ⟨rfl, by simpa using hnonempty, by simpa using hinner, fun l hl => ?_⟩
  cases lines with
  | nil => simp at hl
  | cons next more =>
    rw [List.dropLast_cons_cons] at hl
    rcases List.mem_cons.mp hl with rfl | hl
    · rfl
    · exact hended l hl

/-- Bytes are cut into their lines. -/
theorem isLines_linesOf (bytes : List UInt8) : IsLines bytes (linesOf bytes) := by
  induction bytes with
  | nil => exact ⟨rfl, by simp [linesOf], by simp [linesOf], by simp [linesOf]⟩
  | cons b rest ih =>
    rw [linesOf]
    split
    · next hb =>
      subst hb
      exact ih.cons_feed
    · next hb => exact ih.extendFirst hb

/-- The line that is taken is the first one; if there is none, it is empty. -/
theorem takeLine_fst (bytes : List UInt8) : (takeLine bytes).1 = (linesOf bytes)[0]?.getD [] := by
  induction bytes with
  | nil => rfl
  | cons b rest ih =>
    rw [takeLine, linesOf]
    split
    · rfl
    · simp only [ih]
      cases linesOf rest <;> rfl

/-- Taking a line leaves the lines behind it. -/
theorem linesOf_takeLine_snd (bytes : List UInt8) :
    linesOf (takeLine bytes).2 = (linesOf bytes).tail := by
  induction bytes with
  | nil => rfl
  | cons b rest ih =>
    rw [takeLine, linesOf]
    split
    · rfl
    · simp only [ih]
      cases linesOf rest <;> rfl

end Cutting

/-! ### What a line says -/

/-- An answer is what the line says. -/
theorem says_answerOfLine (line : List UInt8) : Says line (answerOfLine line) := by
  rw [answerOfLine]
  by_cases hvalid : ByteArray.IsValidUTF8 ⟨line.toArray⟩
  · rw [String.fromUTF8?, dif_pos hvalid]
    simp only
    generalize htext : String.fromUTF8 ⟨line.toArray⟩ hvalid = text
    have hbytes : text.toUTF8 = ⟨line.toArray⟩ := htext ▸ rfl
    obtain ⟨ending, hsplit, hending⟩ :=
      Text.exists_dropTrailing_append isLineEnd text.toList
    refine @Says.text line _ ending ?_ (fun c hc => ?_) (fun c hc => ?_)
    · rw [← hsplit, String.ofList_toList, hbytes]
    · simpa [isLineEnd] using hending c hc
    · simpa [isLineEnd] using Text.getLast?_dropTrailing hc
  · rw [String.fromUTF8?, dif_neg hvalid]
    refine .broken fun text htext => hvalid ?_
    rw [← htext]
    exact text.isValidUTF8

/-- A line feed in a text stands in its bytes as well, before those of what comes behind. -/
theorem feed_mem_dropLast (before : List Char) {after : List Char} {bytes : List UInt8}
    (hafter : after ≠ [])
    (h : (String.ofList (before ++ '\n' :: after)).toUTF8 = ⟨bytes.toArray⟩) :
    10 ∈ bytes.dropLast := by
  have hbytes : bytes = (before ++ '\n' :: after).flatMap String.utf8EncodeChar := by
    rw [String.toUTF8, String.toByteArray_ofList, List.utf8Encode] at h
    have hdata := congrArg (fun b : ByteArray => b.data.toList) h
    simpa using hdata.symm
  have hrest : after.flatMap String.utf8EncodeChar ≠ [] := by
    obtain ⟨c, rest, rfl⟩ := List.exists_cons_of_ne_nil hafter
    rw [List.flatMap_cons]
    exact List.append_ne_nil_of_left_ne_nil String.utf8EncodeChar_ne_nil _
  have hsplit : bytes = (before.flatMap String.utf8EncodeChar ++ [10]) ++
      after.flatMap String.utf8EncodeChar := by
    rw [hbytes, List.flatMap_append, List.flatMap_cons, List.append_assoc]
    rfl
  rw [hsplit, List.dropLast_append_of_ne_nil hrest]
  simp

/-- What a line says holds no line feed and ends in no carriage return. -/
theorem Says.no_lineEnd {line : List UInt8} {text : String} (h : Says line (.ok text))
    (hline : 10 ∉ line.dropLast) : '\n' ∉ text.toList ∧ text.toList.getLast? ≠ some '\r' := by
  generalize hsaid : (.ok text : Except IoError String) = said at h
  cases h with
  | broken => exact nomatch hsaid
  | @text kept ending hbytes _ hkept =>
    cases hsaid
    rw [String.toList_ofList]
    refine ⟨fun hfeed => ?_, fun hlast => (hkept '\r' hlast).1 rfl⟩
    obtain ⟨before, after, rfl⟩ := List.append_of_mem hfeed
    have hbehind : after ++ ending ≠ [] := by
      intro hnone
      obtain ⟨rfl, -⟩ := List.append_eq_nil_iff.mp hnone
      exact (hkept '\n' List.getLast?_concat).2 rfl
    refine hline (feed_mem_dropLast before hbehind ?_)
    rw [← hbytes, List.append_assoc, List.cons_append]

/-- Where there is no line, the answer is empty. -/
theorem answerOfLine_nil : answerOfLine [] = .ok "" := by decide +kernel

end Relay
