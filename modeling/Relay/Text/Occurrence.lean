/-!
# Occurrences

## Main definitions

* `occursIn` — a text occurs somewhere in another.
-/

namespace Relay.Text

/-- The text occurs in the other one, as a run of consecutive characters. -/
def occursIn (needle : List Char) : List Char → Bool
  | [] => needle.isEmpty
  | c :: rest => needle.isPrefixOf (c :: rest) || occursIn needle rest

/-- A text occurs in another exactly when something can be put before and after
it to give the other. -/
theorem occursIn_iff {needle cs : List Char} :
    occursIn needle cs ↔ ∃ before after, cs = before ++ needle ++ after := by
  induction cs with
  | nil =>
    rw [occursIn, List.isEmpty_iff]
    constructor
    · rintro rfl; exact ⟨[], [], rfl⟩
    · rintro ⟨before, after, h⟩; simp_all
  | cons c rest ih =>
    rw [occursIn, Bool.or_eq_true, List.isPrefixOf_iff_prefix, ih]
    constructor
    · rintro (⟨after, h⟩ | ⟨before, after, h⟩)
      · exact ⟨[], after, by simpa using h.symm⟩
      · exact ⟨c :: before, after, by simp [h]⟩
    · rintro ⟨before, after, h⟩
      cases before with
      | nil => exact .inl ⟨after, by simpa using h.symm⟩
      | cons d before =>
        simp only [List.cons_append, List.cons.injEq] at h
        exact .inr ⟨before, after, h.2⟩

end Relay.Text
