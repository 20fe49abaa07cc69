import Relay.Proofs.Journal.Growth

/-!
# Texts tracked in a history

A history starts with some names listed, and then texts are tracked, each under a name that
may be listed or not. Whatever the names and the texts, nothing is lost and nothing comes
about by itself: under each name are the texts that were tracked under it, in their order,
and the names listed are those of the start and those that were tracked under.

What is tracked under one name is not seen under another. So it makes no difference how
the texts of several agents are mixed, as long as each agent's own texts stay in order.

## Main definitions

* `History.trackAll` — texts tracked one after the other.
* `History.Mixes` — calls that take the next text of one agent or another.

## Main statements

* `History.ext_get` — a history is known by its names and the texts under them.
* `History.trackAll_exact` — what a history holds after any calls.
-/

namespace Relay

namespace History

/-- The history after texts are tracked one after the other, each under its name. -/
def trackAll (h : History) (calls : List (String × String)) : History :=
  calls.foldl (fun h call => h.track call.1 call.2) h

/-- The texts that are tracked under a name, the earliest first. -/
def textsUnder (name : String) (calls : List (String × String)) : List String :=
  (calls.filter (·.1 = name)).map Prod.snd

theorem textsUnder_cons (name : String) (call : String × String) (calls : List (String × String)) :
    textsUnder name (call :: calls) =
      if call.1 = name then call.2 :: textsUnder name calls else textsUnder name calls := by
  rw [textsUnder, List.filter_cons]
  by_cases h : call.1 = name
  · simp [h, textsUnder]
  · simp [h, textsUnder]

/-! ### What is listed and what is there -/

/-- A name that is listed has its texts, and no other has any. -/
theorem find?_eq (h : History) (name : String) :
    h.table.find? name = if h.table.contains name then some (h.get name) else none := by
  rw [Table.contains, get]
  cases h.table.find? name <;> rfl

theorem mem_snapshot_iff {h : History} {name : String} {texts : List String} :
    (name, texts) ∈ h.snapshot ↔ h.table.contains name ∧ texts = h.get name := by
  rw [snapshot, ← Table.find?_eq_some_iff, find?_eq]
  by_cases hlisted : h.table.contains name
  · simp [hlisted, eq_comm]
  · simp [hlisted]

/-- Histories that list the same names, with the same texts, are the same. -/
theorem ext_get {h k : History}
    (hlisted : ∀ name, h.table.contains name ↔ k.table.contains name)
    (hget : ∀ name, h.get name = k.get name) : h = k := by
  have htable : h.table = k.table := Table.ext_find? fun name => by
    rw [find?_eq, find?_eq, hget name, Bool.eq_iff_iff.mpr (hlisted name)]
  cases h
  cases k
  exact congrArg mk htable

theorem contains_foldl_seed (names : List String) (h : History) (name : String) :
    (names.foldl seed h).table.contains name ↔ h.table.contains name ∨ name ∈ names := by
  induction names generalizing h with
  | nil => simp
  | cons n names ih =>
    rw [List.foldl_cons, ih, seed, Table.contains_insert, List.mem_cons, eq_comm (a := name)]
    tauto

theorem contains_ofNames (names : List String) (name : String) :
    (ofNames names).table.contains name ↔ name ∈ names := by
  rw [ofNames, contains_foldl_seed]
  exact or_iff_right Bool.false_ne_true

/-! ### Calls one after the other -/

section Calls

variable (h : History) (calls : List (String × String))

/-- Behind the texts that were there before are those that are tracked under the name. -/
theorem get_trackAll (name : String) :
    (h.trackAll calls).get name = h.get name ++ textsUnder name calls := by
  induction calls generalizing h with
  | nil => exact (List.append_nil _).symm
  | cons call calls ih =>
    rw [trackAll, List.foldl_cons, ← trackAll, ih, get_track, textsUnder_cons]
    split
    · rw [List.append_assoc, List.singleton_append]
    · rfl

/-- Every call adds one text. -/
theorem total_trackAll : (h.trackAll calls).total = h.total + calls.length := by
  induction calls generalizing h with
  | nil => rfl
  | cons call calls ih =>
    rw [trackAll, List.foldl_cons, ← trackAll, ih, total_track, List.length_cons]
    omega

/-- A name is listed that was listed before, or under which a text is tracked. -/
theorem contains_trackAll (name : String) :
    (h.trackAll calls).table.contains name ↔
      h.table.contains name ∨ textsUnder name calls ≠ [] := by
  induction calls generalizing h with
  | nil => simp [trackAll, textsUnder]
  | cons call calls ih =>
    rw [trackAll, List.foldl_cons, ← trackAll, ih, track, Table.contains_insert, textsUnder_cons]
    by_cases hname : call.1 = name
    · simp [hname]
    · simp [hname]

end Calls

theorem textsUnder_ne_nil_iff {name : String} {calls : List (String × String)} :
    textsUnder name calls ≠ [] ↔ ∃ call ∈ calls, call.1 = name := by
  rw [textsUnder, Ne, List.map_eq_nil_iff, List.filter_eq_nil_iff]
  simp

/-! ### Texts of several agents, mixed -/

/-- The calls track the texts of every agent in their order. At each step it is the turn of
one agent or another, who tracks the next of its texts. -/
inductive Mixes : (String → List String) → List (String × String) → Prop
  | nil : Mixes (fun _ => []) []
  | cons {texts rest : String → List String} {calls : List (String × String)} {name text : String}
      (hturn : texts name = text :: rest name) (hothers : ∀ other ≠ name, texts other = rest other)
      (h : Mixes rest calls) : Mixes texts ((name, text) :: calls)

/-- Calls mix the texts that are tracked under each name. -/
theorem mixes_iff {texts : String → List String} {calls : List (String × String)} :
    Mixes texts calls ↔ ∀ name, textsUnder name calls = texts name := by
  constructor
  · intro h name
    induction h with
    | nil => rfl
    | @cons texts rest calls turn text hturn hothers _ ih =>
      rw [textsUnder_cons]
      split
      · next heq => rw [ih, ← heq, hturn]
      · next hne => rw [ih, hothers name (Ne.symm hne)]
  · intro h
    induction calls generalizing texts with
    | nil =>
      obtain rfl : (fun _ => []) = texts := funext h
      exact .nil
    | cons call calls ih =>
      have hrest : Mixes (fun name => textsUnder name calls) calls := ih fun _ => rfl
      refine .cons ?_ (fun other hother => ?_) hrest
      · rw [← h, textsUnder_cons, if_pos rfl]
      · rw [← h, textsUnder_cons, if_neg (Ne.symm hother)]

/-- Whatever names are listed first, and whatever is tracked then, a history holds under each
name the texts that were tracked under it, in their order and as often as they were tracked,
and nothing under other names. It has one text for each call, and lists the names of the
start and those that were tracked under, each once and with its texts. However the texts of
several agents are mixed, it is the same history. -/
theorem trackAll_exact (names : List String) (calls : List (String × String)) :
    let h := (ofNames names).trackAll calls
    (∀ name, h.get name = textsUnder name calls) ∧
    (∀ name, (∀ call ∈ calls, call.1 ≠ name) → h.get name = []) ∧
    h.total = calls.length ∧
    (h.snapshot.map Prod.fst).Pairwise (· < ·) ∧
    (∀ name texts, (name, texts) ∈ h.snapshot ↔
      (name ∈ names ∨ ∃ call ∈ calls, call.1 = name) ∧ texts = h.get name) ∧
    ∀ texts calls', Mixes texts calls → Mixes texts calls' →
      (ofNames names).trackAll calls' = h := by
  intro h
  have hget (name : String) : h.get name = textsUnder name calls := by
    rw [get_trackAll, get_ofNames, List.nil_append]
  refine ⟨hget, fun name hother => ?_, ?_, h.table.keys_sorted, fun name texts => ?_,
    fun texts calls' hmix hmix' => ?_⟩
  · rw [hget]
    by_contra hsome
    obtain ⟨call, hcall, hname⟩ := textsUnder_ne_nil_iff.mp hsome
    exact hother call hcall hname
  · rw [total_trackAll, total_ofNames, Nat.zero_add]
  · rw [mem_snapshot_iff, contains_trackAll, contains_ofNames, textsUnder_ne_nil_iff]
  · -- The two histories started alike, and each agent tracked the same in both.
    have hsame (name : String) : textsUnder name calls' = textsUnder name calls := by
      rw [mixes_iff.mp hmix', mixes_iff.mp hmix]
    refine ext_get (fun name => ?_) fun name => ?_
    · rw [contains_trackAll, contains_trackAll, hsame]
    · rw [get_trackAll, get_trackAll, hsame]

/-- Two agents have tracked their texts, the second before and after the first. Had the first
come last, the history were the same. -/
theorem trackAll_exact_of_two_orders :
    let h := (ofNames ["B", "C", "B"]).trackAll [("A", "1"), ("B", "2"), ("A", "1")]
    h.get "A" = ["1", "1"] ∧ h.get "C" = [] ∧ h.total = 3 ∧ ("C", []) ∈ h.snapshot ∧
      (ofNames ["B", "C", "B"]).trackAll [("A", "1"), ("A", "1"), ("B", "2")] = h := by
  obtain ⟨hget, hother, htotal, -, hsnapshot, hsame⟩ :=
    trackAll_exact ["B", "C", "B"] [("A", "1"), ("B", "2"), ("A", "1")]
  have hnone := hother "C" (by decide)
  refine ⟨(hget "A").trans (by decide), hnone, htotal,
    (hsnapshot "C" []).mpr ⟨.inl (by decide), hnone.symm⟩,
    hsame (fun name => textsUnder name [("A", "1"), ("B", "2"), ("A", "1")]) _
      (mixes_iff.mpr fun _ => rfl) (mixes_iff.mpr fun name => ?_)⟩
  simp only [textsUnder_cons]
  by_cases hA : "A" = name
  · subst hA
    rfl
  · simp only [if_neg hA]

end History

end Relay
