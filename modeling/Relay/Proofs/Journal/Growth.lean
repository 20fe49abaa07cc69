import Mathlib.Data.List.Basic
import Relay.Journal

/-!
# How journals grow

A journal grows by notes. The answer of an agent is noted in both logs; a note
made by hand goes into the history alone. From the notes between two journals
follows what each log has gained, always behind what it held before.

## Main definitions

* `Note` — what is noted in a journal.
* `Journal.Grows` — some notes lead from one journal to another.

## Main statements

* `Journal.Grows.messages`, `Journal.Grows.get`, `Journal.Grows.total` — what the
  conversation and the history gain.
-/

namespace Relay

/-- A text noted under the name of an agent. -/
structure Note where
  agent : String
  text : String
  /-- The note is not the answer of an agent. -/
  byHand : Bool
  deriving DecidableEq

namespace Note

/-- The role and the content of the message that an answer becomes. -/
def said (n : Note) : Role × Content := (.assistant n.agent, .text n.text)

/-- The texts noted under a name. -/
def textsOf (name : String) (notes : List Note) : List String :=
  (notes.filter (·.agent == name)).map text

/-- The notes that are answers of agents. -/
def answers (notes : List Note) : List Note := notes.filter (!·.byHand)

end Note

/-! ### The number of texts in a history -/

namespace Table

variable {α : Type}

/-- A value put under a name takes the place of the one that was there. -/
theorem foldr_put (size : α → Nat) (name : String) (value : α) :
    ∀ {entries : List (String × α)}, entries.Pairwise (fun a b => a.1 < b.1) →
      (put name value entries).foldr (fun e n => size e.2 + n) 0 +
          ((lookup name entries).map size).getD 0 =
        entries.foldr (fun e n => size e.2 + n) 0 + size value
  | [], _ => by simp [put, lookup]
  | (key, old) :: rest, h => by
    obtain ⟨hhead, hrest⟩ := List.pairwise_cons.mp h
    have ih := foldr_put size name value hrest
    rw [put, lookup]
    split
    · next hlt =>
      -- The name comes before all others, so nothing was under it.
      have hkey : key ≠ name := fun heq => String.lt_irrefl name (heq ▸ hlt)
      have hnone : lookup name rest = none := by
        rw [← Option.not_isSome_iff_eq_none, lookup_isSome_iff]
        intro hmem
        obtain ⟨e, he, rfl⟩ := List.mem_map.mp hmem
        exact String.lt_irrefl _ (String.lt_trans hlt (hhead e he))
      simp only [if_neg hkey, hnone, List.foldr_cons, Option.map_none, Option.getD_none]
      omega
    · split
      · next heq =>
        simp only [List.foldr_cons, Option.map_some, Option.getD_some]
        omega
      · next hne =>
        simp only [List.foldr_cons]
        omega

end Table

namespace History

theorem total_insert (h : History) (agent : String) (texts : List String) :
    total ⟨h.table.insert agent texts⟩ + (h.get agent).length = h.total + texts.length := by
  have hput := Table.foldr_put List.length agent texts h.table.sorted
  have hget : ((Table.lookup agent h.table.entries).map List.length).getD 0 =
      (h.get agent).length := by
    rw [get, Table.find?]
    cases Table.lookup agent h.table.entries <;> rfl
  rw [hget] at hput
  exact hput

@[simp] theorem total_track (h : History) (agent text : String) :
    (h.track agent text).total = h.total + 1 := by
  have hinsert := h.total_insert agent (h.get agent ++ [text])
  rw [List.length_append, List.length_singleton] at hinsert
  rw [track]
  omega

@[simp] theorem total_seed (h : History) (agent : String) : (h.seed agent).total = h.total := by
  have hinsert := h.total_insert agent (h.get agent)
  rw [seed]
  omega

theorem get_foldl_seed (names : List String) (h : History) (name : String) :
    (names.foldl seed h).get name = h.get name := by
  induction names generalizing h with
  | nil => rfl
  | cons n names ih => rw [List.foldl_cons, ih, get_seed]

theorem total_foldl_seed (names : List String) (h : History) :
    (names.foldl seed h).total = h.total := by
  induction names generalizing h with
  | nil => rfl
  | cons n names ih => rw [List.foldl_cons, ih, total_seed]

@[simp] theorem get_ofNames (names : List String) (name : String) :
    (ofNames names).get name = [] :=
  get_foldl_seed names empty name

@[simp] theorem total_ofNames (names : List String) : (ofNames names).total = 0 :=
  total_foldl_seed names empty

end History

/-! ### Growth -/

namespace Message

/-- The role and the content of a message, without its time. -/
def said (m : Message) : Role × Content := (m.role, m.content)

end Message

namespace Journal

/-- The notes, the earliest first, lead from one journal to the other. -/
inductive Grows : Journal → List Note → Journal → Prop
  | nil (j : Journal) : Grows j [] j
  | answer {j k : Journal} {agent text : String} {notes : List Note} (time : Timestamp)
      (h : Grows (j.record agent text time) notes k) : Grows j (⟨agent, text, false⟩ :: notes) k
  | byHand {j k : Journal} {agent text : String} {notes : List Note}
      (h : Grows (j.track agent text) notes k) : Grows j (⟨agent, text, true⟩ :: notes) k

namespace Grows

variable {j k m : Journal} {notes : List Note}

theorem append {more : List Note} (h : Grows j notes k) (h' : Grows k more m) :
    Grows j (notes ++ more) m := by
  induction h with
  | nil j => exact h'
  | answer time _ ih => exact .answer time (ih h')
  | byHand _ ih => exact .byHand (ih h')

theorem owner (h : Grows j notes k) : k.conversation.owner = j.conversation.owner := by
  induction h with
  | nil j => rfl
  | answer time _ ih => exact ih
  | byHand _ ih => exact ih

/-- The conversation gains the answers, each said by its agent. -/
theorem messages (h : Grows j notes k) : ∃ added,
    k.conversation.messages = j.conversation.messages ++ added ∧
      added.map Message.said = (Note.answers notes).map Note.said := by
  induction h with
  | nil j => exact ⟨[], (List.append_nil _).symm, rfl⟩
  | @answer j k agent text notes time _ ih =>
    obtain ⟨added, hmessages, hsaid⟩ := ih
    refine ⟨⟨.assistant agent, .text text, time⟩ :: added, ?_, ?_⟩
    · rw [hmessages, record, Conversation.add, List.append_assoc]
      rfl
    · rw [List.map_cons, hsaid]
      rfl
  | byHand _ ih => exact ih

/-- The history of each agent gains the texts noted under its name. -/
theorem get (h : Grows j notes k) (name : String) :
    k.history.get name = j.history.get name ++ Note.textsOf name notes := by
  have htrack (h : History) (agent text : String) (notes : List Note) (byHand : Bool) :
      (h.track agent text).get name ++ Note.textsOf name notes =
        h.get name ++ Note.textsOf name (⟨agent, text, byHand⟩ :: notes) := by
    rw [History.get_track, Note.textsOf, Note.textsOf, List.filter_cons]
    by_cases hname : agent = name
    · simp [hname]
    · simp [hname]
  induction h with
  | nil j => exact (List.append_nil _).symm
  | answer time _ ih => rw [ih]; exact htrack ..
  | byHand _ ih => rw [ih]; exact htrack ..

/-- The history gains one text for each note. -/
theorem total (h : Grows j notes k) : k.history.total = j.history.total + notes.length := by
  induction h with
  | nil j => rfl
  | answer time _ ih => rw [ih, record, History.total_track, List.length_cons]; omega
  | byHand _ ih => rw [ih, track, History.total_track, List.length_cons]; omega

end Grows

end Journal

end Relay
