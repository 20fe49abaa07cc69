import Relay.Table

/-!
# Histories

A history keeps, for each agent, the texts it has answered, in the order in
which it answered them. An agent that has not answered yet may be listed with
no texts.

## Main definitions

* `History.ofNames` — a history that lists the names, with no texts.
* `History.track`, `History.get`, `History.total`.

## Main statements

* `History.get_track` — tracking adds one text at the end of one agent's list.
-/

namespace Relay

/-- The texts each agent has answered. -/
structure History where
  /-- The texts under the agents' names. -/
  table : Table (List String)

namespace History

/-- The history without any names. -/
def empty : History := ⟨.empty⟩

instance : Inhabited History := ⟨empty⟩

/-- The texts of an agent, the earliest first; none if the agent is not listed. -/
def get (h : History) (agent : String) : List String := (h.table.find? agent).getD []

/-- The history with the agent listed; its texts stay as they are. -/
def seed (h : History) (agent : String) : History := ⟨h.table.insert agent (h.get agent)⟩

/-- The history that lists these names, with no texts. -/
def ofNames (names : List String) : History := names.foldl seed empty

/-- The history with a text added at the end of the agent's texts. -/
def track (h : History) (agent text : String) : History :=
  ⟨h.table.insert agent (h.get agent ++ [text])⟩

/-- The number of texts of all agents together. -/
def total (h : History) : Nat := h.table.entries.foldr (fun e n => e.2.length + n) 0

/-- The agents listed, in code point order, with their texts. -/
def snapshot (h : History) : List (String × List String) := h.table.entries

theorem get_track (h : History) (agent other text : String) :
    (h.track agent text).get other =
      if agent = other then h.get other ++ [text] else h.get other := by
  simp only [get, track, Table.find?_insert]
  split
  · next heq => subst heq; rfl
  · rfl

@[simp] theorem get_seed (h : History) (agent other : String) :
    (h.seed agent).get other = h.get other := by
  simp only [get, seed, Table.find?_insert]
  split
  · next heq => subst heq; rfl
  · rfl

end History

end Relay
