import Relay.Conversation
import Relay.History

/-!
# Journals

A swarm keeps two logs of what its agents answer: a history, sorted by agent,
and a conversation, in the order of the answers. Every answer goes into both.

## Main definitions

* `Journal` — the two logs of a swarm.
* `Journal.record` — notes the answer of an agent in both.
-/

namespace Relay

/-- The two logs of a swarm. -/
structure Journal where
  history : History
  conversation : Conversation

namespace Journal

/-- The journal of a swarm that has not run yet. -/
def new (owner : String) (agents : List String) : Journal :=
  ⟨.ofNames agents, .new owner⟩

instance : Inhabited Journal := ⟨new "" []⟩

/-- The journal with the answer of an agent noted in both logs. -/
def record (j : Journal) (agent text : String) (time : Timestamp) : Journal :=
  ⟨j.history.track agent text, j.conversation.add (.assistant agent) text time⟩

/-- The journal with a text noted in the history alone. -/
def track (j : Journal) (agent text : String) : Journal :=
  { j with history := j.history.track agent text }

end Journal

end Relay
