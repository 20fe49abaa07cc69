import Relay.Flow.Reading
import Relay.Journal

/-!
# What a swarm keeps

From one run to the next a swarm keeps its journal and the flows that it has
read.

## Main definitions

* `Memory` — the journal and the readings of a swarm.
-/

namespace Relay

/-- What a swarm keeps from one run to the next. -/
structure Memory where
  journal : Journal
  /-- The flows that the swarm has read. -/
  readings : Flow.Readings := .empty

namespace Memory

instance : Inhabited Memory := ⟨⟨default, .empty⟩⟩

/-- The memory after the answer of an agent. -/
def record (m : Memory) (agent text : String) (time : Timestamp) : Memory :=
  { m with journal := m.journal.record agent text time }

/-- The memory with a text noted in the history alone. -/
def track (m : Memory) (agent text : String) : Memory :=
  { m with journal := m.journal.track agent text }

end Memory

end Relay
