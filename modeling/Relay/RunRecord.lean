import Relay.Answer
import Relay.Digest
import Relay.Files.Path
import Relay.Timestamp

/-!
# The record of a run

Every request that a swarm makes of its agents in a run is an exchange. After a
run that succeeds, the exchanges can be saved with the task, the settings and
the result as a JSON document, in a file that is named for the task.

## Main definitions

* `Exchange` — a request of a swarm with what came back.
* `RunRecord` — the record of a run.
* `RunRecord.toJson` — the document.
* `recordPath` — the file for a task.
-/

namespace Relay

open Json

/-- A request that a swarm makes of an agent, with what came back. -/
structure Exchange where
  agent : String
  task : String
  image : Option String
  /-- The answer, or the failure. -/
  outcome : Except AgentError Answer

namespace Exchange

/-- The answer that came back, unless the agent failed. -/
def answer? (e : Exchange) : Option Answer :=
  match e.outcome with
  | .ok answer => some answer
  | .error _ => none

end Exchange

/-- What a record keeps of an answered request. -/
structure RecordEntry where
  agent : String
  task : String
  /-- The text of the answer, if it has one. -/
  output : Option String
  deriving DecidableEq

/-- The entry of an exchange that was answered. -/
def Exchange.entry? (e : Exchange) : Option RecordEntry :=
  e.answer?.map fun answer => ⟨e.agent, e.task, answer.text?⟩

/-- The record of a run. -/
structure RunRecord where
  swarmId : String
  runId : String
  name : String
  description : String
  /-- The task the run was given. -/
  task : String
  flow : String
  loops : Nat
  /-- The answered requests, the earliest first. -/
  entries : List RecordEntry
  finalOutput : String
  timestamp : Timestamp
  deriving DecidableEq

namespace RunRecord

/-- An entry of the document. Agents answer at once, so an answer starts and
ends at the time of the record. -/
def entryJson (r : RunRecord) (e : RecordEntry) : Value :=
  .obj [("run_id", .str r.runId), ("agent_name", .str e.agent), ("task", .str e.task),
    ("output", .ofText? e.output), ("start", .str r.timestamp.text),
    ("end", .str r.timestamp.text), ("duration", .int 0)]

/-- The document, with its fields in declared order. -/
def toJson (r : RunRecord) : Value :=
  .obj [("swarm_id", .str r.swarmId), ("run_id", .str r.runId), ("name", .str r.name),
    ("description", .str r.description), ("task", .str r.task), ("flow", .str r.flow),
    ("max_loops", .int r.loops), ("agents_output_schema", .arr (r.entries.map r.entryJson)),
    ("final_output", .str r.finalOutput), ("timestamp", .str r.timestamp.text)]

end RunRecord

/-- The file in the directory that keeps the record of a task. -/
def recordPath (directory task : String) : String :=
  Path.join directory (Digest.shortName task ++ ".json")

end Relay
