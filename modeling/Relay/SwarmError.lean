import Relay.Answer
import Relay.Files.Tree
import Relay.Flow

/-!
# Errors of a swarm

## Main definitions

* `RosterError` — a name under which no agent is registered.
* `SwarmError` — why a swarm cannot be built or a run cannot go on.
-/

namespace Relay

/-- No agent is registered under the name. -/
structure RosterError where
  name : String
  deriving DecidableEq

/-- The error as it is reported. -/
def RosterError.message (e : RosterError) : String := "Agent '" ++ e.name ++ "' is not registered"

/-- Why a swarm cannot be built or a run cannot go on. -/
inductive SwarmError where
  /-- There is no agent. -/
  | noAgents
  /-- The flow is blank. -/
  | noFlow
  /-- There is no task to run. -/
  | emptyTasks
  /-- The flow is not valid. -/
  | flow (e : FlowError)
  /-- An agent was asked for that is not there. -/
  | roster (e : RosterError)
  /-- An agent failed. -/
  | agent (e : AgentError)
  /-- The line of a human could not be read. -/
  | human (e : IoError)
  deriving DecidableEq

namespace SwarmError

/-- The error as it is reported. -/
def message : SwarmError → String
  | .noAgents => "No agents found in the swarm."
  | .noFlow => "No flow found in the swarm."
  | .emptyTasks => "No tasks provided."
  | .flow e => e.message
  | .roster e => e.message
  | .agent e => e.message
  | .human e => "Failed to read human input: " ++ e.message

/-- The error as it is reported where any kind of swarm may have failed. -/
def swarmMessage (e : SwarmError) : String := "SwarmRearrangeError: " ++ e.message

end SwarmError

end Relay
