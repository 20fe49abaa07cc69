import Relay.Files.Store
import Relay.SwarmError
import Relay.Text.Quoted

/-!
# Events

A swarm reports what it does as events of four levels. A swarm that is not
verbose keeps its events of level `info` to itself.

## Main definitions

* `Notice` — what a swarm reports about itself.
* `Event` — a notice with the swarm's name, or what is reported around swarms.
* `Event.level`, `Event.message`.
-/

namespace Relay

/-- How much an event matters. -/
inductive Level where
  | info
  | warn
  | error
  | debug
  deriving DecidableEq

/-- The word for a level. -/
def Level.word : Level → String
  | .info => "INFO"
  | .warn => "WARN"
  | .error => "ERROR"
  | .debug => "DEBUG"

/-- What a swarm reports about itself. -/
inductive Notice where
  /-- The checks before the first run begin. -/
  | checking
  /-- The flow is valid. -/
  | flowValid
  /-- The swarm is ready, with these agents. -/
  | initialized (agents : List String)
  /-- The flow was replaced. -/
  | flowSet (flow : String)
  /-- An agent is about to be added. -/
  | agentAdded (name : String)
  /-- An agent was removed. -/
  | agentRemoved (name : String)
  /-- A loop of several begins. -/
  | loop (index total : Nat)
  /-- A stage with one member begins. -/
  | sequential (stage : Stage)
  /-- A stage with several members begins. -/
  | parallel (stage : Stage)
  /-- A human is waited for. -/
  | waiting
  /-- An agent answered. -/
  | answered (agent kind : String)
  /-- An agent answered with a verdict. -/
  | verdict (agent : String) (flag : Bool)
  /-- A run failed because of the flow. -/
  | invalidFlow (e : FlowError)
  /-- A run failed for another reason. -/
  | failed (e : SwarmError)
  /-- The record of a run could not be saved. -/
  | unsaved (path : String) (e : StoreError)

namespace Notice

/-- How much a notice matters. -/
def level : Notice → Level
  | .verdict .. => .warn
  | .invalidFlow _ => .error
  | .failed _ => .error
  | .unsaved .. => .error
  | _ => .info

/-- The notice in words. -/
def text : Notice → String
  | .checking => "Running reliability checks"
  | .flowValid => "Flow is valid"
  | .initialized agents => "Initialized with agents: " ++ Text.quotedList agents
  | .flowSet flow => "Custom flow set: " ++ flow
  | .agentAdded name => "Adding agent " ++ name ++ " to the swarm"
  | .agentRemoved name => "Removed agent " ++ name ++ " from the swarm"
  | .loop index total => "Loop " ++ toString index ++ "/" ++ toString total
  | .sequential stage => "Running agents sequentially: " ++ stage.text
  | .parallel stage => "Running agents in parallel: " ++ stage.text
  | .waiting => "Waiting for human input"
  | .answered agent kind => "Agent " ++ agent ++ " returned result of type: " ++ kind
  | .verdict agent flag =>
    "Agent " ++ agent ++ " returned a boolean value: " ++ (if flag then "true" else "false")
  | .invalidFlow e => "Invalid flow: " ++ e.message
  | .failed e => "An error occurred: " ++ e.message
  | .unsaved path e => "Failed to save metadata to " ++ path ++ ": " ++ e.message

end Notice

/-- Something reported. -/
inductive Event where
  /-- What the swarm of this name reports about itself. -/
  | swarm (name : String) (notice : Notice)
  /-- A custom task is addressed to a name that leads no stage. -/
  | unknownTarget (target : String)
  /-- A swarm was built and run once. -/
  | arranged (name : String)
  /-- A swarm that was to be run once could not be built. -/
  | arrangeFailed (name : String) (e : SwarmError)

namespace Event

/-- How much an event matters. -/
def level : Event → Level
  | .swarm _ notice => notice.level
  | .unknownTarget _ => .debug
  | .arranged _ => .info
  | .arrangeFailed .. => .error

/-- The event in words. -/
def message : Event → String
  | .swarm name notice => "| swarm rearrange | " ++ name ++ " | " ++ notice.text
  | .unknownTarget target =>
    "| flow | Custom task target '" ++ target ++ "' is not the lead of any stage"
  | .arranged name => "| swarm arrange | " ++ name ++ " | Executed successfully"
  | .arrangeFailed name e =>
    "| swarm arrange | " ++ name ++ " | An error occurred during swarm arrangement: " ++ e.message

/-- The event with its level in front. -/
def line (e : Event) : String := e.level.word ++ " " ++ e.message

end Event

end Relay
