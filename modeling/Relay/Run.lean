import Relay.Config
import Relay.Flow.Plan
import Relay.RunRecord
import Relay.World

/-!
# Runs

A run takes a task through the stages of a flow, loop by loop. Each stage works
on what the stage before it handed on. A member that stands alone hands on its
text, or the task itself if it has no text. Members side by side all work on the
same task; first the human among them, if there is one, puts an answer in place
of the task, and then the agents are called in declared order. They hand on
their texts, joined. A run stops at the first failure.

Agents are given as responders: what they answer in a world, and the world they
leave behind. So a run is the same whether an agent is simple or a whole swarm.

## Main definitions

* `Settings`, `Human` — what a swarm is set to.
* `Responder`, `Crew` — agents as a run sees them.
* `RunState`, `Run` — what a run changes.
* `runStage`, `runStep`, `runLoops` — the parts of a run.
* `attempt` — a run from the check of the flow to the saving of its record.
-/

namespace Relay

/-- A human who answers in place of the terminal. The answer may depend on the
tasks handed over before. -/
structure Human where
  /-- The number under which the human remembers. -/
  number : Nat
  /-- The answer to a task after earlier tasks. -/
  answer : List String → String → String

/-- What a swarm is set to. -/
structure Settings where
  id : String
  name : String
  description : String
  flow : String
  loops : Nat
  verbose : Bool
  humanInTheLoop : Bool
  human : Option Human
  autosave : Bool
  directory : String

/-- What a caller asks of a run. -/
structure Order where
  task : String
  image : Option String := none
  /-- Custom tasks, of which only the first counts. -/
  custom : List CustomTask := []

/-- An agent as a run sees it: its answer to a task with an image. -/
abbrev Responder := String → Option String → EStateM AgentError World Answer

/-- The agents that a run can call, under their names. -/
abbrev Crew := List (String × Responder)

/-- Some agent has the name. -/
def Crew.has (crew : Crew) (name : String) : Bool := (Table.lookup name crew).isSome

/-- What a run changes. -/
structure RunState where
  world : World
  /-- The memory of the swarm that runs. -/
  memory : Memory
  /-- The exchanges of this run, the earliest first. -/
  exchanges : List Exchange

/-- A part of a run: it may fail, and what it changed before stays changed. -/
abbrev Run := EStateM SwarmError RunState

/-- What members side by side hand on: their texts with `; ` between them.
Members without a text are left out. -/
def joinTexts (texts : List (Option String)) : String :=
  "; ".intercalate (texts.filterMap id)

namespace Settings

/-- The events that a notice gives rise to: none for a notice of level `info`,
unless the swarm is verbose. -/
def eventsOf (s : Settings) (notice : Notice) : List Event :=
  if notice.level = .info && !s.verbose then [] else [.swarm s.name notice]

end Settings

/-- Some events are reported. -/
def emitEvents (events : List Event) : Run Unit :=
  modify fun st => { st with world := st.world.emitAll events }

/-- A line is taken from the terminal. -/
def promptHuman (prompt : Prompt) : Run String := fun st =>
  let (answer, world) := st.world.ask prompt
  let st := { st with world := world }
  match answer with
  | .ok text => .ok text st
  | .error e => .error (.human e) st

/-- A human who answers in place of the terminal is asked. -/
def consultHuman (human : Human) (task : String) : Run String := fun st =>
  let past := (st.world.requestsTo human.number).map Request.task
  .ok (human.answer past task)
    { st with world := st.world.note ⟨human.number, .human, task, none⟩ }

/-- A task is handed to an agent. -/
def exchange (agent : String) (respond : Responder) (task : String) (image : Option String) :
    Run Answer := fun st =>
  match respond task image st.world with
  | .ok answer world =>
    .ok answer
      { st with world := world, exchanges := st.exchanges ++ [⟨agent, task, image, .ok answer⟩] }
  | .error e world =>
    .error (.agent e)
      { st with world := world, exchanges := st.exchanges ++ [⟨agent, task, image, .error e⟩] }

/-- The answer of an agent is noted in the journal. -/
def recordAnswer (agent text : String) : Run Unit :=
  modify fun st => { st with memory := st.memory.record agent text st.world.clock }

/-- A number that was not used before. -/
def drawNumber : Run Nat := fun st =>
  let (number, world) := st.world.draw
  .ok number { st with world := world }

section Stages

variable (s : Settings) (crew : Crew) (image : Option String)

/-- A notice is reported. -/
def report (notice : Notice) : Run Unit := emitEvents (s.eventsOf notice)

/-- A human is asked, at the terminal unless another way is set and enabled. -/
def askHuman (prompt : Prompt) (task : String) : Run String := do
  report s .waiting
  match s.human with
  | some human => if s.humanInTheLoop then consultHuman human task else promptHuman prompt
  | none => promptHuman prompt

/-- An agent works on a task: the text of its answer, which goes into the
journal, empty if there is none. -/
def callAgent (task name : String) : Run (Option String) :=
  match Table.lookup name crew with
  | none => throw (.roster ⟨name⟩)
  | some respond => do
    let answer ← exchange name respond task image
    report s (.answered name answer.kind)
    match answer.flag? with
    | some flag => report s (.verdict name flag)
    | none => pure ()
    recordAnswer name (answer.text?.getD "")
    return answer.text?

/-- A member that stands alone works on the task. -/
def runAlone (task : String) : Member → Run String
  | .human => askHuman s .nextTask task
  | .agent name => do
    let text ← callAgent s crew image task name
    return text.getD task

/-- A human among members side by side puts an answer in place of the task. -/
def replaceTask (task : String) : Member → Run String
  | .human => askHuman s .response task
  | .agent _ => return task

/-- The members of a stage work on the task. -/
def runStage (stage : Stage) (task : String) : Run String :=
  if stage.isParallel then do
    report s (.parallel stage)
    let task ← stage.members.foldlM (replaceTask s) task
    let texts ← (stage.members.filterMap Member.agent?).mapM (callAgent s crew image task)
    return joinTexts texts
  else do
    report s (.sequential stage)
    runAlone s crew image task stage.lead

/-- One step of a plan. -/
def runStep (task : String) : Step → Run String
  | .inject text => return extendTask task text
  | .stage stage => runStage s crew image stage task

/-- All steps of a plan, once. -/
def runSteps (steps : List Step) (task : String) : Run String :=
  steps.foldlM (runStep s crew image) task

/-- The loops that are left, after the first `done` of them. -/
def runLoops (steps : List Step) (done : Nat) (task : String) : Nat → Run String
  | 0 => return task
  | left + 1 => do
    report s (.loop (done + 1) s.loops)
    let task ← runSteps s crew image steps task
    runLoops steps (done + 1) task left

end Stages

/-! ### Whole runs -/

/-- The events that a plan gives rise to: one, if the target of the custom task
leads no stage. -/
def planEvents (flow : Flow) : Option CustomTask → List Event
  | none => []
  | some custom => if flow.isLed custom.target then [] else [.unknownTarget custom.target]

/-- The record of a run that succeeded. -/
def RunState.recordOf (st : RunState) (s : Settings) (runId task output : String) : RunRecord where
  swarmId := s.id
  runId := runId
  name := s.name
  description := s.description
  task := task
  flow := s.flow
  loops := s.loops
  entries := st.exchanges.filterMap Exchange.entry?
  finalOutput := output
  timestamp := st.world.clock

/-- The record of a run that succeeded is saved. If that fails, it is only
reported. -/
def saveRecord (s : Settings) (runId task output : String) : Run Unit := do
  let st ← get
  let path := recordPath s.directory task
  let data := (st.recordOf s runId task output).toJson
  let (saved, files) := st.world.files.saveJson path (.value data)
  set { st with world := { st.world with files := files } }
  match saved with
  | .ok () => pure ()
  | .error e => report s (.unsaved path e)

/-- The flow is read and checked against the crew. -/
def checkFlow (s : Settings) (crew : Crew) : Run Flow := fun st =>
  let (checked, readings) := st.memory.readings.check crew.has s.flow
  let st := { st with memory := { st.memory with readings := readings } }
  match checked with
  | .ok flow => .ok flow st
  | .error e => .error (.flow e) st

/-- A run of a swarm with these settings and this crew along a valid flow. -/
def runFlow (s : Settings) (crew : Crew) (order : Order) (flow : Flow) : Run String := do
  emitEvents (planEvents flow order.custom.head?)
  let number ← drawNumber
  let output ← runLoops s crew order.image (flow.plan order.custom.head?) 0 order.task s.loops
  if s.autosave then
    saveRecord s (identifier number) order.task output
  return output

/-- A run of a swarm with these settings and this crew. The flow is checked
before anything else happens. -/
def attempt (s : Settings) (crew : Crew) (order : Order) : Run String := do
  runFlow s crew order (← checkFlow s crew)

end Relay
