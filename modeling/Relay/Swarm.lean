import Relay.Roster

/-!
# Swarms

A swarm has settings, a roster of agents and a memory. It is built from a
configuration, agents and perhaps a custom human; the build fails if there is no
agent, if the flow is blank, or if the flow is not valid for the agents.

A session is a swarm in its world. Its operations change the flow and the
agents, and run tasks in several ways, which differ only in how they report the
outcome.

## Main definitions

* `Swarm`, `Builder`, `Builder.build`, `Swarm.ofConfig`.
* `Session` — a swarm in its world.
* `Session.tryRun` — a run with its outcome as it is.
* `Session.runWith`, `Session.run`, `Session.runBatch`, `Session.respond`,
  `Session.runAsSwarm` — a run with its outcome in other forms.
* `Session.setFlow`, `Session.addAgent`, `Session.removeAgent`,
  `Session.validateFlow`, `Session.track`.
* `Swarm.enlist` — a swarm that serves as an agent from then on.
* `arrange` — builds a swarm and runs it once.
-/

namespace Relay

/-- A swarm. -/
structure Swarm where
  settings : Settings
  roster : Roster
  memory : Memory

namespace Swarm

/-- The name of the swarm. -/
def name (s : Swarm) : String := s.settings.name

/-- The journal of the swarm. -/
abbrev journal (s : Swarm) : Journal := s.memory.journal

/-- The swarm as an agent with a number of its own. From then on its memory is
kept in the world. -/
def enlist (s : Swarm) (w : World) : Agent × World :=
  let (number, w) := w.draw
  (.swarm number s.settings s.roster.agents, w.setMemory number s.memory)

end Swarm

/-! ### Building -/

/-- What a swarm is built from. -/
structure Builder where
  config : Config := {}
  /-- The agents in the order they were added. -/
  agents : List Agent := []
  human : Option Human := none

namespace Builder

/-- Replaces the whole configuration. -/
def withConfig (b : Builder) (config : Config) : Builder := { b with config := config }

/-- Sets the identifier. -/
def id (b : Builder) (id : String) : Builder :=
  { b with config := { b.config with id := some id } }

/-- Sets the name. -/
def name (b : Builder) (name : String) : Builder :=
  { b with config := { b.config with name := name } }

/-- Sets the description. -/
def description (b : Builder) (description : String) : Builder :=
  { b with config := { b.config with description := description } }

/-- Sets the flow. -/
def flow (b : Builder) (flow : String) : Builder :=
  { b with config := { b.config with flow := flow } }

/-- Sets the number of loops. -/
def maxLoops (b : Builder) (loops : Int32) : Builder :=
  { b with config := { b.config with maxLoops := loops } }

/-- Sets whether events of level `info` are reported. -/
def verbose (b : Builder) (verbose : Bool) : Builder :=
  { b with config := { b.config with verbose := verbose } }

/-- Sets whether a custom human answers in place of the terminal. -/
def humanInTheLoop (b : Builder) (enabled : Bool) : Builder :=
  { b with config := { b.config with humanInTheLoop := enabled } }

/-- Sets the custom human. -/
def withHuman (b : Builder) (human : Human) : Builder := { b with human := some human }

/-- Sets whether the record of each run is saved. -/
def autosave (b : Builder) (autosave : Bool) : Builder :=
  { b with config := { b.config with autosave := autosave } }

/-- Sets the directory in which records are saved. -/
def directory (b : Builder) (directory : String) : Builder :=
  { b with config := { b.config with directory := directory } }

/-- Adds an agent. -/
def addAgent (b : Builder) (a : Agent) : Builder := { b with agents := b.agents ++ [a] }

/-- Adds agents one after the other. -/
def addAgents (b : Builder) (agents : List Agent) : Builder := agents.foldl addAgent b

/-- Agents that are added one after the other come behind those that are there. -/
theorem addAgents_eq (b : Builder) (agents : List Agent) :
    b.addAgents agents = { b with agents := b.agents ++ agents } := by
  induction agents generalizing b with
  | nil => simp [addAgents]
  | cons a rest ih =>
    have hcons : b.addAgents (a :: rest) = (b.addAgent a).addAgents rest := rfl
    rw [hcons, ih, addAgent]
    simp

/-- The settings with a given identifier. -/
def settings (b : Builder) (id : String) : Settings where
  id := id
  name := b.config.name
  description := b.config.description
  flow := b.config.flow
  loops := b.config.loops
  verbose := b.config.verbose
  humanInTheLoop := b.config.humanInTheLoop
  human := b.human
  autosave := b.config.autosave
  directory := b.config.directory

/-- The identifier: the configured one, or one made of a number that was not
used before. -/
def drawId (b : Builder) : EStateM SwarmError World String := fun w =>
  match b.config.id with
  | some id => .ok id w
  | none =>
    let (number, w) := w.draw
    .ok (identifier number) w

/-- A notice of the swarm is reported. -/
def announce (s : Settings) (notice : Notice) : EStateM SwarmError World Unit :=
  modify fun w => w.emitAll (s.eventsOf notice)

/-- Builds the swarm. -/
def build (b : Builder) : EStateM SwarmError World Swarm := do
  let id ← b.drawId
  let settings := b.settings id
  let roster := Roster.ofList b.agents
  announce settings .checking
  if roster.isEmpty then throw .noAgents
  if Text.allBlank settings.flow.toList then throw .noFlow
  match Flow.Readings.empty.check roster.contains settings.flow with
  | (.error e, _) => throw (.flow e)
  | (.ok _, readings) =>
    announce settings .flowValid
    announce settings (.initialized roster.names)
    return ⟨settings, roster, ⟨.new settings.name roster.names, readings⟩⟩

end Builder

/-- Builds the swarm of a configuration and agents. -/
def Swarm.ofConfig (config : Config) (agents : List Agent) : EStateM SwarmError World Swarm :=
  ((({} : Builder).withConfig config).addAgents agents).build

/-! ### Sessions -/

/-- A swarm in its world. -/
structure Session where
  world : World
  swarm : Swarm

/-- What is given back when a flow is not valid. -/
def invalidFlowText : String := "Invalid flow configuration."

namespace Session

/-- A notice of the swarm is reported. -/
def announce (x : Session) (notice : Notice) : Session :=
  { x with world := x.world.emitAll (x.swarm.settings.eventsOf notice) }

/-- The session after a run. -/
def afterRun (x : Session) (st : RunState) : Session :=
  { world := st.world, swarm := { x.swarm with memory := st.memory } }

/-- A run of the swarm: its outcome, and all exchanges made in it. -/
def runTraced (x : Session) (order : Order) :
    Except SwarmError String × List Exchange × Session :=
  match attempt x.swarm.settings x.swarm.roster.crew order ⟨x.world, x.swarm.memory, []⟩ with
  | .ok text st => (.ok text, st.exchanges, x.afterRun st)
  | .error e st => (.error e, st.exchanges, x.afterRun st)

/-- A run of the swarm with its outcome as it is. -/
def tryRun (x : Session) (order : Order) : Except SwarmError String × Session :=
  let (outcome, _, x) := x.runTraced order
  (outcome, x)

/-- A run of the swarm with its outcome as a text. A failure is reported. -/
def runWith (x : Session) (order : Order) : String × Session :=
  match x.tryRun order with
  | (.ok text, x) => (text, x)
  | (.error (.flow e), x) => (invalidFlowText, x.announce (.invalidFlow e))
  | (.error e, x) => (e.message, x.announce (.failed e))

/-- A run of the swarm on a task alone, with its outcome as a text. -/
def run (x : Session) (task : String) : String × Session := x.runWith { task := task }

/-- Runs of the swarm on tasks one after the other, with the outcomes so far. -/
def runEach (x : Session) (results : Table String) : List String → Table String × Session
  | [] => (results, x)
  | task :: rest =>
    let (text, x) := x.run task
    x.runEach (results.insert task text) rest

/-- Runs of the swarm on tasks one after the other: the outcome for each task; of
several for one task the last counts. -/
def runBatch (x : Session) (tasks : List String) : Except SwarmError (Table String) × Session :=
  if tasks.isEmpty then (.error .emptyTasks, x)
  else
    let (results, x) := x.runEach .empty tasks
    (.ok results, x)

/-- A run of the swarm as an agent. -/
def respond (x : Session) (task : String) (image : Option String) :
    Except AgentError Answer × Session :=
  match x.tryRun { task := task, image := image } with
  | (.ok text, x) => (.ok (.text text), x)
  | (.error e, x) => (.error ⟨x.swarm.name, e.message⟩, x)

/-- A run of the swarm as one of any kind of swarms, with its output as JSON. -/
def runAsSwarm (x : Session) (task : String) : Except SwarmError Json.Value × Session :=
  match x.tryRun { task := task } with
  | (.ok text, x) => (.ok (.str text), x)
  | (.error e, x) => (.error e, x)

/-- Replaces the flow. It is checked when the swarm runs. -/
def setFlow (x : Session) (flow : String) : Session :=
  let swarm := { x.swarm with settings := { x.swarm.settings with flow := flow } }
  { x with swarm := swarm }.announce (.flowSet flow)

/-- Adds an agent, in place of any agent of its name. -/
def addAgent (x : Session) (a : Agent) : Session :=
  let x := x.announce (.agentAdded a.name)
  { x with swarm := { x.swarm with roster := x.swarm.roster.add a } }

/-- Adds agents one after the other. -/
def addAgents (x : Session) (agents : List Agent) : Session := agents.foldl addAgent x

/-- Removes the agent of a name. -/
def removeAgent (x : Session) (name : String) : Except SwarmError Agent × Session :=
  match x.swarm.roster.remove name with
  | .error e => (.error (.roster e), x)
  | .ok (a, roster) =>
    (.ok a, { x with swarm := { x.swarm with roster := roster } }.announce (.agentRemoved name))

/-- Checks the flow against the agents. -/
def validateFlow (x : Session) : Except SwarmError Unit × Session :=
  let (checked, readings) :=
    x.swarm.memory.readings.check x.swarm.roster.contains x.swarm.settings.flow
  let memory := { x.swarm.memory with readings := readings }
  let x := { x with swarm := { x.swarm with memory := memory } }
  match checked with
  | .error e => (.error (.flow e), x)
  | .ok _ => (.ok (), x.announce .flowValid)

/-- Notes a text in the history of an agent. -/
def track (x : Session) (agent text : String) : Session :=
  { x with swarm := { x.swarm with memory := x.swarm.memory.track agent text } }

end Session

/-! ### Swarms for one task -/

/-- Builds a swarm and runs it once on a task. If it cannot be built, the error
is given back as a text. -/
def arrange (name description : String) (agents : List Agent) (flow task : String) (w : World) :
    String × World :=
  let builder := ((({} : Builder).name name).description description).addAgents agents |>.flow flow
  match builder.build w with
  | .ok swarm w =>
    let (text, x) := Session.run ⟨w, swarm⟩ task
    (text, x.world.emit (.arranged name))
  | .error e w => (e.message, w.emit (.arrangeFailed name e))

end Relay
