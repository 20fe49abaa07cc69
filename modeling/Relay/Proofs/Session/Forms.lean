import Relay.Proofs.Session.Building

/-!
# All forms of a run agree

A run can be asked for with its outcome as it is, as a text, as the answer of an agent or
as JSON, by a caller or by the swarm around. It is one and the same run: the same is asked
of agents and humans, and the same is left behind, but for a failure that is reported when
it is given back as a text. The forms differ in what becomes of a failure. That of a flow
that is not valid comes out as a fixed text, as the failure of an agent that quotes it, or
as an error that quotes it, depending on the form.

A swarm for one task is built with its name, its description, its agents and its flow, and
with defaults for all else. If the build fails, its error is given back as a text.
Otherwise the swarm is run, and its flow is known to be valid.

## Main definitions

* `Settings.failureEvents` — what is reported of an outcome that is given back as a text.
* `Arranges` — what a swarm for one task comes to.

## Main statements

* `Session.tryRun_settings` — runs leave the settings as they are.
* `Swarm.respond_eq` — a swarm that serves as an agent.
* `arrange_arranges` — a swarm for one task.
* `Session.forms_agree` — all forms of a run.
-/

namespace Relay

/-! ### Runs of a session -/

/-- What is reported of an outcome that is given back as a text: a failure, and nothing
else. -/
def Settings.failureEvents (s : Settings) : Except SwarmError String → List Event
  | .ok _ => []
  | .error (.flow e) => [.swarm s.name (.invalidFlow e)]
  | .error e => [.swarm s.name (.failed e)]

namespace Session

variable (x : Session)

theorem tryRun_settings (order : Order) :
    (x.tryRun order).2.swarm.settings = x.swarm.settings := by
  obtain ⟨-, -, hsettings, -⟩ :=
    (isOf_runAlike x.swarm.settings x.swarm.roster).tryRun ⟨rfl, rfl, rfl⟩ order
  exact hsettings

/-- A run with its outcome as a text is the run, and a report of its failure. -/
theorem runWith_eq (order : Order) :
    let r := x.tryRun order
    x.runWith order = (outputOf r.1,
      { r.2 with world := r.2.world.emitAll (x.swarm.settings.failureEvents r.1) }) := by
  have hsettings := x.tryRun_settings order
  rw [runWith]
  generalize x.tryRun order = r at hsettings ⊢
  obtain ⟨outcome, y⟩ := r
  rw [← hsettings]
  cases outcome with
  | ok text => simp [Settings.failureEvents, outputOf, World.emitAll]
  | error e => cases e <;> rfl

theorem respond_eq (task : String) (image : Option String) :
    let r := x.tryRun { task := task, image := image }
    x.respond task image =
      ((r.1.map Answer.text).mapError fun e => ⟨x.swarm.name, e.message⟩, r.2) := by
  have hsettings := x.tryRun_settings { task := task, image := image }
  rw [respond, Swarm.name]
  generalize x.tryRun { task := task, image := image } = r at hsettings ⊢
  obtain ⟨outcome, y⟩ := r
  rw [← hsettings]
  cases outcome <;> rfl

theorem runAsSwarm_eq (task : String) :
    let r := x.tryRun { task := task }
    x.runAsSwarm task = (r.1.map Json.Value.str, r.2) := by
  rw [runAsSwarm]
  obtain ⟨outcome, y⟩ := x.tryRun { task := task }
  cases outcome <;> rfl

end Session

/-! ### A swarm that serves as an agent -/

/-- A swarm that serves as an agent answers as a session of it does in the same world, with
the memory that is kept under its number. Behind the answer, that memory is put back. -/
theorem Swarm.respond_eq (number : Nat) (s : Settings) (r : Roster) (task : String)
    (image : Option String) (w : World) :
    let answered := Session.respond ⟨w, ⟨s, r, w.memoryOf number⟩⟩ task image
    let v := answered.2.world.setMemory number answered.2.swarm.memory
    (Agent.swarm number s r.agents).respond task image w =
      match answered.1 with
      | .ok answer => .ok answer v
      | .error e => .error e v := by
  intro answered v
  rw [Agent.respond, respondOf]
  have hanswered : answered =
      Session.respond ⟨w, ⟨s, r, w.memoryOf number⟩⟩ task image := rfl
  rw [Session.respond, Session.tryRun, Session.runTraced_eq] at hanswered
  have hrun : attempt s r.crew ⟨task, image, []⟩ ⟨w, w.memoryOf number, []⟩ =
      attempt s (crewOf r.agents) ⟨task, image, []⟩ ⟨w, w.memoryOf number, []⟩ := rfl
  simp only [hrun] at hanswered
  generalize attempt s (crewOf r.agents) ⟨task, image, []⟩ ⟨w, w.memoryOf number, []⟩ = ended
    at hanswered
  cases ended with
  | ok text st => simp only [v, hanswered, Session.resultOf, Session.afterRun]
  | error e st => simp only [v, hanswered, Session.resultOf, Session.afterRun, Swarm.name]

/-! ### A swarm for one task -/

/-- What the swarm that the builder builds comes to if it is run once on the task. -/
inductive Arranges (b : Builder) (task : String) (w : World) : String × World → Prop
  /-- It cannot be built, and the error is given back as a text. -/
  | refused {e : SwarmError} {v : World} (hbuild : b.build w = .error e v) :
      Arranges b task w (e.message, v.emit (.arrangeFailed b.config.name e))
  /-- It is built and run. Its flow is valid, so what comes out is not the text for flows that
  are not. -/
  | run {swarm : Swarm} {v : World} {text : String} {y : Session}
      (hbuild : b.build w = .ok swarm v) (hswarm : b.Built swarm)
      (hrun : Session.run ⟨v, swarm⟩ task = (text, y))
      (hvalid : ∀ e, (Session.tryRun ⟨v, swarm⟩ { task := task }).1 ≠ .error (.flow e)) :
      Arranges b task w (text, y.world.emit (.arranged b.config.name))

theorem arrange_arranges (name description : String) (agents : List Agent) (flow task : String)
    (w : World) :
    Arranges { config := { name := name, description := description, flow := flow }
               agents := agents } task w (arrange name description agents flow task w) := by
  let b : Builder :=
    { config := { name := name, description := description, flow := flow }, agents := agents }
  have hbuilder :
      (((({} : Builder).name name).description description).addAgents agents).flow flow = b := by
    rw [Builder.addAgents_eq]
    rfl
  have hends := b.build_ends w
  rw [arrange]
  simp only [hbuilder]
  cases hbuild : b.build w with
  | error e v => exact .refused hbuild
  | ok swarm v =>
    rw [hbuild] at hends
    obtain _ | _ | _ | ⟨-, -, hverdict, hswarm⟩ := hends
    obtain ⟨f, hf⟩ := hswarm.check hverdict
    exact .run hbuild hswarm rfl fun e => Session.tryRun_ne_flow (x := ⟨v, swarm⟩) hf _ e

/-! ### All forms -/

/-- A run with its outcome as a text, as the answer of an agent or as JSON is the run with its
outcome as it is. It leaves the same behind, but for the report of a failure that is given
back as a text. As a text, a flow that is not valid has a text of its own, and any other
failure has its message. As that of an agent, the failure names the swarm and quotes the
message; and so it is if the swarm around asks. As JSON, the error quotes the message as
well. A swarm for one task is built as it is asked for, and then run. -/
theorem Session.forms_agree :
    (∀ (x : Session) (order : Order),
      let r := x.tryRun order
      x.runWith order = (outputOf r.1,
        { r.2 with world := r.2.world.emitAll (x.swarm.settings.failureEvents r.1) })) ∧
    (∀ (x : Session) (task : String),
      let r := x.tryRun { task := task }
      x.run task = x.runWith { task := task } ∧
        x.runAsSwarm task = (r.1.map .str, r.2) ∧
        (x.runAsSwarm task).1.mapError SwarmError.swarmMessage =
          (r.1.map .str).mapError fun e => "SwarmRearrangeError: " ++ e.message) ∧
    (∀ (x : Session) (task : String) (image : Option String),
      let r := x.tryRun { task := task, image := image }
      x.respond task image =
          ((r.1.map .text).mapError fun e => ⟨x.swarm.settings.name, e.message⟩, r.2) ∧
        (x.respond task image).1.mapError AgentError.message =
          (r.1.map .text).mapError fun e =>
            "Agent '" ++ x.swarm.settings.name ++ "' failed: " ++ e.message) ∧
    (∀ (number : Nat) (s : Settings) (roster : Roster) (task : String) (image : Option String)
        (w : World),
      let r := Session.respond ⟨w, ⟨s, roster, w.memoryOf number⟩⟩ task image
      let v := r.2.world.setMemory number r.2.swarm.memory
      (Agent.swarm number s roster.agents).respond task image w =
        match r.1 with
        | .ok answer => .ok answer v
        | .error e => .error e v) ∧
    ∀ (name description : String) (agents : List Agent) (flow task : String) (w : World),
      Arranges { config := { name := name, description := description, flow := flow }
                 agents := agents } task w (arrange name description agents flow task w) := by
  refine ⟨runWith_eq, fun x task => ⟨rfl, x.runAsSwarm_eq task, ?_⟩, fun x task image =>
    ⟨x.respond_eq task image, ?_⟩, Swarm.respond_eq, arrange_arranges⟩
  · rw [x.runAsSwarm_eq task]
    rfl
  · rw [x.respond_eq task image]
    cases (x.tryRun { task := task, image := image }).1 <;> rfl

namespace Session

/-- One failure in three forms: the flow names an agent that is not there. -/
example :
    let x := Sample.session "A -> B" 1 [Sample.agent 1 "A" 5]
    (x.run "t").1 = "Invalid flow configuration." ∧
      (match (x.respond "t" none).1 with
        | .ok _ => ""
        | .error e => e.message) = "Agent 'S' failed: Agent 'B' is not registered." ∧
      (match (x.runAsSwarm "t").1 with
        | .ok _ => ""
        | .error e => e.swarmMessage) = "SwarmRearrangeError: Agent 'B' is not registered." := by
  decide +kernel

end Session

end Relay
