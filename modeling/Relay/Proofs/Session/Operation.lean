import Relay.Proofs.Flow.RoundTrip
import Relay.Proofs.Run.Steady
import Relay.Proofs.Session.SideBySide

/-!
# Operations on a session

What can be done with a swarm once it is built: it can be run in several ways, its
flow and its agents can be changed, and texts can be tracked by hand. Between two
operations other things may happen in the world.

Each operation adds some notes to the journal: the notes of the calls that its runs
made, whether they succeeded or not, or the text that it tracks. In sessions that
differ in their histories only, the same operation does the same.

## Main definitions

* `Operation`, `Operation.IsRun`, `Session.perform`, `Session.performAll`.
* `Outcome`, `Session.outcome`, `Session.outcomes` — what operations give back.
* `Session.notesOn` — the notes that an operation adds.
* `Session.AlikeButHistory` — sessions that differ in their histories only.

## Main statements

* `Builder.build_apply` — how a build ends.
* `Session.RunAlike.perform` — runs of related sessions, as operations.
* `Session.runTraced_course` — every run has a course, with a valid flow or without.
* `Session.perform_grows` — what an operation adds to both logs.
* `Session.AlikeButHistory.perform` — the same operation in two sessions.
-/

namespace Relay

/-! ### Building -/

/-- How a build ends, once its swarm has an identifier. -/
theorem Builder.build_apply {b : Builder} {w w' : World} {id : String}
    (h : b.drawId w = .ok id w') :
    b.build w =
      let s := b.settings id
      let roster := Roster.ofList b.agents
      let v := w'.emitAll (s.eventsOf .checking)
      if roster.isEmpty then .error .noAgents v
      else if Text.allBlank s.flow.toList then .error .noFlow v
      else
        match Flow.Readings.empty.check roster.contains s.flow with
        | (.error e, _) => .error (.flow e) v
        | (.ok _, readings) =>
          .ok ⟨s, roster, ⟨.new s.name roster.names, readings⟩⟩
            ((v.emitAll (s.eventsOf .flowValid)).emitAll
              (s.eventsOf (.initialized roster.names))) := by
  rw [Builder.build, bind_of_ok h]
  simp only
  by_cases hempty : (Roster.ofList b.agents).isEmpty
  · rw [if_pos hempty, if_pos hempty]
    rfl
  by_cases hblank : Text.allBlank (b.settings id).flow.toList
  · rw [if_neg hempty, if_pos hblank, if_neg hempty, if_pos hblank]
    rfl
  rw [if_neg hempty, if_neg hblank, if_neg hempty, if_neg hblank]
  obtain ⟨checked, readings⟩ :=
    Flow.Readings.empty.check (Roster.ofList b.agents).contains (b.settings id).flow
  cases checked <;> rfl

/-! ### Operations -/

/-- Something that can be done with a swarm. -/
inductive Operation where
  | tryRun (order : Order)
  | runWith (order : Order)
  | run (task : String)
  | runBatch (tasks : List String)
  /-- A run as an agent. -/
  | respond (task : String) (image : Option String)
  /-- A run as one of any kind of swarms. -/
  | runAsSwarm (task : String)
  | setFlow (flow : String)
  | addAgent (a : Agent)
  | removeAgent (name : String)
  | validateFlow
  | track (agent text : String)
  /-- Other things happen, which leave another world behind. -/
  | meanwhile (w : World)

/-- The text that is tracked by hand, under its name. -/
def Operation.tracked? : Operation → Option (String × String)
  | .track agent text => some (agent, text)
  | _ => none

/-- The operation is a run, or runs one after the other. -/
def Operation.IsRun : Operation → Prop
  | .tryRun _ => True
  | .runWith _ => True
  | .run _ => True
  | .runBatch _ => True
  | .respond .. => True
  | .runAsSwarm _ => True
  | _ => False

/-- What an operation gives back. -/
inductive Outcome where
  | ended (outcome : Except SwarmError String)
  | text (text : String)
  | texts (outcome : Except SwarmError (Table String))
  | answered (outcome : Except AgentError Answer)
  | output (outcome : Except SwarmError Json.Value)
  | removed (outcome : Except SwarmError Agent)
  | checked (outcome : Except SwarmError Unit)
  | nothing

/-- The outcome of a run as a text: its output, or what the failure is reported as. -/
def outputOf : Except SwarmError String → String
  | .ok text => text
  | .error (.flow _) => invalidFlowText
  | .error e => e.message

namespace Session

/-- The session after an operation, whether the operation succeeds or fails. -/
def perform (x : Session) : Operation → Session
  | .tryRun order => (x.tryRun order).2
  | .runWith order => (x.runWith order).2
  | .run task => (x.run task).2
  | .runBatch tasks => (x.runBatch tasks).2
  | .respond task image => (x.respond task image).2
  | .runAsSwarm task => (x.runAsSwarm task).2
  | .setFlow flow => x.setFlow flow
  | .addAgent a => x.addAgent a
  | .removeAgent name => (x.removeAgent name).2
  | .validateFlow => x.validateFlow.2
  | .track agent text => x.track agent text
  | .meanwhile w => { x with world := w }

/-- The session after operations, one after the other. -/
def performAll (x : Session) (ops : List Operation) : Session := ops.foldl perform x

/-- What an operation gives back. -/
def outcome (x : Session) : Operation → Outcome
  | .tryRun order => .ended (x.tryRun order).1
  | .runWith order => .text (x.runWith order).1
  | .run task => .text (x.run task).1
  | .runBatch tasks => .texts (x.runBatch tasks).1
  | .respond task image => .answered (x.respond task image).1
  | .runAsSwarm task => .output (x.runAsSwarm task).1
  | .removeAgent name => .removed (x.removeAgent name).1
  | .validateFlow => .checked x.validateFlow.1
  | _ => .nothing

/-- What operations give back, one after the other. -/
def outcomes (x : Session) : List Operation → List Outcome
  | [] => []
  | op :: ops => x.outcome op :: (x.perform op).outcomes ops

/-- Runs of related sessions, in whatever form, give the same back and leave related sessions
behind. -/
theorem RunAlike.perform {R : Session → Session → Prop} (hR : RunAlike R) {x y : Session}
    (h : R x y) {op : Operation} (hop : op.IsRun) :
    x.outcome op = y.outcome op ∧ R (x.perform op) (y.perform op) := by
  have hboth {α : Type} {p q : α × Session} (wrap : α → Outcome) (hends : EndAlike R p q) :
      wrap p.1 = wrap q.1 ∧ R p.2 q.2 := ⟨congrArg wrap hends.1, hends.2⟩
  cases op with
  | tryRun order => exact hboth .ended (hR.tryRun h order)
  | runWith order => exact hboth .text (hR.runWith h order)
  | run task => exact hboth .text (hR.run h task)
  | runBatch tasks => exact hboth .texts (hR.runBatch h tasks)
  | respond task image => exact hboth .answered (hR.respond h task image)
  | runAsSwarm task => exact hboth .output (hR.runAsSwarm h task)
  | _ => exact hop.elim

/-- The notes of the calls of a run. -/
def notesOfRun (x : Session) (order : Order) : List Note := notesOf (x.runTraced order).2.1

/-- The notes of the calls of runs on tasks, one after the other. -/
def notesOfRuns (x : Session) : List String → List Note
  | [] => []
  | task :: rest => x.notesOfRun { task := task } ++ (x.run task).2.notesOfRuns rest

/-- The notes that an operation adds. -/
def notesOn (x : Session) : Operation → List Note
  | .tryRun order => x.notesOfRun order
  | .runWith order => x.notesOfRun order
  | .run task => x.notesOfRun { task := task }
  | .runBatch tasks => x.notesOfRuns tasks
  | .respond task image => x.notesOfRun { task := task, image := image }
  | .runAsSwarm task => x.notesOfRun { task := task }
  | .track agent text => [⟨agent, text, true⟩]
  | _ => []

/-- The notes that operations add, one after the other. -/
def notesOnAll (x : Session) : List Operation → List Note
  | [] => []
  | op :: ops => x.notesOn op ++ (x.perform op).notesOnAll ops

/-! ### Quiet changes -/

/-- From one session to the other nobody was dealt with, and the swarm is the same. -/
structure Quiet (x y : Session) : Prop where
  world : x.world.Quiet y.world
  swarm : y.swarm = x.swarm

theorem Quiet.refl (x : Session) : x.Quiet x := ⟨.refl x.world, rfl⟩

theorem announce_quiet (x : Session) (notice : Notice) : x.Quiet (x.announce notice) :=
  ⟨World.quiet_emitAll .., rfl⟩

/-- The check of the flow changes nothing but what was read. -/
theorem validateFlow_snd (x : Session) : x.world.Quiet x.validateFlow.2.world ∧
    x.validateFlow.2.swarm.settings = x.swarm.settings ∧
    x.validateFlow.2.swarm.roster = x.swarm.roster ∧
    x.validateFlow.2.swarm.journal = x.swarm.journal := by
  rw [validateFlow]
  obtain ⟨checked, readings⟩ :=
    x.swarm.memory.readings.check x.swarm.roster.contains x.swarm.settings.flow
  cases checked with
  | error e => exact ⟨.refl x.world, rfl, rfl, rfl⟩
  | ok flow => exact ⟨World.quiet_emitAll .., rfl, rfl, rfl⟩

/-! ### Runs in all forms -/

section Runs

variable (x : Session) (order : Order)

/-- A run with its outcome as a text reports a failure and does nothing else besides. -/
theorem runWith_quiet : (x.runTraced order).2.2.Quiet (x.runWith order).2 := by
  rw [runWith, tryRun]
  obtain ⟨outcome, calls, y⟩ := x.runTraced order
  cases outcome with
  | ok text => exact .refl y
  | error e =>
    cases e with
    | flow e => exact y.announce_quiet _
    | _ => exact y.announce_quiet _

/-- A run with its outcome as a text gives the outcome back as a text. -/
theorem runWith_fst : (x.runWith order).1 = outputOf (x.tryRun order).1 := by
  rw [runWith]
  obtain ⟨outcome, y⟩ := x.tryRun order
  cases outcome with
  | ok text => rfl
  | error e => cases e <;> rfl

theorem respond_snd (task : String) (image : Option String) :
    (x.respond task image).2 = (x.runTraced { task := task, image := image }).2.2 := by
  rw [respond, tryRun]
  obtain ⟨outcome, calls, y⟩ := x.runTraced { task := task, image := image }
  cases outcome <;> rfl

theorem runAsSwarm_snd (task : String) :
    (x.runAsSwarm task).2 = (x.runTraced { task := task }).2.2 := by
  rw [runAsSwarm, tryRun]
  obtain ⟨outcome, calls, y⟩ := x.runTraced { task := task }
  cases outcome <;> rfl

theorem runEach_snd (results : Table String) (tasks : List String) :
    (x.runEach results tasks).2 = tasks.foldl (fun x task => (x.run task).2) x := by
  induction tasks generalizing x results with
  | nil => rfl
  | cons task rest ih => rw [runEach, List.foldl_cons, ih]

/-- Runs on several tasks are runs one after the other. -/
theorem runBatch_snd (tasks : List String) :
    (x.runBatch tasks).2 = tasks.foldl (fun x task => (x.run task).2) x := by
  rw [runBatch]
  cases tasks with
  | nil => rfl
  | cons task rest => exact x.runEach_snd .empty (task :: rest)

end Runs

/-! ### What operations add -/

section Growth

variable (x : Session) (order : Order)

/-- Every run has a course, with a valid flow or without, and the agents that are
called in it have names that can stand in a flow. -/
theorem runTraced_course : ∃ due st, (∀ name ∈ due, Flow.IsName name) ∧
    Course x.swarm.roster.crew order.image due x.start (x.runTraced order).2.1 st ∧
    (x.runTraced order).2.2 = x.afterRun st := by
  rw [runTraced_eq]
  cases hcheck : Flow.check x.swarm.roster.crew.has x.swarm.settings.flow with
  | error e =>
    obtain ⟨st, hquiet, -, hrun⟩ :=
      attempt_of_invalid x.swarm.settings x.swarm.roster.crew order x.start hcheck
    have hnone : st.exchanges = [] := hquiet.exchanges
    rw [hrun]
    refine ⟨[], st, by simp, ?_, rfl⟩
    change Course _ _ _ _ st.exchanges st
    rw [hnone]
    exact .of_quiet hquiet
  | ok flow =>
    obtain ⟨hparse, -, -⟩ := Flow.check_eq_ok_iff.mp hcheck
    have hnames : ∀ name ∈ (List.replicate x.swarm.settings.loops flow.agentNames).flatten,
        Flow.IsName name :=
      fun name hname => Flow.isName_of_parse hparse (mem_agentNames_of_due hname)
    obtain ⟨calls, st, hcourse, hend⟩ := (attempt_traced hcheck order x.start).exists_course
    have hcalls : st.exchanges = calls := hcourse.exchanges
    subst hcalls
    refine ⟨_, st, hnames, ?_⟩
    rcases hend with ⟨text, hrun⟩ | ⟨e, hrun⟩
    · rw [hrun]
      exact ⟨hcourse, rfl⟩
    · rw [hrun]
      exact ⟨hcourse, rfl⟩

/-- A run adds the notes of its calls to the journal. -/
theorem runTraced_grows :
    x.swarm.journal.Grows (x.notesOfRun order) (x.runTraced order).2.2.swarm.journal := by
  obtain ⟨due, st, -, hcourse, hend⟩ := x.runTraced_course order
  rw [hend]
  exact hcourse.journal

theorem runWith_grows :
    x.swarm.journal.Grows (x.notesOfRun order) (x.runWith order).2.swarm.journal := by
  have hswarm := (x.runWith_quiet order).swarm
  rw [hswarm]
  exact x.runTraced_grows order

theorem runs_grow (tasks : List String) :
    x.swarm.journal.Grows (x.notesOfRuns tasks)
      (tasks.foldl (fun x task => (x.run task).2) x).swarm.journal := by
  induction tasks generalizing x with
  | nil => exact .nil _
  | cons task rest ih => exact (x.runWith_grows { task := task }).append (ih (x.run task).2)

/-- An operation adds its notes to the journal and changes nothing else in it. -/
theorem perform_grows (op : Operation) :
    x.swarm.journal.Grows (x.notesOn op) (x.perform op).swarm.journal := by
  cases op with
  | tryRun order => exact x.runTraced_grows order
  | runWith order => exact x.runWith_grows order
  | run task => exact x.runWith_grows { task := task }
  | runBatch tasks =>
    rw [perform, runBatch_snd]
    exact x.runs_grow tasks
  | respond task image =>
    rw [perform, respond_snd]
    exact x.runTraced_grows _
  | runAsSwarm task =>
    rw [perform, runAsSwarm_snd]
    exact x.runTraced_grows _
  | setFlow flow => exact .nil _
  | addAgent a => exact .nil _
  | removeAgent name =>
    rw [perform, removeAgent]
    cases x.swarm.roster.remove name <;> exact .nil _
  | validateFlow =>
    obtain ⟨-, -, -, hjournal⟩ := x.validateFlow_snd
    rw [perform, hjournal]
    exact .nil _
  | track agent text => exact .byHand (.nil _)
  | meanwhile w => exact .nil _

/-- Operations, one after the other, add their notes to the journal. -/
theorem performAll_grows (ops : List Operation) :
    x.swarm.journal.Grows (x.notesOnAll ops) (x.performAll ops).swarm.journal := by
  induction ops generalizing x with
  | nil => exact .nil _
  | cons op ops ih => exact (x.perform_grows op).append (ih (x.perform op))

end Growth

/-! ### Sessions that differ in their histories only -/

end Session

/-- The conversations of the two runs are the same. -/
def Likeness.butHistory : Likeness where
  kept _ := True
  journal j k := j.conversation = k.conversation
  exchanges _ _ := True
  journal_record h _ _ _ := by rw [Journal.record, Journal.record, h]
  exchanges_append _ _ := trivial

namespace Session

/-- The two sessions are alike, but their histories may differ. -/
structure AlikeButHistory (x y : Session) : Prop where
  world : x.world.Agree (fun _ => True) y.world
  settings : x.swarm.settings = y.swarm.settings
  roster : x.swarm.roster = y.swarm.roster
  conversation : x.swarm.journal.conversation = y.swarm.journal.conversation

namespace AlikeButHistory

variable {x y : Session}

theorem refl (x : Session) : x.AlikeButHistory x := ⟨.refl _ x.world, rfl, rfl, rfl⟩

/-- What is quiet does not show. -/
theorem quiet {x' y' : Session} (h : x.AlikeButHistory y) (hx : x.Quiet x') (hy : y.Quiet y') :
    x'.AlikeButHistory y' where
  world := h.world.quiet hx.world hy.world
  settings := by rw [hx.swarm, hy.swarm, h.settings]
  roster := by rw [hx.swarm, hy.swarm, h.roster]
  conversation := by rw [hx.swarm, hy.swarm, h.conversation]

/-- Runs of such sessions come to the same outcomes. -/
theorem runAlike : RunAlike AlikeButHistory where
  name_eq h := congrArg Settings.name h.settings
  announce h _ := h.quiet (announce_quiet ..) (announce_quiet ..)
  tryRun := by
    intro x y h order
    have hstart : Likeness.butHistory.States x.start y.start :=
      ⟨h.world, h.conversation, trivial⟩
    have hboth := attempt_alike .butHistory y.swarm.settings (crewOf_steady y.swarm.roster.agents)
      order _ _ hstart
    obtain ⟨outcome, st, su, hend, hx, hy⟩ := runTraced_of_together (x := x) (y := y) (by
      rw [h.settings, h.roster]
      exact hboth)
    rw [Session.tryRun, Session.tryRun, hx, hy]
    exact ⟨rfl, hend.world, h.settings, h.roster, hend.journal⟩

/-- The same operation in two sessions. -/
theorem perform (h : x.AlikeButHistory y) (op : Operation) :
    (x.perform op).AlikeButHistory (y.perform op) := by
  by_cases hop : op.IsRun
  · exact (runAlike.perform h hop).2
  cases op with
  | setFlow flow =>
    refine ⟨h.world.quiet (World.quiet_emitAll ..) (World.quiet_emitAll ..), ?_, h.roster,
      h.conversation⟩
    exact congrArg (fun s : Settings => { s with flow := flow }) h.settings
  | addAgent a =>
    refine ⟨h.world.quiet (World.quiet_emitAll ..) (World.quiet_emitAll ..), h.settings, ?_,
      h.conversation⟩
    exact congrArg (Roster.add · a) h.roster
  | removeAgent name =>
    rw [Session.perform, Session.perform, removeAgent, removeAgent, h.roster]
    cases y.swarm.roster.remove name with
    | error e => exact h
    | ok found =>
      exact ⟨h.world.quiet (World.quiet_emitAll ..) (World.quiet_emitAll ..), h.settings, rfl,
        h.conversation⟩
  | validateFlow =>
    obtain ⟨hworld, hsettings, hroster, hjournal⟩ := x.validateFlow_snd
    obtain ⟨hworld', hsettings', hroster', hjournal'⟩ := y.validateFlow_snd
    exact ⟨h.world.quiet hworld hworld', hsettings.trans (h.settings.trans hsettings'.symm),
      hroster.trans (h.roster.trans hroster'.symm), by
        rw [Session.perform, Session.perform, hjournal, hjournal', h.conversation]⟩
  | track agent text => exact ⟨h.world, h.settings, h.roster, h.conversation⟩
  | meanwhile w => exact ⟨.refl _ w, h.settings, h.roster, h.conversation⟩
  | _ => exact absurd trivial hop

end AlikeButHistory

end Session

end Relay
