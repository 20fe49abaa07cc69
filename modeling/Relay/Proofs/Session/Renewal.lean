import Relay.Proofs.Run.SideBySide
import Relay.Proofs.Session.SideBySide

/-!
# Runs do not depend on the past

What a swarm has noted and read is never looked at by a run, but for the reading of
its flow, and that is used only if it is what would be read now. Nor are agents that
the flow does not name. So a swarm does what it would do without a past and with
other agents beside those: in the same world it comes to the same outcome, deals
with the same agents and humans, and leaves the same world behind; and what it notes
is what it would note then.

The two runs are led side by side. Their worlds and exchanges are the same all along,
and only the two memories may differ; the single part of a run that notes something
notes the same in both.

## Main definitions

* `Journal.SameGain` — what two journals have gained is the same.
* `RunState.Abreast`, `Session.Abreast` — runs and sessions that differ in their past only.
* `Session.renewed` — a swarm with other agents, and without its past.
* `Session.EndsAsRenewed` — what is said about an operation in both sessions.

## Main statements

* `attempt_abreast` — runs that differ in their past only.
* `Session.Abreast.runBatch` — runs on several tasks.
* `Session.ends_as_renewed` — all forms of a run.
-/

namespace Relay

/-! ### What two journals gain -/

namespace Journal

/-- What both logs of `j'` have beyond those of `j` is what `k'` has beyond `k`. -/
structure SameGain (j k j' k' : Journal) : Prop where
  messages : ∃ added, j'.conversation.messages = j.conversation.messages ++ added ∧
    k'.conversation.messages = k.conversation.messages ++ added
  texts : ∀ name, ∃ added, j'.history.get name = j.history.get name ++ added ∧
    k'.history.get name = k.history.get name ++ added

variable {j k j' k' : Journal}

theorem SameGain.refl (j k : Journal) : j.SameGain k j k :=
  ⟨⟨[], (List.append_nil _).symm, (List.append_nil _).symm⟩,
    fun _ => ⟨[], (List.append_nil _).symm, (List.append_nil _).symm⟩⟩

/-- An answer is noted in both journals. -/
theorem SameGain.record (h : j.SameGain k j' k') (agent text : String) (time : Timestamp) :
    j.SameGain k (j'.record agent text time) (k'.record agent text time) where
  messages := by
    obtain ⟨added, hj, hk⟩ := h.messages
    refine ⟨added ++ [⟨.assistant agent, .text text, time⟩], ?_, ?_⟩
    · rw [Journal.record, Conversation.add, hj, List.append_assoc]
    · rw [Journal.record, Conversation.add, hk, List.append_assoc]
  texts name := by
    obtain ⟨added, hj, hk⟩ := h.texts name
    rw [Journal.record, Journal.record, History.get_track, History.get_track]
    by_cases hname : agent = name
    · refine ⟨added ++ [text], ?_, ?_⟩
      · rw [if_pos hname, hj, List.append_assoc]
      · rw [if_pos hname, hk, List.append_assoc]
    · rw [if_neg hname, if_neg hname]
      exact ⟨added, hj, hk⟩

end Journal

/-- The states of two runs are the same, but for what was noted and read before
they started from the journals `j` and `k`. -/
structure RunState.Abreast (j k : Journal) (st su : RunState) : Prop where
  world : st.world = su.world
  exchanges : st.exchanges = su.exchanges
  journals : j.SameGain k st.memory.journal su.memory.journal

/-! ### The parts of a run -/

section Parts

variable {j k : Journal} {s : Settings} {crew crew' : Crew} {image : Option String}

open RunState (Abreast)

theorem emitEvents_abreast (events : List Event) :
    Alike (Abreast j k) Eq (emitEvents events) (emitEvents events) := by
  rintro ⟨w, m, es⟩ ⟨_, m', _⟩ ⟨rfl, rfl, h⟩
  exact .ok ⟨rfl, rfl, h⟩

theorem drawNumber_abreast : Alike (Abreast j k) Eq drawNumber drawNumber := by
  rintro ⟨w, m, es⟩ ⟨_, m', _⟩ ⟨rfl, rfl, h⟩
  exact .ok ⟨rfl, rfl, h⟩

theorem promptHuman_abreast (prompt : Prompt) :
    Alike (Abreast j k) Eq (promptHuman prompt) (promptHuman prompt) := by
  rintro ⟨w, m, es⟩ ⟨_, m', _⟩ ⟨rfl, rfl, h⟩
  rw [promptHuman, promptHuman]
  obtain ⟨answer, w'⟩ := w.ask prompt
  cases answer with
  | ok text => exact .ok ⟨rfl, rfl, h⟩
  | error e => exact .error rfl ⟨rfl, rfl, h⟩

theorem consultHuman_abreast (human : Human) (task : String) :
    Alike (Abreast j k) Eq (consultHuman human task) (consultHuman human task) := by
  rintro ⟨w, m, es⟩ ⟨_, m', _⟩ ⟨rfl, rfl, h⟩
  exact .ok ⟨rfl, rfl, h⟩

theorem exchange_abreast (agent : String) (respond : Responder) (task : String) :
    Alike (Abreast j k) Eq (exchange agent respond task image)
      (exchange agent respond task image) := by
  rintro ⟨w, m, es⟩ ⟨_, m', _⟩ ⟨rfl, rfl, h⟩
  rw [exchange, exchange]
  cases respond task image w with
  | ok answer w' => exact .ok ⟨rfl, rfl, h⟩
  | error e w' => exact .error rfl ⟨rfl, rfl, h⟩

theorem recordAnswer_abreast (agent text : String) :
    Alike (Abreast j k) Eq (recordAnswer agent text) (recordAnswer agent text) := by
  rintro ⟨w, m, es⟩ ⟨_, m', _⟩ ⟨rfl, rfl, h⟩
  exact .ok ⟨rfl, rfl, h.record agent text w.clock⟩

theorem saveRecord_abreast (runId task output : String) :
    Alike (Abreast j k) Eq (saveRecord s runId task output) (saveRecord s runId task output) := by
  intro st su h
  have hrecord : st.recordOf s runId task output = su.recordOf s runId task output := by
    rw [RunState.recordOf, RunState.recordOf, h.exchanges, h.world]
  rw [saveRecord_apply, saveRecord_apply, hrecord, h.world]
  generalize su.world.files.saveJson (recordPath s.directory task)
    (.value (su.recordOf s runId task output).toJson) = saved
  obtain ⟨outcome, files⟩ := saved
  cases outcome with
  | ok u => exact .ok ⟨rfl, h.exchanges, h.journals⟩
  | error e => exact .ok ⟨rfl, h.exchanges, h.journals⟩

/-- Along one flow, the two runs call the same agents. -/
theorem runFlow_abreast {flow : Flow} (order : Order)
    (h : ∀ name ∈ flow.agentNames, Table.lookup name crew = Table.lookup name crew') :
    Alike (Abreast j k) Eq (runFlow s crew order flow) (runFlow s crew' order flow) := by
  have hreport (notice : Notice) : Alike (Abreast j k) Eq (report s notice) (report s notice) :=
    emitEvents_abreast _
  have hsteps (task : String) : Alike (Abreast j k) Eq
      (runSteps s crew order.image (flow.plan order.custom.head?) task)
      (runSteps s crew' order.image (flow.plan order.custom.head?) task) := by
    refine runSteps_congr hreport (fun _ prompt task => ?_) (fun name hname task => ?_) task
    · exact askHuman_congr hreport rfl rfl (promptHuman_abreast prompt)
        fun human _ _ => consultHuman_abreast human task
    · have hfind := h name (agentNames_plan flow order.custom.head? ▸ hname)
      exact callAgent_congr hreport hfind (.throw rfl)
        (fun respond _ => exchange_abreast name respond task) (recordAnswer_abreast name)
  exact runFlow_congr emitEvents_abreast drawNumber_abreast
    (runLoops_congr hreport rfl hsteps 0 order.task s.loops)
    fun number output => keepRecord_congr rfl (saveRecord_abreast _ _ _)

/-- Two runs go alike if the agents that the flow names are the same. -/
theorem attempt_abreast (order : Order) (h : ∀ f, Flow.parse s.flow = .ok f →
      ∀ name ∈ f.agentNames, Table.lookup name crew = Table.lookup name crew') :
    Alike (Abreast j k) Eq (attempt s crew order) (attempt s crew' order) := by
  have hsame : Flow.check crew'.has s.flow = Flow.check crew.has s.flow :=
    Flow.check_congr fun f hf name hname => by rw [Crew.has, Crew.has, h f hf name hname]
  intro st su habreast
  -- One of the two may have kept the flow and the other not, but they read the same.
  obtain ⟨st', hst, hworld, hrun⟩ := checkFlow_quiet s crew st
  obtain ⟨su', hsu, hworld', hrun'⟩ := checkFlow_quiet s crew' su
  have hstart : Abreast j k st' su' := {
    world := by rw [hworld, hworld', habreast.world]
    exchanges := by rw [hst.exchanges, hsu.exchanges, habreast.exchanges]
    journals := by rw [hst.journal, hsu.journal]; exact habreast.journals }
  rw [hsame] at hrun'
  rw [attempt, attempt]
  cases hcheck : Flow.check crew.has s.flow with
  | error e =>
    rw [hcheck] at hrun hrun'
    rw [bind_of_error hrun, bind_of_error hrun']
    exact .error rfl hstart
  | ok flow =>
    rw [hcheck] at hrun hrun'
    rw [bind_of_ok hrun, bind_of_ok hrun']
    exact runFlow_abreast order (h flow (Flow.check_eq_ok_iff.mp hcheck).1) _ _ hstart

end Parts

/-! ### Runs of two sessions -/

namespace Session

/-- The two sessions are the same, but for what their swarms noted and read before
and for agents that their flow does not name. Both gained the same since they had
the journals `j` and `k`. -/
structure Abreast (j k : Journal) (x y : Session) : Prop where
  world : x.world = y.world
  settings : x.swarm.settings = y.swarm.settings
  agents : ∀ f, Flow.parse x.swarm.settings.flow = .ok f → ∀ name ∈ f.agentNames,
    x.swarm.roster.find? name = y.swarm.roster.find? name
  journals : j.SameGain k x.swarm.journal y.swarm.journal

namespace Abreast

variable {j k : Journal} {x y : Session}

theorem announce (h : Abreast j k x y) (notice : Notice) :
    Abreast j k (x.announce notice) (y.announce notice) where
  world := by rw [Session.announce, Session.announce, h.world, h.settings]
  settings := h.settings
  agents := h.agents
  journals := h.journals

theorem runTraced (h : Abreast j k x y) (order : Order) :
    (x.runTraced order).1 = (y.runTraced order).1 ∧
      (x.runTraced order).2.1 = (y.runTraced order).2.1 ∧
      Abreast j k (x.runTraced order).2.2 (y.runTraced order).2.2 := by
  have hagents : ∀ f, Flow.parse x.swarm.settings.flow = .ok f → ∀ name ∈ f.agentNames,
      Table.lookup name x.swarm.roster.crew = Table.lookup name y.swarm.roster.crew := by
    intro f hf name hname
    rw [Roster.lookup_crew, Roster.lookup_crew, h.agents f hf name hname]
  have hboth := attempt_abreast order hagents x.start y.start ⟨h.world, rfl, h.journals⟩
  obtain ⟨outcome, st, su, hend, hx, hy⟩ := runTraced_of_together (x := x) (y := y) (by
    rw [← h.settings]
    exact hboth)
  rw [hx, hy]
  exact ⟨rfl, hend.exchanges, hend.world, h.settings, h.agents, hend.journals⟩

/-- Runs of the two sessions, and batches of runs, come to the same outcomes. -/
theorem runAlike (j k : Journal) : RunAlike (Abreast j k) where
  name_eq h := congrArg Settings.name h.settings
  announce h := h.announce
  tryRun h order :=
    have ⟨houtcome, _, hend⟩ := h.runTraced order
    ⟨houtcome, hend⟩

end Abreast

/-! ### Swarms that have no past -/

/-- The swarm with another roster and without its past: nothing was noted, and no
flow was read. -/
def renewed (x : Session) (r : Roster) : Session where
  world := x.world
  swarm := {
    settings := x.swarm.settings
    roster := r
    memory := ⟨.new x.swarm.name r.names, .empty⟩ }

/-- An operation on the session `x` ended like the same operation on a session
without a past: with the same outcome, in the same world, and behind its own past
the swarm has noted just what the other has noted. -/
structure EndsAsRenewed {α : Type} (x : Session) (p q : α × Session) : Prop where
  outcome : p.1 = q.1
  world : p.2.world = q.2.world
  conversation : p.2.swarm.journal.conversation.messages =
    x.swarm.journal.conversation.messages ++ q.2.swarm.journal.conversation.messages
  history : ∀ name, p.2.swarm.journal.history.get name =
    x.swarm.journal.history.get name ++ q.2.swarm.journal.history.get name

theorem EndsAsRenewed.of_abreast {α : Type} {x : Session} {r : Roster} {p q : α × Session}
    (h : EndAlike (Abreast x.swarm.journal (x.renewed r).swarm.journal) p q) :
    x.EndsAsRenewed p q where
  outcome := h.1
  world := h.2.world
  conversation := by
    obtain ⟨added, hp, hq⟩ := h.2.journals.messages
    rw [hp, hq]
    rfl
  history name := by
    obtain ⟨added, hp, hq⟩ := h.2.journals.texts name
    have hnone : (x.renewed r).swarm.journal.history.get name = [] := History.get_ofNames ..
    rw [hp, hq, hnone, List.nil_append]

/-- Whatever a swarm did before, and whatever agents it has that its flow does not
name, it does what it would do without them. What it read before is what it would
read now, whatever the digests are. -/
theorem ends_as_renewed (x : Session) (r : Roster)
    (h : ∀ f, Flow.parse x.swarm.settings.flow = .ok f → ∀ name ∈ f.agentNames,
      x.swarm.roster.find? name = r.find? name) :
    (∀ order, (x.runTraced order).2.1 = ((x.renewed r).runTraced order).2.1 ∧
      x.EndsAsRenewed (x.tryRun order) ((x.renewed r).tryRun order) ∧
      x.EndsAsRenewed (x.runWith order) ((x.renewed r).runWith order)) ∧
    (∀ task, x.EndsAsRenewed (x.run task) ((x.renewed r).run task)) ∧
    (∀ tasks, x.EndsAsRenewed (x.runBatch tasks) ((x.renewed r).runBatch tasks)) ∧
    (∀ digest text, (x.swarm.memory.readings.read digest text).1 = Flow.parse text) ∧
    ∀ registered text,
      (x.swarm.memory.readings.check registered text).1 = Flow.check registered text := by
  have hstart : Abreast x.swarm.journal (x.renewed r).swarm.journal x (x.renewed r) :=
    ⟨rfl, rfl, h, .refl _ _⟩
  have hruns := Abreast.runAlike x.swarm.journal (x.renewed r).swarm.journal
  refine ⟨fun order => ⟨?_, ?_, ?_⟩, fun task => ?_, fun tasks => ?_, ?_, ?_⟩
  · exact (hstart.runTraced order).2.1
  · exact .of_abreast (hruns.tryRun hstart order)
  · exact .of_abreast (hruns.runWith hstart order)
  · exact .of_abreast (hruns.run hstart task)
  · exact .of_abreast (hruns.runBatch hstart tasks)
  · exact fun digest text => Flow.Readings.read_fst digest _ text
  · exact fun registered text => Flow.Readings.check_fst registered _ text

/-! ### A reading under the digest of another text -/

namespace Sample

/-- The agent `B` has answered once before, along another flow, and what was read of
that flow is kept under the digest of the flow that is set now. -/
def worked : Session :=
  let x := session "A -> B, H" 1 [agent 1 "A" 5, agent 2 "B" 1, agent 3 "C" 5]
  let journal := (Journal.new "S" ["A", "B", "C"]).record "B" "sB" .epoch
  let reading : Flow.Reading :=
    ⟨"C -> B", ⟨[⟨.agent "C", []⟩, ⟨.agent "B", []⟩]⟩, by decide +kernel⟩
  { world := x.world.note ⟨2, .agent "B", "s", none⟩
    swarm := { x.swarm with memory := ⟨journal, ⟨[(Digest.ofText "A -> B, H", reading)]⟩⟩ } }

/-- The agents of that swarm that its flow names, and another one. -/
def others : Roster := .ofList [agent 2 "B" 1, agent 1 "A" 5, agent 4 "D" 5]

end Sample

/-- The flow that is set is run, not the one that was kept, and `B` still knows that
it was called before. -/
theorem ends_as_renewed_collision :
    (∀ f, Flow.parse Sample.worked.swarm.settings.flow = .ok f → ∀ name ∈ f.agentNames,
      Sample.worked.swarm.roster.find? name = Sample.others.find? name) ∧
    Sample.worked.EndsAsRenewed (Sample.worked.tryRun ⟨"t", some "i", []⟩)
      ((Sample.worked.renewed Sample.others).tryRun ⟨"t", some "i", []⟩) ∧
    (Sample.worked.tryRun ⟨"t", some "i", []⟩).1 = .error (.agent ⟨"B", "enough"⟩) ∧
    (Sample.worked.tryRun ⟨"t", some "i", []⟩).2.swarm.journal.conversation.messages.map
      Message.said = [(.assistant "B", .text "sB"), (.assistant "A", .text "tA")] := by
  have hagents : ∀ f, Flow.parse Sample.worked.swarm.settings.flow = .ok f →
      ∀ name ∈ f.agentNames,
        Sample.worked.swarm.roster.find? name = Sample.others.find? name := by
    intro f hf name hname
    have hflow : Flow.parse Sample.worked.swarm.settings.flow =
        .ok ⟨[⟨.agent "A", []⟩, ⟨.agent "B", [.human]⟩]⟩ := by decide +kernel
    obtain rfl := Except.ok.inj (hflow.symm.trans hf)
    have hnames : name = "A" ∨ name = "B" := by
      simpa [Flow.agentNames, Flow.members, Stage.members, Member.agent?] using hname
    rcases hnames with rfl | rfl <;> rfl
  obtain ⟨hruns, -⟩ := ends_as_renewed Sample.worked Sample.others hagents
  obtain ⟨-, htryRun, -⟩ := hruns ⟨"t", some "i", []⟩
  exact ⟨hagents, htryRun, by decide +kernel, by decide +kernel⟩

end Session

end Relay
