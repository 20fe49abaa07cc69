import Relay.Proofs.Run.Course
import Relay.Swarm

/-!
# The exact trace of a run

A run of a swarm whose flow is valid calls the agents of the flow in flow order,
loop after loop, each with the image of the order. If it succeeds, those are all
its calls; if an agent fails, that agent was the last to be called; if a human
fails, all agents called so far had answered. Nothing else can fail. Both logs of
the swarm gain the answers of those calls and nothing else.

## Main definitions

* `Flow.dueCalls` — the agents that a run is to call.
* `EndsWith` — how a run ends with the calls that it made.
* `ExactRun` — everything that is said about a run and its calls.
* `Session.start`, `Session.resultOf` — how a run of a session starts, and what it ends in.

## Main statements

* `Session.runTraced_exact` — every run with a valid flow.
-/

namespace Relay

/-- The agents that a run along the flow is to call, in order. -/
def Flow.dueCalls (f : Flow) (loops : Nat) : List String :=
  (List.replicate loops f.agentNames).flatten

/-- How a run ends with the calls that it made. It succeeds when all calls that
were due were made and answered. Otherwise they are the first of those that were
due, and either the last one failed and all before it were answered, or all were
answered and a human failed. -/
def EndsWith (due : List String) (calls : List Exchange) : Except SwarmError String → Prop
  | .ok _ => calls.map Exchange.agent = due ∧ ∀ c ∈ calls, c.IsAnswered
  | .error (.agent e) => calls.map Exchange.agent <+: due ∧ ∃ answered last,
      calls = answered ++ [last] ∧ (∀ c ∈ answered, c.IsAnswered) ∧ last.outcome = .error e
  | .error (.human _) => calls.map Exchange.agent <+: due ∧ ∀ c ∈ calls, c.IsAnswered
  | .error _ => False

/-- The run that the order asks of the session, along the flow, has this outcome,
makes these calls of its agents and leaves the session `y` behind. -/
structure ExactRun (x : Session) (order : Order) (flow : Flow) (outcome : Except SwarmError String)
    (calls : List Exchange) (y : Session) : Prop where
  /-- The outcome and the session are those of the run. -/
  tryRun : x.tryRun order = (outcome, y)
  /-- The calls are calls of the registered agents, and no other agent was called. -/
  made : Calls x.swarm.roster.crew x.world calls y.world
  /-- Each call was given the image of the order. -/
  images : ∀ c ∈ calls, c.image = order.image
  /-- The calls are those that were due, as far as the run got. -/
  ending : EndsWith (flow.dueCalls x.swarm.settings.loops) calls outcome
  /-- The conversation gains one message for each answer, in the order of the calls. -/
  conversation : ∃ added,
    y.swarm.journal.conversation.messages = x.swarm.journal.conversation.messages ++ added ∧
      added.map Message.said = (notesOf calls).map Note.said
  /-- The history of each agent gains its own answers, in the order of the calls. -/
  history : ∀ name, y.swarm.journal.history.get name =
    x.swarm.journal.history.get name ++ Note.textsOf name (notesOf calls)
  /-- After a success, each agent of the flow has one more answer for each loop. -/
  counts : ∀ text, outcome = .ok text →
    y.swarm.journal.conversation.length =
        x.swarm.journal.conversation.length + x.swarm.settings.loops * flow.agentNames.length ∧
      ∀ name, (y.swarm.journal.history.get name).length =
        (x.swarm.journal.history.get name).length +
          if name ∈ flow.agentNames then x.swarm.settings.loops else 0

/-! ### Counting calls -/

theorem Flow.length_dueCalls (f : Flow) (loops : Nat) :
    (f.dueCalls loops).length = loops * f.agentNames.length := by
  rw [dueCalls, List.length_flatten, List.map_replicate, List.sum_replicate_nat]

/-- An agent of a valid flow is due once in each loop. -/
theorem Flow.count_dueCalls {f : Flow} (h : f.members.Nodup) (loops : Nat) (name : String) :
    (f.dueCalls loops).count name = if name ∈ f.agentNames then loops else 0 := by
  rw [dueCalls, List.count_flatten, List.map_replicate, List.sum_replicate_nat]
  split
  · next hmem => rw [List.count_eq_one_of_mem (nodup_agentNames h) hmem, Nat.mul_one]
  · next hmem => rw [List.count_eq_zero_of_not_mem hmem, Nat.mul_zero]

/-- If all calls were answered, there is a note for each. -/
theorem map_agent_notesOf {calls : List Exchange} (h : ∀ c ∈ calls, c.IsAnswered) :
    (notesOf calls).map Note.agent = calls.map Exchange.agent := by
  induction calls with
  | nil => rfl
  | cons c calls ih =>
    obtain ⟨answer, hanswer⟩ := h c List.mem_cons_self
    have hnote : c.note? = some ⟨c.agent, answer.text?.getD "", false⟩ := by
      rw [Exchange.note?, Exchange.answer?, hanswer]
      rfl
    rw [notesOf, List.filterMap_cons_some hnote, List.map_cons, List.map_cons]
    exact congrArg (c.agent :: ·) (ih fun c' hc => h c' (List.mem_cons_of_mem c hc))

theorem Note.length_textsOf (name : String) (notes : List Note) :
    (textsOf name notes).length = (notes.map agent).count name := by
  rw [textsOf, List.length_map, List.count, List.countP_map, List.countP_eq_length_filter]
  rfl

/-- The notes of calls are answers, none is made by hand. -/
theorem answers_notesOf (calls : List Exchange) : Note.answers (notesOf calls) = notesOf calls := by
  refine List.filter_eq_self.mpr fun n hn => ?_
  obtain ⟨c, -, hc⟩ := List.mem_filterMap.mp hn
  obtain ⟨answer, -, rfl⟩ := Option.map_eq_some_iff.mp hc
  rfl

/-! ### Runs of a session -/

namespace Session

/-- The state in which a run of the session starts. -/
abbrev start (x : Session) : RunState := ⟨x.world, x.swarm.memory, []⟩

/-- The result of a run of the session, read off the end of the run. -/
def resultOf (x : Session) :
    EStateM.Result SwarmError RunState String → Except SwarmError String × List Exchange × Session
  | .ok text st => (.ok text, st.exchanges, x.afterRun st)
  | .error e st => (.error e, st.exchanges, x.afterRun st)

theorem runTraced_eq (x : Session) (order : Order) :
    x.runTraced order =
      x.resultOf (attempt x.swarm.settings x.swarm.roster.crew order x.start) := by
  rw [runTraced, start]
  cases attempt x.swarm.settings x.swarm.roster.crew order x.start <;> rfl

variable {x : Session} {order : Order} {flow : Flow} {calls : List Exchange} {st : RunState}
  {outcome : Except SwarmError String}

/-- A course from the beginning of a run, read as what both logs gain. -/
theorem exactRun_of_course {due : List String} (hvalid : flow.members.Nodup)
    (hrun : x.runTraced order = (outcome, st.exchanges, x.afterRun st))
    (h : Course x.swarm.roster.crew order.image due x.start calls st)
    (hending : EndsWith (flow.dueCalls x.swarm.settings.loops) calls outcome) :
    ExactRun x order flow (x.runTraced order).1 (x.runTraced order).2.1
      (x.runTraced order).2.2 := by
  have hcalls : st.exchanges = calls := h.exchanges
  rw [hrun, hcalls]
  have hmessages := h.journal.messages
  rw [answers_notesOf calls] at hmessages
  have htryRun : x.tryRun order = (outcome, x.afterRun st) := by
    rw [tryRun, hrun]
  refine ⟨htryRun, h.world, h.images, hending, hmessages, h.journal.get, fun text htext => ?_⟩
  subst htext
  obtain ⟨hall, hanswered⟩ := hending
  have hagents := (map_agent_notesOf hanswered).trans hall
  constructor
  · obtain ⟨added, hadded, hsaid⟩ := hmessages
    have hlength : added.length = (flow.dueCalls x.swarm.settings.loops).length := by
      rw [← hagents, List.length_map, ← List.length_map Message.said, hsaid, List.length_map]
    change st.memory.journal.conversation.messages.length = _
    rw [hadded, List.length_append, hlength, Flow.length_dueCalls]
    rfl
  · intro name
    change (st.memory.journal.history.get name).length = _
    rw [h.journal.get name, List.length_append, Note.length_textsOf]
    rw [hagents, Flow.count_dueCalls hvalid]

/-- A run of a swarm with a valid flow makes exactly the calls that are due, as
far as it gets, and both logs gain exactly the answers to them. -/
theorem runTraced_exact (x : Session) (order : Order) {flow : Flow}
    (h : Flow.check x.swarm.roster.contains x.swarm.settings.flow = .ok flow) :
    ExactRun x order flow (x.runTraced order).1 (x.runTraced order).2.1
      (x.runTraced order).2.2 := by
  obtain ⟨-, -, hvalid⟩ := Flow.check_eq_ok_iff.mp h
  rw [← Roster.has_crew] at h
  have htraced := attempt_traced h order x.start
  have hrun := runTraced_eq x order
  generalize attempt x.swarm.settings x.swarm.roster.crew order x.start = r at htraced hrun
  cases htraced with
  | done hcourse hall hanswered =>
    exact exactRun_of_course hvalid hrun hcourse ⟨hall, hanswered⟩
  | agentFailed hcourse hanswered hlast =>
    exact exactRun_of_course hvalid hrun hcourse ⟨hcourse.due, _, _, rfl, hanswered, hlast⟩
  | humanFailed hcourse hanswered =>
    exact exactRun_of_course hvalid hrun hcourse ⟨hcourse.due, hanswered⟩

/-! ### A run that breaks off -/

namespace Sample

/-- An agent that answers with its task and its name, but fails when it is called
more often than it will bear. -/
def agent (number : Nat) (name : String) (bears : Nat) : Agent :=
  .simple number name "" fun past r =>
    if past.length < bears then .ok (.text (r.task ++ name)) else .error ⟨name, "enough"⟩

/-- A swarm that was not run before, in a world of its own. -/
def session (flow : String) (loops : Nat) (agents : List Agent) : Session where
  world := { terminal := .ofInput [104, 105, 10] }
  swarm := {
    settings := {
      id := "1", name := "S", description := "", flow := flow, loops := loops, verbose := false,
      humanInTheLoop := false, human := none, autosave := false, directory := "" }
    roster := .ofList agents
    memory := default }

end Sample

/-- In its second loop this run breaks off at the second member of a stage. -/
theorem runTraced_exact_breaks_off :
    let x := Sample.session "A -> B, C, H" 2
      [Sample.agent 1 "A" 5, Sample.agent 2 "B" 5, Sample.agent 3 "C" 1]
    let order : Order := ⟨"t", some "i", [⟨"B", "extra"⟩]⟩
    let flow : Flow := ⟨[⟨.agent "A", []⟩, ⟨.agent "B", [.agent "C", .human]⟩]⟩
    Flow.check x.swarm.roster.contains x.swarm.settings.flow = .ok flow ∧
      ExactRun x order flow (x.runTraced order).1 (x.runTraced order).2.1 (x.runTraced order).2.2 ∧
      (x.runTraced order).2.1.map Exchange.agent = ["A", "B", "C", "A", "B", "C"] ∧
      (x.runTraced order).1 = .error (.agent ⟨"C", "enough"⟩) := by
  intro x order flow
  have h : Flow.check x.swarm.roster.contains x.swarm.settings.flow = .ok flow := by decide +kernel
  exact ⟨h, runTraced_exact x order h, by decide +kernel, by decide +kernel⟩

end Session

end Relay
