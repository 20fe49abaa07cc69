import Relay.Proofs.Flow.Leads
import Relay.Proofs.Run.Composition
import Relay.Proofs.Run.LeftOut

/-!
# Custom tasks are stages

Only the first of the custom tasks of an order counts. If its target leads no stage,
the run is one without custom tasks. Otherwise it leads exactly one, and the custom
task does what a stage of its own would do there: a stage of an agent that nobody else
knows, which answers with its task and the text. Once the calls of that agent and what
it noted are left out, the two runs are the same, in every loop and whatever the text
is. It is never read as a flow.

## Main definitions

* `Agent.appender` — the agent that does what a custom task does.
* `Session.Fresh` — a number under which nobody was asked.
* `SameRunBut` — runs that are the same once one agent is left out.
* `SpellsOut` — a crew that has the agent in addition.

## Main statements

* `SpellsOut.added_alike` — the text is appended in both ways.
* `SpellsOut.loops_alike` — the loops of the two runs.
* `Roster.check_add` — the flow with the stage of its own is valid.
* `Session.runTraced_spelled`, `Session.runTraced_not_led` — the two kinds of targets.
* `Session.runTraced_custom` — all that custom tasks do.
-/

namespace Relay

/-- An agent that appends the text to its task, as a custom task does. -/
def Agent.appender (number : Nat) (name text : String) : Agent :=
  .simple number name "" fun _ r => .ok (.text (extendTask r.task text))

@[simp] theorem Agent.name_appender (number : Nat) (name text : String) :
    (appender number name text).name = name := rfl

/-- Nobody in the session is asked under the number, and nobody was. -/
structure Session.Fresh (x : Session) (number : Nat) : Prop where
  human : number ∉ x.swarm.settings.numbers
  agents : number ∉ numbersOf x.swarm.roster.agents
  unasked : x.world.requestsTo number = []

/-- Two runs that start with the journal of `x` are the same once the agent of the
name, which is asked under the number, is left out of the second. In the first it
occurs nowhere. -/
structure SameRunBut (number : Nat) (name : String) (x : Session)
    (r r' : Except SwarmError String × List Exchange × Session) : Prop where
  outcome : r.1 = r'.1
  calls : r.2.1 = r'.2.1.filter (·.agent != name)
  world : r.2.2.world.Agree (fun _ => True) (r'.2.2.world.without number)
  conversation : ∃ added added',
    r.2.2.swarm.journal.conversation.messages =
        x.swarm.journal.conversation.messages ++ added ∧
      r'.2.2.swarm.journal.conversation.messages =
        x.swarm.journal.conversation.messages ++ added' ∧
      added = added'.filter (·.role != .assistant name)
  history : ∀ other, other ≠ name →
    r.2.2.swarm.journal.history.get other = r'.2.2.swarm.journal.history.get other
  unheard : r.2.2.swarm.journal.history.get name = x.swarm.journal.history.get name

/-- The states are alike but for the calls of one agent and what it noted. -/
def Likeness.butFor (name : String) : Likeness where
  kept _ := True
  journal j k :=
    j.conversation.messages.filter (·.role != .assistant name) =
        k.conversation.messages.filter (·.role != .assistant name) ∧
      ∀ other, other ≠ name → j.history.get other = k.history.get other
  exchanges es fs := es.filter (·.agent != name) = fs.filter (·.agent != name)
  journal_record := by
    rintro j k ⟨hmessages, htexts⟩ agent text time
    refine ⟨?_, fun other hother => ?_⟩
    · simp only [Journal.record, Conversation.add, List.filter_append, hmessages]
    · rw [Journal.record, Journal.record, History.get_track, History.get_track, htexts other hother]
  exchanges_append h e := by rw [List.filter_append, List.filter_append, h]

/-! ### The text is appended in both ways -/

/-- The second crew has an agent in addition that appends the text. The agents of the
flow are the same in both, and nobody else is asked under its number. -/
structure SpellsOut (s t : Settings) (crew crew' : Crew) (f : Flow) (number : Nat)
    (name text : String) : Prop where
  human : s.human = t.human
  humanInTheLoop : s.humanInTheLoop = t.humanInTheLoop
  loops : s.loops = t.loops
  unasked : number ∉ s.numbers
  shared : ∀ n ∈ f.agentNames, Table.lookup n crew = Table.lookup n crew'
  leavesOut : crew.LeavesOut number
  steady : crew.Steady
  appends : Table.lookup name crew' = some (Agent.appender number name text).respond

namespace SpellsOut

variable {s t : Settings} {crew crew' : Crew} {f : Flow} {number : Nat} {name text : String}
  (h : SpellsOut s t crew crew' f number name text) (image : Option String)

include h

/-- The steps that both plans have go alike. -/
theorem stay_alike {stages : List Stage}
    (hstages : ∀ n ∈ Flow.agentNames ⟨stages⟩, n ∈ f.agentNames) (task : String) :
    Alike ((Likeness.butFor name).Besides number) Eq
      (runSteps s crew image (stages.map .stage) task)
      (runSteps t crew' image (stages.map .stage) task) := by
  have hnumbers : number ∉ t.numbers := by
    have hsame : t.numbers = s.numbers := by rw [Settings.numbers, Settings.numbers, h.human]
    exact hsame ▸ h.unasked
  refine runSteps_congr (fun _ => report_besides _ _) (fun _ prompt task => ?_)
    (fun n hn task => ?_) task
  · exact (askHuman_alike _ h.human h.humanInTheLoop prompt task).besides
      (askHuman_leavesOut h.unasked prompt task) (askHuman_leavesOut hnumbers prompt task)
  · have hmem : n ∈ f.agentNames := hstages n (agentNames_plan ⟨stages⟩ none ▸ hn)
    have hfind := h.shared n hmem
    exact (callAgent_alike _ hfind (fun r hr => h.steady n r (hfind ▸ hr)) task).besides
      (callAgent_leavesOut (h.leavesOut n) task)
      (callAgent_leavesOut (fun r hr => h.leavesOut n r (hfind ▸ hr)) task)

/-- Splicing the text in goes like the stage of the agent that appends it. -/
theorem added_alike (task : String) : Alike ((Likeness.butFor name).Besides number) Eq
    (runSteps s crew image [.inject text] task)
    (runSteps t crew' image [.stage ⟨.agent name, []⟩] task) := by
  intro st su hstates
  have hleft : runSteps s crew image [.inject text] task st = .ok (extendTask task text) st := rfl
  let w := su.world.emitAll (t.eventsOf (.sequential ⟨.agent name, []⟩))
  let r : Request := ⟨number, .agent name, task, image⟩
  have hrespond : (Agent.appender number name text).respond task image w =
      .ok (.text (extendTask task text)) (w.note r) := by
    rw [Agent.appender, Agent.respond]
  rw [hleft, runSteps_alone, bind_of_ok (callAgent_of_ok h.appends hrespond)]
  have hmessages : st.memory.journal.conversation.messages.filter (·.role != .assistant name) =
      su.memory.journal.conversation.messages.filter (·.role != .assistant name) :=
    hstates.journal.1
  have hexchanges : st.exchanges.filter (·.agent != name) =
      su.exchanges.filter (·.agent != name) := hstates.exchanges
  refine .ok ⟨hstates.world.quiet (.refl _) ?_, ⟨?_, fun other hother => ?_⟩, ?_⟩
  · -- The request is the only trace of the agent that is not quiet, and it is left out.
    have hnote : (w.note r).without number = w.without number := w.without_note_self r
    have hbefore : (su.world.without number).Quiet ((w.note r).without number) :=
      hnote ▸ (World.quiet_emitAll ..).without number
    exact hbefore.trans ((World.quiet_emitAll ..).without number)
  · change _ = List.filter _ (_ ++ [_])
    rw [List.filter_append, ← hmessages]
    simp [RunState.without]
  · change _ = (su.memory.journal.history.track name _).get other
    rw [History.get_track, if_neg hother.symm]
    exact hstates.journal.2 other hother
  · change _ = List.filter _ (_ ++ [_])
    rw [List.filter_append, ← hexchanges]
    simp [RunState.without]

/-- Loop after loop, the plan with the text goes like the plan with the stage. -/
theorem loops_alike {before after : List Stage} {stage : Stage}
    (hstages : f.stages = before ++ stage :: after) (task : String) :
    Alike ((Likeness.butFor name).Besides number) Eq
      (runLoops s crew image
        (before.map .stage ++ .inject text :: .stage stage :: after.map .stage) 0 task s.loops)
      (runLoops t crew' image
        (Flow.plan ⟨before ++ ⟨.agent name, []⟩ :: stage :: after⟩ none) 0 task s.loops) := by
  have hplan : Flow.plan ⟨before ++ ⟨.agent name, []⟩ :: stage :: after⟩ none =
      before.map .stage ++ ([.stage ⟨.agent name, []⟩] ++ (stage :: after).map .stage) :=
    List.map_append
  have hnames : f.agentNames = Flow.agentNames ⟨before⟩ ++ Flow.agentNames ⟨stage :: after⟩ := by
    rw [← Flow.agentNames_append, ← hstages]
  have hcustom : before.map Step.stage ++ .inject text :: .stage stage :: after.map .stage =
      before.map .stage ++ ([.inject text] ++ (stage :: after).map .stage) := rfl
  rw [hplan, hcustom]
  refine runLoops_congr (fun _ => report_besides _ _) h.loops (fun task => ?_) 0 task s.loops
  rw [runSteps_append, runSteps_append]
  refine .bind (h.stay_alike image (fun n hn => ?_) task) fun task => ?_
  · exact hnames ▸ List.mem_append_left _ hn
  · rw [runSteps_append, runSteps_append]
    refine .bind (h.added_alike image task) fun task => h.stay_alike image (fun n hn => ?_) task
    exact hnames ▸ List.mem_append_right _ hn

end SpellsOut

/-! ### What a run notes -/

section Noted

variable {crew : Crew} {image : Option String} {due : List String} {calls : List Exchange}
  {st st' : RunState}

/-- The conversation gains only what agents say that are due. -/
theorem Course.messages (h : Course crew image due st calls st') : ∃ added,
    st'.memory.journal.conversation.messages =
        st.memory.journal.conversation.messages ++ added ∧
      ∀ m ∈ added, ∃ name ∈ due, m.role = .assistant name := by
  obtain ⟨added, hadded, hsaid⟩ := h.journal.messages
  refine ⟨added, hadded, fun m hm => ?_⟩
  have hmem : m.said ∈ (Note.answers (notesOf calls)).map Note.said :=
    hsaid ▸ List.mem_map_of_mem hm
  rw [answers_notesOf] at hmem
  obtain ⟨n, hn, hnote⟩ := List.mem_map.mp hmem
  exact ⟨n.agent, (h.agent_mem_of_mem_notesOf hn).1, (congrArg Prod.fst hnote).symm⟩

/-- The history of an agent that is not due gains nothing. -/
theorem Course.get_of_notMem (h : Course crew image due st calls st') {name : String}
    (hname : name ∉ due) :
    st'.memory.journal.history.get name = st.memory.journal.history.get name := by
  have hnone : (notesOf calls).filter (·.agent == name) = [] := by
    refine List.filter_eq_nil_iff.mpr fun n hn hagent => ?_
    exact hname (beq_iff_eq.mp hagent ▸ (h.agent_mem_of_mem_notesOf hn).1)
  rw [h.journal.get name, Note.textsOf, hnone, List.map_nil, List.append_nil]

end Noted

/-! ### The runs of the two sessions -/

/-- With the agent added, the flow with the stage of its own is valid. -/
theorem Roster.check_add {r : Roster} {a : Agent} {text written : String}
    {before after : List Stage} (h : Flow.check r.contains text = .ok ⟨before ++ after⟩)
    (ha : a.name ∉ Flow.agentNames ⟨before ++ after⟩)
    (hparse : Flow.parse written = .ok ⟨before ++ ⟨.agent a.name, []⟩ :: after⟩) :
    Flow.check (r.add a).contains written = .ok ⟨before ++ ⟨.agent a.name, []⟩ :: after⟩ := by
  obtain ⟨-, hregistered, hnodup⟩ := Flow.check_eq_ok_iff.mp h
  refine Flow.check_eq_ok_iff.mpr ⟨hparse, fun name hname => ?_, ?_⟩
  · have hfind : (r.add a).contains name = ((r.add a).find? name).isSome := rfl
    rw [hfind, Roster.find?_add]
    by_cases heq : a.name = name
    · rw [if_pos heq, Option.isSome_some]
    · rw [if_neg heq]
      refine hregistered name ?_
      rw [Flow.agentNames_append, Flow.agentNames_alone] at hname
      rw [Flow.agentNames_append]
      simpa [Ne.symm heq] using hname
  · rw [Flow.members_append, Flow.members_alone, List.nodup_middle, ← Flow.members_append]
    exact List.nodup_cons.mpr ⟨fun hmem => ha (Flow.mem_agentNames_iff.mpr hmem), hnodup⟩

namespace Session

variable {x : Session} {number : Nat} {name : String}

/-- The agents of the other flow are the same in both sessions. -/
theorem Fresh.spellsOut {f : Flow} (h : x.Fresh number) (hname : name ∉ f.agentNames)
    (text written : String) :
    let y := (x.addAgent (.appender number name text)).setFlow written
    SpellsOut x.swarm.settings y.swarm.settings x.swarm.roster.crew y.swarm.roster.crew f number
      name text where
  human := rfl
  humanInTheLoop := rfl
  loops := rfl
  unasked := h.human
  shared n hn := by
    have hne : name ≠ n := fun heq => hname (heq ▸ hn)
    have hadded : (x.swarm.roster.add (.appender number name text)).find? n =
        x.swarm.roster.find? n := by
      rw [Roster.find?_add, Agent.name_appender, if_neg hne]
    rw [Roster.lookup_crew, Roster.lookup_crew]
    exact congrArg (Option.map Agent.respond) hadded.symm
  leavesOut := crewOf_leavesOut _ h.agents
  steady := crewOf_steady _
  appends := by
    have hadded : (x.swarm.roster.add (.appender number name text)).find? name =
        some (.appender number name text) := by
      rw [Roster.find?_add, Agent.name_appender, if_pos rfl]
    rw [Roster.lookup_crew]
    exact congrArg (Option.map Agent.respond) hadded

end Session

/-- Two runs that end alike but for the agent are the same but for it. -/
theorem SameRunBut.of_besides {x y : Session} {number : Nat} {name : String} {st su : RunState}
    {outcome : Except SwarmError String} {crew crew' : Crew} {image : Option String}
    {due due' : List String} {calls calls' : List Exchange}
    (hend : (Likeness.butFor name).Besides number st su) (hstays : st = st.without number)
    (hcourse : Course crew image due x.start calls st) (hname : name ∉ due)
    (hcourse' : Course crew' image due' y.start calls' su)
    (hjournal : y.swarm.journal = x.swarm.journal) :
    SameRunBut number name x (outcome, st.exchanges, x.afterRun st)
      (outcome, su.exchanges, y.afterRun su) where
  outcome := rfl
  calls := by
    have hcalls : st.exchanges = calls := hcourse.exchanges
    have hkept : st.exchanges.filter (·.agent != name) = st.exchanges := by
      refine List.filter_eq_self.mpr fun e he => bne_iff_ne.mpr fun hagent => hname ?_
      exact hagent ▸ hcourse.due.subset (List.mem_map_of_mem (hcalls ▸ he))
    exact hkept.symm.trans hend.exchanges
  world := by
    have hworld : (st.without number).world.Agree (fun _ => True) (su.without number).world :=
      hend.world
    rwa [← hstays] at hworld
  conversation := by
    obtain ⟨added, hadded, hspoken⟩ := hcourse.messages
    obtain ⟨added', hadded', -⟩ := hcourse'.messages
    have hadded' : su.memory.journal.conversation.messages =
        x.swarm.journal.conversation.messages ++ added' := hjournal ▸ hadded'
    have hkept : added.filter (·.role != .assistant name) = added := by
      refine List.filter_eq_self.mpr fun m hm => bne_iff_ne.mpr fun hrole => hname ?_
      obtain ⟨other, hother, hsaid⟩ := hspoken m hm
      exact Role.assistant.inj (hsaid.symm.trans hrole) ▸ hother
    have hmessages : st.memory.journal.conversation.messages.filter (·.role != .assistant name) =
        su.memory.journal.conversation.messages.filter (·.role != .assistant name) :=
      hend.journal.1
    rw [hadded, hadded', List.filter_append, List.filter_append, hkept] at hmessages
    exact ⟨added, added', hadded, hadded', List.append_cancel_left hmessages⟩
  history other hother := hend.journal.2 other hother
  unheard := hcourse.get_of_notMem hname

namespace Session

/-- A custom task whose target leads a stage does what a stage of its own would do
there. -/
theorem runTraced_spelled (x : Session) (order : Order) {flow : Flow} {c : CustomTask}
    {before after : List Stage} {stage : Stage} {number : Nat} {name written : String}
    (h : Flow.check x.swarm.roster.contains x.swarm.settings.flow = .ok flow)
    (hcustom : order.custom.head? = some c) (hled : flow.Led c.target before stage after)
    (hname : name ∉ flow.agentNames) (hfresh : x.Fresh number)
    (hparse : Flow.parse written = .ok ⟨before ++ ⟨.agent name, []⟩ :: stage :: after⟩) :
    let y := (x.addAgent (.appender number name c.text)).setFlow written
    Flow.check y.swarm.roster.contains y.swarm.settings.flow =
        .ok ⟨before ++ ⟨.agent name, []⟩ :: stage :: after⟩ ∧
      SameRunBut number name x (x.runTraced order) (y.runTraced { order with custom := [] }) := by
  intro y
  have hstages : flow = ⟨before ++ stage :: after⟩ := hled.eq
  have hcheck : Flow.check y.swarm.roster.contains y.swarm.settings.flow =
      .ok ⟨before ++ ⟨.agent name, []⟩ :: stage :: after⟩ :=
    Roster.check_add (a := .appender number name c.text) (hstages ▸ h) (hstages ▸ hname) hparse
  refine ⟨hcheck, ?_⟩
  rw [← Roster.has_crew] at h hcheck
  let order' : Order := { order with custom := [] }
  obtain ⟨st₀, hst, hrun⟩ :=
    attempt_of_valid x.swarm.settings x.swarm.roster.crew order x.start h
  obtain ⟨su₀, hsu, hrun'⟩ :=
    attempt_of_valid y.swarm.settings y.swarm.roster.crew order' y.start hcheck
  have hspells := hfresh.spellsOut hname c.text written
  have hadded : x.start.Quiet y.start := ⟨⟨rfl, rfl, rfl, rfl⟩, rfl, rfl⟩
  have hstart : (Likeness.butFor name).Besides number x.start y.start :=
    Likeness.Besides.quiet ⟨.refl _ _, ⟨rfl, fun _ _ => rfl⟩, rfl⟩ (.refl x.start) hadded
  have hloops := hspells.loops_alike order.image hled.stages order.task _ _ (hstart.quiet hst hsu)
  rw [hcustom, hled.plan] at hrun
  have hboth := hloops.quiet_of Likeness.Besides.quiet hrun hrun'
  -- The first run never looks at the number, so nothing is left out of where it ends.
  have hunasked : x.start.without number = x.start :=
    congrArg (RunState.mk · x.swarm.memory []) (World.without_eq_self hfresh.unasked)
  have hleaves : x.swarm.roster.crew.LeavesOut number := crewOf_leavesOut _ hfresh.agents
  have hstays := (attempt_leavesOut hfresh.human hleaves order).stays hunasked
  have htraced := attempt_traced h order x.start
  have htraced' := attempt_traced hcheck order' y.start
  have hdue : name ∉ (List.replicate x.swarm.settings.loops flow.agentNames).flatten :=
    fun hmem => hname (mem_agentNames_of_due hmem)
  rw [runTraced_eq, runTraced_eq]
  generalize attempt x.swarm.settings x.swarm.roster.crew order x.start = r
    at hboth hstays htraced ⊢
  generalize attempt y.swarm.settings y.swarm.roster.crew order' y.start = r'
    at hboth htraced' ⊢
  cases hboth with
  | ok hend =>
    obtain ⟨hstays⟩ := hstays
    obtain ⟨calls, _, hcourse, ⟨_, ⟨⟩⟩ | ⟨_, ⟨⟩⟩⟩ := htraced.exists_course
    obtain ⟨calls', _, hcourse', ⟨_, ⟨⟩⟩ | ⟨_, ⟨⟩⟩⟩ := htraced'.exists_course
    exact .of_besides hend hstays hcourse hdue hcourse' rfl
  | error he hend =>
    obtain _ | ⟨-, hstays⟩ := hstays
    obtain ⟨calls, _, hcourse, ⟨_, ⟨⟩⟩ | ⟨_, ⟨⟩⟩⟩ := htraced.exists_course
    obtain ⟨calls', _, hcourse', ⟨_, ⟨⟩⟩ | ⟨_, ⟨⟩⟩⟩ := htraced'.exists_course
    exact he ▸ .of_besides hend hstays hcourse hdue hcourse' rfl

/-- A custom task whose target leads no stage does nothing. -/
theorem runTraced_not_led (x : Session) (order : Order) {flow : Flow}
    (h : Flow.check x.swarm.roster.contains x.swarm.settings.flow = .ok flow)
    (hled : ∀ c ∈ order.custom.head?, flow.isLed c.target = false) :
    SameRun (x.runTraced order) (x.runTraced { order with custom := [] }) := by
  rw [← Roster.has_crew] at h
  let l : Likeness := .behind []
  let s : Settings := x.swarm.settings
  let crew : Crew := x.swarm.roster.crew
  obtain ⟨st₀, hst, hrun⟩ := attempt_of_valid s crew order x.start h
  obtain ⟨su₀, hsu, hrun'⟩ := attempt_of_valid s crew { order with custom := [] } x.start h
  have hplan : flow.plan order.custom.head? = flow.plan none := by
    cases hcustom : order.custom.head? with
    | none => rfl
    | some c => exact flow.plan_of_not_led c (hled c hcustom)
  have hstart : l.States x.start x.start := ⟨.refl _ _, rfl, rfl⟩
  have hloops : Alike l.States Eq
      (runLoops s crew order.image (flow.plan none) 0 order.task s.loops)
      (runLoops s crew order.image (flow.plan none) 0 order.task s.loops) :=
    runLoops_congr (fun _ => report_alike l _ _) rfl
      (runSteps_alike_of_steady l rfl rfl (crewOf_steady _) _) 0 order.task s.loops
  rw [hplan] at hrun
  rw [runTraced_eq, runTraced_eq]
  exact .of_together ((hloops st₀ su₀ (hstart.quiet hst hsu)).quiet hrun hrun')

/-- Custom tasks are stages. Only the first counts. If its target leads no stage, the
run is one without custom tasks. Otherwise its target leads exactly one, and the run is
one without custom tasks of the flow that has a stage more, right before that one: a
stage of an agent that nobody else knows, which answers with its task and the text. -/
theorem runTraced_custom (x : Session) (order : Order) {flow : Flow}
    (h : Flow.check x.swarm.roster.contains x.swarm.settings.flow = .ok flow) :
    x.runTraced order = x.runTraced { order with custom := order.custom.head?.toList } ∧
    ((∀ c ∈ order.custom.head?, flow.isLed c.target = false) →
      SameRun (x.runTraced order) (x.runTraced { order with custom := [] })) ∧
    ∀ c ∈ order.custom.head?,
      (flow.isLed c.target → ∃ before stage after, flow.Led c.target before stage after) ∧
      ∀ before stage after, flow.Led c.target before stage after →
        ∀ number name, x.Fresh number → name ∉ flow.agentNames →
          let spelled : Flow := ⟨before ++ ⟨.agent name, []⟩ :: stage :: after⟩
          (Flow.IsName name → Flow.parse spelled.text = .ok spelled) ∧
          ∀ written, Flow.parse written = .ok spelled →
            let y := (x.addAgent (.appender number name c.text)).setFlow written
            Flow.check y.swarm.roster.contains y.swarm.settings.flow = .ok spelled ∧
              SameRunBut number name x (x.runTraced order)
                (y.runTraced { order with custom := [] }) := by
  refine ⟨?_, x.runTraced_not_led order h, fun c hcustom => ⟨Flow.exists_led h, ?_⟩⟩
  · obtain ⟨task, image, custom⟩ := order
    cases custom <;> rfl
  · intro before stage after hled number name hfresh hname spelled
    refine ⟨fun hspoken => ?_, fun written hparse => ?_⟩
    · have hwellFormed := Flow.wellFormed_of_parse (Flow.check_eq_ok_iff.mp h).1
      exact ((hled.eq ▸ hwellFormed).insert hspoken).parse_text
    · exact x.runTraced_spelled order h hcustom hled hname hfresh hparse

/-- The custom text looks like a flow and is spliced in front of a stage with two
members. In the second loop one of them fails. -/
theorem runTraced_custom_second_loop :
    let x := Sample.session "H -> B, C" 2 [Sample.agent 1 "B" 5, Sample.agent 2 "C" 1]
    let order : Order := ⟨"t", some "i", [⟨"B", "H -> B, C"⟩, ⟨"H", "u"⟩]⟩
    let flow : Flow := ⟨[⟨.human, []⟩, ⟨.agent "B", [.agent "C"]⟩]⟩
    let y := (x.addAgent (.appender 7 "P" "H -> B, C")).setFlow "H -> P -> B, C"
    Flow.check x.swarm.roster.contains x.swarm.settings.flow = .ok flow ∧
      flow.Led "B" [⟨.human, []⟩] ⟨.agent "B", [.agent "C"]⟩ [] ∧ x.Fresh 7 ∧
      SameRunBut 7 "P" x (x.runTraced order) (y.runTraced { order with custom := [] }) ∧
      (x.runTraced order).2.1.map Exchange.task =
        ["hi -> H -> B, C", "hi -> H -> B, C", " -> H -> B, C", " -> H -> B, C"] ∧
      (x.runTraced order).1 = .error (.agent ⟨"C", "enough"⟩) := by
  intro x order flow y
  have h : Flow.check x.swarm.roster.contains x.swarm.settings.flow = .ok flow := by decide +kernel
  have hled : flow.Led "B" [⟨.human, []⟩] ⟨.agent "B", [.agent "C"]⟩ [] :=
    ⟨rfl, rfl, by decide +kernel⟩
  have hfresh : x.Fresh 7 := ⟨by decide +kernel, by decide +kernel, by decide +kernel⟩
  obtain ⟨-, -, hfirst⟩ := runTraced_custom x order h
  obtain ⟨-, hspelled⟩ := hfirst ⟨"B", "H -> B, C"⟩ rfl
  obtain ⟨-, hrun⟩ := hspelled _ _ _ hled 7 "P" hfresh (by decide +kernel)
  obtain ⟨-, hsame⟩ := hrun "H -> P -> B, C" (by decide +kernel)
  exact ⟨h, hled, hfresh, hsame, by decide +kernel, by decide +kernel⟩

end Session

end Relay
