import Relay.Roster
import Relay.Proofs.Flow.Valid

/-!
# The parts of a run

What each part of a run does, in one equation or one sentence. Reporting an
event, drawing a number and saving a record are *quiet*: nobody is dealt with,
so no agent and no human can ever tell that they happened. A run of a swarm with
a valid flow is its loops, up to quiet parts before and after.

## Main definitions

* `Together` — two results of the same kind, with related states.
* `World.Quiet`, `RunState.Quiet` — nobody was dealt with from the one to the other.
* `answerEvents` — what is reported of an answer.
* `keepRecord`, `Settings.saving` — what a run does behind its loops.

## Main statements

* `callAgent_of_ok`, `callAgent_of_error` — an agent that is called.
* `askHuman_custom`, `askHuman_terminal` — a human who is asked.
* `Agent.respond_induction`, `respondOf_together` — agents that may be swarms.
* `attempt_of_invalid`, `attempt_of_valid`, `attempt_of_valid_once` — whole runs.
* `attempt_of_autosave`, `attempt_of_error` — a run and the saving of its record.
-/

namespace Relay

/-! ### Parts in sequence -/

section Sequence

variable {ε σ α β : Type} {p : EStateM ε σ α} {f : α → EStateM ε σ β} {st st' : σ}

theorem bind_of_ok {a : α} (h : p st = .ok a st') : (p >>= f) st = f a st' := by
  change EStateM.bind p f st = _
  rw [EStateM.bind, h]

theorem bind_of_error {e : ε} (h : p st = .error e st') : (p >>= f) st = .error e st' := by
  change EStateM.bind p f st = _
  rw [EStateM.bind, h]

/-- If two parts in sequence are done, both are. -/
theorem exists_of_bind_eq_ok {b : β} {st'' : σ} (h : (p >>= f) st = .ok b st'') :
    ∃ a st', p st = .ok a st' ∧ f a st' = .ok b st'' := by
  cases hp : p st with
  | ok a st' => exact ⟨a, st', rfl, (bind_of_ok hp).symm.trans h⟩
  | error e st' => exact nomatch (bind_of_error hp).symm.trans h

end Sequence

/-- Two results go together: both are the same value or both are failures that
are related, and the states are related. -/
inductive Together {ε δ σ τ α : Type} (R : σ → τ → Prop) (E : ε → δ → Prop) :
    EStateM.Result ε σ α → EStateM.Result δ τ α → Prop
  | ok {a : α} {st : σ} {su : τ} (h : R st su) : Together R E (.ok a st) (.ok a su)
  | error {e : ε} {d : δ} {st : σ} {su : τ} (he : E e d) (h : R st su) :
      Together R E (.error e st) (.error d su)

/-! ### Quiet parts -/

/-- From one world to the other nobody was dealt with. Events may have been
reported, numbers drawn and files saved. -/
structure World.Quiet (w v : World) : Prop where
  dealings : v.dealings = w.dealings
  terminal : v.terminal = w.terminal
  clock : v.clock = w.clock
  memories : v.memories = w.memories

namespace World

theorem Quiet.refl (w : World) : w.Quiet w := ⟨rfl, rfl, rfl, rfl⟩

theorem Quiet.trans {w v u : World} (h : w.Quiet v) (h' : v.Quiet u) : w.Quiet u :=
  ⟨h'.dealings.trans h.dealings, h'.terminal.trans h.terminal, h'.clock.trans h.clock,
    h'.memories.trans h.memories⟩

theorem quiet_emitAll (w : World) (events : List Event) : w.Quiet (w.emitAll events) :=
  ⟨rfl, rfl, rfl, rfl⟩

theorem emitAll_emitAll (w : World) (l r : List Event) :
    (w.emitAll l).emitAll r = w.emitAll (l ++ r) := by simp [emitAll]

end World

/-- From one state of a run to the other nobody was dealt with and nothing was noted. -/
structure RunState.Quiet (st st' : RunState) : Prop where
  world : st.world.Quiet st'.world
  journal : st'.memory.journal = st.memory.journal
  exchanges : st'.exchanges = st.exchanges

namespace RunState

theorem Quiet.refl (st : RunState) : st.Quiet st := ⟨.refl _, rfl, rfl⟩

theorem Quiet.trans {st st' st'' : RunState} (h : st.Quiet st') (h' : st'.Quiet st'') :
    st.Quiet st'' :=
  ⟨h.world.trans h'.world, h'.journal.trans h.journal, h'.exchanges.trans h.exchanges⟩

theorem Quiet.of_world {w v : World} {memory : Memory} {exchanges : List Exchange}
    (h : w.Quiet v) : RunState.Quiet ⟨w, memory, exchanges⟩ ⟨v, memory, exchanges⟩ :=
  ⟨h, rfl, rfl⟩

end RunState

theorem emitEvents_apply (events : List Event) (st : RunState) :
    emitEvents events st = .ok () { st with world := st.world.emitAll events } := rfl

theorem report_apply (s : Settings) (notice : Notice) (st : RunState) :
    report s notice st = .ok () { st with world := st.world.emitAll (s.eventsOf notice) } := rfl

theorem drawNumber_apply (st : RunState) :
    drawNumber st =
      .ok st.world.supply
        { st with world := { st.world with supply := st.world.supply + 1 } } := rfl

/-- The record is put into the files; if that fails, it is only reported. -/
theorem saveRecord_apply (s : Settings) (runId task output : String) (st : RunState) :
    saveRecord s runId task output st =
      let saved := st.world.files.saveJson (recordPath s.directory task)
        (.value (st.recordOf s runId task output).toJson)
      let w : World := { st.world with files := saved.2 }
      match saved.1 with
      | .ok () => .ok () { st with world := w }
      | .error e => .ok ()
        { st with world := w.emitAll (s.eventsOf (.unsaved (recordPath s.directory task) e)) } := by
  have hget : (get : Run RunState) st = .ok st st := rfl
  rw [saveRecord, bind_of_ok hget]
  generalize st.world.files.saveJson (recordPath s.directory task)
    (.value (st.recordOf s runId task output).toJson) = saved
  obtain ⟨outcome, files⟩ := saved
  cases outcome <;> rfl

/-- Saving a record never fails, and it is quiet. -/
theorem saveRecord_quiet (s : Settings) (runId task output : String) (st : RunState) :
    ∃ st', saveRecord s runId task output st = .ok () st' ∧ st.Quiet st' := by
  rw [saveRecord_apply]
  generalize st.world.files.saveJson (recordPath s.directory task)
    (.value (st.recordOf s runId task output).toJson) = saved
  have hquiet : st.world.Quiet { st.world with files := saved.2 } := ⟨rfl, rfl, rfl, rfl⟩
  obtain ⟨outcome, files⟩ := saved
  cases outcome with
  | ok u => exact ⟨_, rfl, .of_world hquiet⟩
  | error e => exact ⟨_, rfl, .of_world (hquiet.trans (World.quiet_emitAll ..))⟩

/-! ### Humans -/

section Humans

variable (s : Settings) (prompt : Prompt) (task : String) (st : RunState)

/-- A human who answers in place of the terminal. -/
theorem askHuman_custom {human : Human} (hhuman : s.human = some human)
    (henabled : s.humanInTheLoop = true) :
    askHuman s prompt task st = consultHuman human task
      { st with world := st.world.emitAll (s.eventsOf .waiting) } := by
  rw [askHuman, bind_of_ok (report_apply s .waiting st), hhuman]
  simp only [henabled, if_true]

/-- Otherwise a line is taken from the terminal. -/
theorem askHuman_terminal (h : s.human = none ∨ s.humanInTheLoop = false) :
    askHuman s prompt task st = promptHuman prompt
      { st with world := st.world.emitAll (s.eventsOf .waiting) } := by
  rw [askHuman, bind_of_ok (report_apply s .waiting st)]
  cases hhuman : s.human with
  | none => rfl
  | some human =>
    have hoff : s.humanInTheLoop = false := h.resolve_left (by simp [hhuman])
    simp only [hoff, Bool.false_eq_true, if_false]

end Humans

/-! ### Agents -/

/-- What is reported of an answer. -/
def answerEvents (s : Settings) (name : String) (answer : Answer) : List Event :=
  s.eventsOf (.answered name answer.kind) ++
    match answer.flag? with
    | some flag => s.eventsOf (.verdict name flag)
    | none => []

section Agents

variable {s : Settings} {crew : Crew} {image : Option String} {task name : String}
  {respond : Responder} {st : RunState} {w : World}

/-- An agent that answers: the answer is reported and noted in the journal, and
its text handed on. -/
theorem callAgent_of_ok {answer : Answer} (hfind : Table.lookup name crew = some respond)
    (h : respond task image st.world = .ok answer w) :
    callAgent s crew image task name st =
      .ok answer.text? ⟨w.emitAll (answerEvents s name answer),
        st.memory.record name (answer.text?.getD "") w.clock,
        st.exchanges ++ [⟨name, task, image, .ok answer⟩]⟩ := by
  have hexchange : exchange name respond task image st =
      .ok answer { st with
        world := w, exchanges := st.exchanges ++ [⟨name, task, image, .ok answer⟩] } := by
    rw [exchange, h]
  rw [callAgent, hfind]
  simp only
  rw [bind_of_ok hexchange, bind_of_ok (report_apply ..), answerEvents]
  cases answer.flag? with
  | some flag =>
    simp only
    rw [bind_of_ok (report_apply ..), ← World.emitAll_emitAll]
    rfl
  | none =>
    rw [List.append_nil]
    rfl

/-- An agent that fails: its failure is that of the run, and nothing is noted. -/
theorem callAgent_of_error {e : AgentError} (hfind : Table.lookup name crew = some respond)
    (h : respond task image st.world = .error e w) :
    callAgent s crew image task name st =
      .error (.agent e) ⟨w, st.memory, st.exchanges ++ [⟨name, task, image, .error e⟩]⟩ := by
  have hexchange : exchange name respond task image st = .error (.agent e)
      { st with world := w, exchanges := st.exchanges ++ [⟨name, task, image, .error e⟩] } := by
    rw [exchange, h]
  rw [callAgent, hfind]
  exact bind_of_error hexchange

end Agents

/-- Steps that come after others work on what those hand on. -/
theorem runSteps_append (s : Settings) (crew : Crew) (image : Option String)
    (steps more : List Step) (task : String) :
    runSteps s crew image (steps ++ more) task =
      runSteps s crew image steps task >>= runSteps s crew image more := by
  rw [runSteps, List.foldlM_append]
  rfl

/-- An agent that stands alone hands on the text of its answer, or the task. -/
theorem runSteps_alone (s : Settings) (crew : Crew) (image : Option String) (name task : String)
    (st : RunState) :
    runSteps s crew image [.stage ⟨.agent name, []⟩] task st =
      (do let text ← callAgent s crew image task name
          return text.getD task : Run String)
        { st with world := st.world.emitAll (s.eventsOf (.sequential ⟨.agent name, []⟩)) } := by
  rw [runSteps, List.foldlM_cons]
  simp only [List.foldlM_nil, bind_pure]
  rw [runStep, runStage, if_neg (by simp [Stage.isParallel]), bind_of_ok (report_apply ..)]
  rfl

/-- In a crew, the first agent of a name is found under it. -/
theorem lookup_crewOf_eq_find? (agents : List Agent) (name : String) :
    Table.lookup name (crewOf agents) = (agents.find? (·.name == name)).map Agent.respond := by
  induction agents with
  | nil => simp [crewOf, Table.lookup]
  | cons a rest ih =>
    rw [crewOf, Table.lookup]
    by_cases h : a.name = name
    · simp [h]
    · simp [h, ih]

/-- What is found in a crew is how one of its agents responds. -/
theorem exists_of_lookup_crewOf {agents : List Agent} {name : String} {respond : Responder}
    (h : Table.lookup name (crewOf agents) = some respond) : ∃ a ∈ agents, a.respond = respond := by
  rw [lookup_crewOf_eq_find?] at h
  obtain ⟨a, ha, hrespond⟩ := Option.map_eq_some_iff.mp h
  exact ⟨a, List.mem_of_find?_eq_some ha, hrespond⟩

/-- What holds of every simple agent, and of a swarm whenever it holds of its agents, holds
of every agent. -/
theorem Agent.respond_induction {P : Responder → Prop}
    (hsimple : ∀ number name description answer,
      P (Agent.simple number name description answer).respond)
    (hswarm : ∀ number s crew,
      (∀ name respond, Table.lookup name crew = some respond → P respond) →
        P (respondOf number s crew)) : ∀ a : Agent, P a.respond
  | .simple number name description answer => hsimple number name description answer
  | .swarm number s agents => by
    rw [Agent.respond]
    refine hswarm number s (crewOf agents) fun name respond hfind => ?_
    obtain ⟨a, ha, rfl⟩ := exists_of_lookup_crewOf hfind
    exact respond_induction hsimple hswarm a

theorem crewOf_of_respond {P : Responder → Prop} (h : ∀ a : Agent, P a.respond)
    (agents : List Agent) (name : String) (respond : Responder)
    (hfind : Table.lookup name (crewOf agents) = some respond) : P respond := by
  obtain ⟨a, -, rfl⟩ := exists_of_lookup_crewOf hfind
  exact h a

/-- Two swarms of one name that serve as agents respond alike if their runs go alike. -/
theorem respondOf_together {R : RunState → RunState → Prop} {Q : World → World → Prop}
    {number : Nat} {s t : Settings} {crew crew' : Crew} {task : String} {image : Option String}
    {w v : World} (hname : s.name = t.name)
    (hQ : ∀ {st su}, R st su →
      Q (st.world.setMemory number st.memory) (su.world.setMemory number su.memory))
    (h : Together R Eq (attempt s crew ⟨task, image, []⟩ ⟨w, w.memoryOf number, []⟩)
      (attempt t crew' ⟨task, image, []⟩ ⟨v, v.memoryOf number, []⟩)) :
    Together Q Eq (respondOf number s crew task image w) (respondOf number t crew' task image v) := by
  rw [respondOf, respondOf, hname]
  generalize attempt s crew ⟨task, image, []⟩ ⟨w, w.memoryOf number, []⟩ = r at h
  generalize attempt t crew' ⟨task, image, []⟩ ⟨v, v.memoryOf number, []⟩ = r' at h
  cases h with
  | ok hend => exact .ok (hQ hend)
  | error he hend => exact he ▸ .error rfl (hQ hend)

/-- The crew of a roster has the agents of the roster. -/
theorem Roster.has_crew (r : Roster) : r.crew.has = r.contains := by
  funext name
  rw [Crew.has, Roster.lookup_crew, Option.isSome_map]
  rfl

theorem Roster.validate_eq_ok_iff {r : Roster} {text : String} :
    r.validate text = .ok () ↔ ∃ f, Flow.check r.contains text = .ok f := by
  rw [validate]
  cases Flow.check r.contains text <;> simp

theorem Roster.validate_eq_error_iff {r : Roster} {text : String} {e : FlowError} :
    r.validate text = .error e ↔ Flow.check r.contains text = .error e := by
  rw [validate]
  cases Flow.check r.contains text <;> simp

/-! ### Whole runs -/

section Whole

variable (s : Settings) (crew : Crew) (order : Order) (st : RunState)

/-- Reading and checking the flow is quiet, and whatever was read before, the
outcome is that of reading afresh. -/
theorem checkFlow_quiet : ∃ st', st.Quiet st' ∧ st'.world = st.world ∧
    checkFlow s crew st =
      match Flow.check crew.has s.flow with
      | .ok flow => .ok flow st'
      | .error e => .error (.flow e) st' := by
  let checked := st.memory.readings.check crew.has s.flow
  refine ⟨{ st with memory := { st.memory with readings := checked.2 } },
    ⟨.refl _, rfl, rfl⟩, rfl, ?_⟩
  rw [← Flow.Readings.check_fst crew.has st.memory.readings s.flow]
  rfl

/-- If the flow is not valid, the run fails before anything else happens. -/
theorem attempt_of_invalid {e : FlowError} (h : Flow.check crew.has s.flow = .error e) :
    ∃ st', st.Quiet st' ∧ st'.world = st.world ∧
      attempt s crew order st = .error (.flow e) st' := by
  obtain ⟨st', hquiet, hworld, hcheck⟩ := checkFlow_quiet s crew st
  rw [h] at hcheck
  exact ⟨st', hquiet, hworld, bind_of_error hcheck⟩

/-- If the flow is valid, the run is its loops, up to quiet parts before and
after them. -/
theorem attempt_of_valid {flow : Flow} (h : Flow.check crew.has s.flow = .ok flow) :
    ∃ st₀, st.Quiet st₀ ∧ Together RunState.Quiet Eq
      (runLoops s crew order.image (flow.plan order.custom.head?) 0 order.task s.loops st₀)
      (attempt s crew order st) := by
  obtain ⟨st', hquiet, -, hcheck⟩ := checkFlow_quiet s crew st
  rw [h] at hcheck
  let w := st'.world.emitAll (planEvents flow order.custom.head?)
  let st₀ : RunState := { st' with world := { w with supply := w.supply + 1 } }
  have hstart : st'.Quiet st₀ := ⟨⟨rfl, rfl, rfl, rfl⟩, rfl, rfl⟩
  have hrun : attempt s crew order st = (do
      let output ← runLoops s crew order.image (flow.plan order.custom.head?) 0 order.task s.loops
      if s.autosave then saveRecord s (identifier w.supply) order.task output
      return output : Run String) st₀ := by
    rw [attempt, bind_of_ok hcheck, runFlow, bind_of_ok (emitEvents_apply ..),
      bind_of_ok (drawNumber_apply _)]
  refine ⟨st₀, hquiet.trans hstart, ?_⟩
  rw [hrun]
  cases hloops :
    runLoops s crew order.image (flow.plan order.custom.head?) 0 order.task s.loops st₀ with
  | ok output st₁ =>
    rw [bind_of_ok hloops]
    cases s.autosave with
    | false => exact .ok (.refl st₁)
    | true =>
      obtain ⟨st₂, hsave, hafter⟩ := saveRecord_quiet s (identifier w.supply) order.task output st₁
      rw [if_pos rfl, bind_of_ok hsave]
      exact .ok hafter
  | error e st₁ =>
    rw [bind_of_error hloops]
    exact .error rfl (.refl st₁)

/-- If there is one loop, the run is its steps, up to quiet parts before and after
them. -/
theorem attempt_of_valid_once {flow : Flow} (h : Flow.check crew.has s.flow = .ok flow)
    (hloops : s.loops = 1) :
    ∃ st₀, st.Quiet st₀ ∧ Together RunState.Quiet Eq
      (runSteps s crew order.image (flow.plan order.custom.head?) order.task st₀)
      (attempt s crew order st) := by
  obtain ⟨st₀, hquiet, hrun⟩ := attempt_of_valid s crew order st h
  rw [hloops] at hrun
  refine ⟨{ st₀ with world := st₀.world.emitAll (s.eventsOf (.loop 1 s.loops)) },
    hquiet.trans (.of_world (World.quiet_emitAll ..)), ?_⟩
  rw [runLoops, bind_of_ok (report_apply ..)] at hrun
  simp only [runLoops, bind_pure] at hrun
  exact hrun

end Whole

/-! ### Saving the record -/

/-- What a run does behind its loops: it saves its record, if that is wanted, and gives
its output back. -/
def keepRecord (s : Settings) (task : String) (number : Nat) (output : String) : Run String := do
  if s.autosave then
    saveRecord s (identifier number) task output
  return output

/-- What saving the record of a run comes to: the files, and what is reported. -/
def Settings.saving (s : Settings) (files : Tree) (record : RunRecord) : Tree × List Event :=
  if s.autosave then
    let path := recordPath s.directory record.task
    let saved := files.saveJson path (.value record.toJson)
    (saved.2, match saved.1 with
      | .ok () => []
      | .error e => s.eventsOf (.unsaved path e))
  else (files, [])

/-- Behind its loops, a run changes the files and the events, and nothing else. -/
theorem keepRecord_apply (s : Settings) (task : String) (number : Nat) (output : String)
    (st : RunState) :
    keepRecord s task number output st =
      let saved := s.saving st.world.files (st.recordOf s (identifier number) task output)
      .ok output { st with
        world := { st.world with files := saved.1, events := st.world.events ++ saved.2 } } := by
  rw [keepRecord, Settings.saving]
  cases s.autosave with
  | false => simp only [Bool.false_eq_true, if_false, List.append_nil]; rfl
  | true =>
    have hsaved := saveRecord_apply s (identifier number) task output st
    have htask : (st.recordOf s (identifier number) task output).task = task := rfl
    simp only [if_true, htask]
    generalize st.world.files.saveJson (recordPath s.directory task)
      (.value (st.recordOf s (identifier number) task output).toJson) = saved at hsaved ⊢
    obtain ⟨outcome, files⟩ := saved
    cases outcome with
    | ok u => rw [bind_of_ok hsaved, List.append_nil]; rfl
    | error e => rw [bind_of_ok hsaved]; rfl

theorem runFlow_eq (s : Settings) (crew : Crew) (order : Order) (flow : Flow) :
    runFlow s crew order flow = (do
      emitEvents (planEvents flow order.custom.head?)
      let number ← drawNumber
      let output ← runLoops s crew order.image (flow.plan order.custom.head?) 0 order.task s.loops
      keepRecord s order.task number output) := rfl

theorem runLoops_withAutosave (s : Settings) (crew : Crew) (image : Option String)
    (steps : List Step) (done : Nat) (task : String) (left : Nat) (autosave : Bool) :
    runLoops { s with autosave := autosave } crew image steps done task left =
      runLoops s crew image steps done task left := by
  induction left generalizing done task with
  | zero => rfl
  | succ left ih =>
    rw [runLoops, runLoops]
    simp only [ih]
    rfl

/-- A run whose record is saved is one whose record is not, and then the saving. -/
theorem attempt_of_autosave {s : Settings} (h : s.autosave = true) (crew : Crew) (order : Order)
    (st : RunState) :
    attempt s crew order st = (do
      let output ← attempt { s with autosave := false } crew order
      saveRecord s (identifier st.world.supply) order.task output
      return output : Run String) st := by
  let t : Settings := { s with autosave := false }
  obtain ⟨⟨w, memory, exchanges⟩, -, hworld, hcheck⟩ := checkFlow_quiet s crew st
  obtain rfl : w = st.world := hworld
  have hcheck' : checkFlow t crew st = checkFlow s crew st := rfl
  cases hflow : Flow.check crew.has s.flow with
  | error e =>
    rw [hflow] at hcheck
    have hrun : attempt t crew order st = .error (.flow e) _ := bind_of_error hcheck
    rw [bind_of_error hrun]
    exact bind_of_error hcheck
  | ok flow =>
    rw [hflow] at hcheck
    let w := st.world.emitAll (planEvents flow order.custom.head?)
    let st₀ : RunState := ⟨{ w with supply := w.supply + 1 }, memory, exchanges⟩
    let loops : Run String :=
      runLoops s crew order.image (flow.plan order.custom.head?) 0 order.task s.loops
    have hunsaved : attempt t crew order st = (runLoops t crew order.image
        (flow.plan order.custom.head?) 0 order.task t.loops >>= pure : Run String) st₀ :=
      bind_of_ok hcheck
    rw [bind_pure, runLoops_withAutosave] at hunsaved
    have hsaved : attempt s crew order st = (do
        let output ← loops
        if s.autosave then saveRecord s (identifier st.world.supply) order.task output
        return output : Run String) st₀ := bind_of_ok hcheck
    rw [hsaved, h]
    cases hloops : loops st₀ with
    | ok output sv => rw [bind_of_ok hloops, bind_of_ok (hunsaved.trans hloops), if_pos rfl]
    | error e sv => rw [bind_of_error hloops, bind_of_error (hunsaved.trans hloops)]

/-- A run that fails does what it does if no record is to be saved. -/
theorem attempt_of_error {s : Settings} {crew : Crew} {order : Order} {st sv : RunState}
    {e : SwarmError} (h : attempt s crew order st = .error e sv) :
    attempt { s with autosave := false } crew order st = .error e sv := by
  cases hsave : s.autosave with
  | false =>
    have hsame : { s with autosave := false } = s := by rw [← hsave]
    rwa [hsame]
  | true =>
    rw [attempt_of_autosave hsave] at h
    cases hrun : attempt { s with autosave := false } crew order st with
    | ok output su =>
      obtain ⟨su', hsaved, -⟩ :=
        saveRecord_quiet s (identifier st.world.supply) order.task output su
      rw [bind_of_ok hrun, bind_of_ok hsaved] at h
      exact nomatch h
    | error d su => rwa [bind_of_error hrun] at h

end Relay
