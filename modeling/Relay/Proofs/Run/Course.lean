import Relay.Proofs.Journal.Growth
import Relay.Proofs.Run.Parts

/-!
# The course of a run

A part of a run that is to call certain agents, in a certain order, calls them
one after the other until it is done or something fails. Its *course* is the list
of the calls that it made: they lead from one world to the other with nothing but
asides between them, and each answer among them is noted in the journal.

The parts of a run are put together in sequence, and so are their courses: if the
first part is done, the calls of the second come behind its calls; if not, the
calls of the first are all.

## Main definitions

* `World.Aside` — no agent was dealt with from the one world to the other.
* `Calls` — the calls lead from one world to the other.
* `Course` — the calls lead from one state of a run to the other.
* `Traced` — a result with a course behind it, done or broken off.

## Main statements

* `Traced.bind` — parts in sequence.
* `callAgent_traced`, `runStage_traced`, `runLoops_traced` — the parts of a run.
* `attempt_traced` — a whole run with a valid flow.
-/

namespace Relay

/-- The agent answered. -/
def Exchange.IsAnswered (e : Exchange) : Prop := ∃ answer, e.outcome = .ok answer

/-- The note of an exchange in the journal, if the agent answered: the text of the
answer, empty if it has none. -/
def Exchange.note? (e : Exchange) : Option Note :=
  e.answer?.map fun answer => ⟨e.agent, answer.text?.getD "", false⟩

/-- The notes of the calls that were answered. -/
def notesOf (calls : List Exchange) : List Note := calls.filterMap Exchange.note?

/-! ### Calls -/

/-- The one that was asked is a human. -/
def Dealing.WithHuman : Dealing → Prop
  | .request r => r.member = .human
  | .question _ => True

/-- From one world to the other no agent was dealt with. Humans may have been. -/
structure World.Aside (w v : World) : Prop where
  clock : v.clock = w.clock
  memories : v.memories = w.memories
  dealings : ∃ asked, v.dealings = w.dealings ++ asked ∧ ∀ d ∈ asked, d.WithHuman

namespace World

theorem Quiet.aside {w v : World} (h : w.Quiet v) : w.Aside v :=
  ⟨h.clock, h.memories, [], by simp [h.dealings], by simp⟩

theorem Aside.trans {w v u : World} (h : w.Aside v) (h' : v.Aside u) : w.Aside u := by
  obtain ⟨asked, hasked, hhuman⟩ := h.dealings
  obtain ⟨asked', hasked', hhuman'⟩ := h'.dealings
  refine ⟨h'.clock.trans h.clock, h'.memories.trans h.memories, asked ++ asked', ?_, ?_⟩
  · rw [hasked', hasked, List.append_assoc]
  · rintro d hd
    rcases List.mem_append.mp hd with hd | hd
    · exact hhuman d hd
    · exact hhuman' d hd

end World

/-- In one world the agent of the exchange gives its outcome, and leaves the
other world behind. -/
def Crew.Gives (crew : Crew) (e : Exchange) (w v : World) : Prop :=
  ∃ respond, Table.lookup e.agent crew = some respond ∧
    respond e.task e.image w =
      match e.outcome with
      | .ok answer => .ok answer v
      | .error error => .error error v

/-- The calls, one after the other, lead from one world to the other, with
nothing but asides before, between and after them. -/
inductive Calls (crew : Crew) : World → List Exchange → World → Prop
  | nil {w v : World} (h : w.Aside v) : Calls crew w [] v
  | cons {w u v z : World} {e : Exchange} {es : List Exchange} (h : w.Aside u)
      (hgives : crew.Gives e u v) (hrest : Calls crew v es z) : Calls crew w (e :: es) z

namespace Calls

variable {crew : Crew} {w v z : World} {es : List Exchange}

theorem aside_left (h : w.Aside v) (hcalls : Calls crew v es z) : Calls crew w es z := by
  cases hcalls with
  | nil h' => exact .nil (h.trans h')
  | cons h' hgives hrest => exact .cons (h.trans h') hgives hrest

theorem append {fs : List Exchange} (h : Calls crew w es v) (h' : Calls crew v fs z) :
    Calls crew w (es ++ fs) z := by
  induction h with
  | nil haside => exact h'.aside_left haside
  | cons haside hgives _ ih => exact .cons haside hgives (ih h')

end Calls

/-! ### Courses -/

/-- The calls, which are the first of those that are due, lead from one state of
a run to the other. -/
structure Course (crew : Crew) (image : Option String) (due : List String) (st : RunState)
    (calls : List Exchange) (st' : RunState) : Prop where
  exchanges : st'.exchanges = st.exchanges ++ calls
  journal : st.memory.journal.Grows (notesOf calls) st'.memory.journal
  world : Calls crew st.world calls st'.world
  images : ∀ c ∈ calls, c.image = image
  due : calls.map Exchange.agent <+: due

/-- A result with the course behind it. If the part of the run was done, all
calls that were due were made and answered. If an agent failed, it was the last to
be called. If a human failed, all that were called had answered. Nothing else can
fail. -/
inductive Traced (crew : Crew) (image : Option String) (due : List String) (st : RunState)
    {α : Type} : EStateM.Result SwarmError RunState α → Prop
  | done {a : α} {st' : RunState} {calls : List Exchange} (h : Course crew image due st calls st')
      (hall : calls.map Exchange.agent = due) (hanswered : ∀ c ∈ calls, c.IsAnswered) :
      Traced crew image due st (.ok a st')
  | agentFailed {e : AgentError} {st' : RunState} {calls : List Exchange} {last : Exchange}
      (h : Course crew image due st (calls ++ [last]) st')
      (hanswered : ∀ c ∈ calls, c.IsAnswered) (hlast : last.outcome = .error e) :
      Traced crew image due st (.error (.agent e) st')
  | humanFailed {e : IoError} {st' : RunState} {calls : List Exchange}
      (h : Course crew image due st calls st') (hanswered : ∀ c ∈ calls, c.IsAnswered) :
      Traced crew image due st (.error (.human e) st')

section Sequence

variable {crew : Crew} {image : Option String} {due more : List String} {st st' st'' : RunState}

namespace Course

/-- Nobody was called. -/
theorem none (hworld : st.world.Aside st'.world) (hjournal : st'.memory.journal = st.memory.journal)
    (hexchanges : st'.exchanges = st.exchanges) : Course crew image due st [] st' where
  exchanges := by rw [hexchanges, List.append_nil]
  journal := hjournal ▸ .nil _
  world := .nil hworld
  images := by simp
  due := List.nil_prefix

theorem of_quiet (h : st.Quiet st') : Course crew image due st [] st' :=
  .none h.world.aside h.journal h.exchanges

variable {calls calls' : List Exchange}

/-- If all that was due was done, what else is due comes next. -/
theorem append (h : Course crew image due st calls st') (hall : calls.map Exchange.agent = due)
    (h' : Course crew image more st' calls' st'') :
    Course crew image (due ++ more) st (calls ++ calls') st'' where
  exchanges := by rw [h'.exchanges, h.exchanges, List.append_assoc]
  journal := by
    rw [notesOf, List.filterMap_append]
    exact h.journal.append h'.journal
  world := h.world.append h'.world
  images c hc := (List.mem_append.mp hc).elim (h.images c) (h'.images c)
  due := by
    rw [List.map_append, hall]
    exact List.prefix_append_right_inj _ |>.mpr h'.due

/-- What is quiet comes behind without calling anybody. -/
theorem quiet (h : Course crew image due st calls st') (hquiet : st'.Quiet st'') :
    Course crew image due st calls st'' where
  exchanges := hquiet.exchanges.trans h.exchanges
  journal := hquiet.journal ▸ h.journal
  world := List.append_nil calls ▸ h.world.append (.nil hquiet.world.aside)
  images := h.images
  due := h.due

/-- Only what agents answer that are due is noted. -/
theorem agent_mem_of_mem_notesOf (h : Course crew image due st calls st') {n : Note}
    (hn : n ∈ notesOf calls) : n.agent ∈ due ∧ n.byHand = false := by
  obtain ⟨c, hc, hnote⟩ := List.mem_filterMap.mp hn
  obtain ⟨answer, -, rfl⟩ := Option.map_eq_some_iff.mp hnote
  exact ⟨h.due.subset (List.mem_map_of_mem hc), rfl⟩

/-- If more is due, the calls are still the first of it. -/
theorem more_due (h : Course crew image due st calls st') :
    Course crew image (due ++ more) st calls st' :=
  { h with due := h.due.trans (List.prefix_append due more) }

end Course

namespace Traced

variable {α β : Type}

/-- A part that is done without calling anybody. -/
theorem idle (a : α) (hworld : st.world.Aside st'.world)
    (hjournal : st'.memory.journal = st.memory.journal)
    (hexchanges : st'.exchanges = st.exchanges) :
    Traced crew image [] st (.ok a st') :=
  .done (.none hworld hjournal hexchanges) rfl (by simp)

theorem pure (a : α) : Traced crew image [] st (.ok a st) :=
  idle a (World.Quiet.refl st.world).aside rfl rfl

/-- A part that comes behind one that is done. -/
theorem after {calls : List Exchange} {r : EStateM.Result SwarmError RunState β}
    (h : Course crew image due st calls st') (hall : calls.map Exchange.agent = due)
    (hanswered : ∀ c ∈ calls, c.IsAnswered) (h' : Traced crew image more st' r) :
    Traced crew image (due ++ more) st r := by
  have hboth {calls' : List Exchange} (hanswered' : ∀ c ∈ calls', c.IsAnswered) :
      ∀ c ∈ calls ++ calls', c.IsAnswered :=
    fun c hc => (List.mem_append.mp hc).elim (hanswered c) (hanswered' c)
  cases h' with
  | done hcourse hall' hanswered' =>
    refine .done (h.append hall hcourse) ?_ (hboth hanswered')
    rw [List.map_append, hall, hall']
  | agentFailed hcourse hanswered' hlast =>
    refine .agentFailed ?_ (hboth hanswered') hlast
    rw [List.append_assoc]
    exact h.append hall hcourse
  | humanFailed hcourse hanswered' =>
    exact .humanFailed (h.append hall hcourse) (hboth hanswered')

/-- Parts in sequence: what is due in the one is due before what is due in the other. -/
theorem bind {p : Run α} {f : α → Run β} (h : Traced crew image due st (p st))
    (hnext : ∀ a st', Traced crew image more st' (f a st')) :
    Traced crew image (due ++ more) st ((p >>= f) st) := by
  generalize hp : p st = r at h
  cases h with
  | done hcourse hall hanswered =>
    rw [bind_of_ok hp]
    exact after hcourse hall hanswered (hnext _ _)
  | agentFailed hcourse hanswered hlast =>
    rw [bind_of_error hp]
    exact .agentFailed hcourse.more_due hanswered hlast
  | humanFailed hcourse hanswered =>
    rw [bind_of_error hp]
    exact .humanFailed hcourse.more_due hanswered

/-- A part that calls nobody before another one. -/
theorem bind_idle {p : Run α} {f : α → Run β} (h : Traced crew image [] st (p st))
    (hnext : ∀ a st', Traced crew image due st' (f a st')) :
    Traced crew image due st ((p >>= f) st) :=
  List.nil_append due ▸ bind h hnext

/-- A part that calls nobody behind another one. -/
theorem idle_bind {p : Run α} {f : α → Run β} (h : Traced crew image due st (p st))
    (hnext : ∀ a st', Traced crew image [] st' (f a st')) :
    Traced crew image due st ((p >>= f) st) :=
  List.append_nil due ▸ bind h hnext

/-- A quiet part before another one. -/
theorem of_quiet {r : EStateM.Result SwarmError RunState α} (h : st.Quiet st')
    (h' : Traced crew image due st' r) : Traced crew image due st r :=
  List.nil_append due ▸ after (.of_quiet h) rfl (by simp) h'

/-- A quiet part behind another one. -/
theorem quiet {r r' : EStateM.Result SwarmError RunState α} (h : Traced crew image due st r)
    (hquiet : Together RunState.Quiet Eq r r') : Traced crew image due st r' := by
  cases hquiet with
  | ok hafter =>
    obtain ⟨hcourse, hall, hanswered⟩ := h
    exact .done (hcourse.quiet hafter) hall hanswered
  | error he hafter =>
    subst he
    cases h with
    | agentFailed hcourse hanswered hlast =>
      exact .agentFailed (hcourse.quiet hafter) hanswered hlast
    | humanFailed hcourse hanswered => exact .humanFailed (hcourse.quiet hafter) hanswered

/-- Whatever the result is, there is a course behind it. -/
theorem exists_course {r : EStateM.Result SwarmError RunState α}
    (h : Traced crew image due st r) : ∃ calls st', Course crew image due st calls st' ∧
      ((∃ a, r = .ok a st') ∨ ∃ e, r = .error e st') := by
  cases h with
  | done h => exact ⟨_, _, h, .inl ⟨_, rfl⟩⟩
  | agentFailed h => exact ⟨_, _, h, .inr ⟨_, rfl⟩⟩
  | humanFailed h => exact ⟨_, _, h, .inr ⟨_, rfl⟩⟩

/-- Parts for the elements of a list, one after the other. -/
theorem foldlM {f : α → β → Run α} {dueOf : β → List String} {xs : List β}
    (hstep : ∀ x ∈ xs, ∀ a st, Traced crew image (dueOf x) st (f a x st)) (a : α) (st : RunState) :
    Traced crew image (xs.flatMap dueOf) st (xs.foldlM f a st) := by
  induction xs generalizing a st with
  | nil => exact pure a
  | cons x xs ih =>
    rw [List.foldlM_cons, List.flatMap_cons]
    refine bind (hstep x List.mem_cons_self a st) fun b st' => ?_
    exact ih (fun y hy => hstep y (List.mem_cons_of_mem x hy)) b st'

end Traced

end Sequence

/-! ### The parts of a run -/

section Parts

variable {s : Settings} {crew : Crew} {image : Option String}

theorem report_traced (notice : Notice) (st : RunState) :
    Traced crew image [] st (report s notice st) :=
  .of_quiet (.of_world (st.world.quiet_emitAll _)) (.pure ())

theorem consultHuman_traced (human : Human) (task : String) (st : RunState) :
    Traced crew image [] st (consultHuman human task st) :=
  .idle _ ⟨rfl, rfl, [.request ⟨human.number, .human, task, none⟩], rfl,
    by simp [Dealing.WithHuman]⟩ rfl rfl

theorem promptHuman_traced (prompt : Prompt) (st : RunState) :
    Traced crew image [] st (promptHuman prompt st) := by
  have hcourse : Course crew image [] st []
      { st with world := (st.world.ask prompt).2 } :=
    .none ⟨rfl, rfl, [.question prompt], rfl, by simp [Dealing.WithHuman]⟩ rfl rfl
  rw [promptHuman]
  cases hasked : (st.world.ask prompt).1 with
  | ok text => simpa only [hasked] using .done hcourse rfl (by simp)
  | error e => simpa only [hasked] using .humanFailed hcourse (by simp)

/-- Asking a human calls no agent. -/
theorem askHuman_traced (prompt : Prompt) (task : String) (st : RunState) :
    Traced crew image [] st (askHuman s prompt task st) := by
  refine Traced.bind_idle (report_traced .waiting st) fun _ st' => ?_
  cases s.human with
  | none => exact promptHuman_traced prompt st'
  | some human =>
    cases s.humanInTheLoop with
    | true => exact consultHuman_traced human task st'
    | false => exact promptHuman_traced prompt st'

section Call

variable {name task : String} {respond : Responder} {st : RunState} {w : World}

/-- The course of a call that is answered. -/
theorem Course.of_answer {answer : Answer} (hfind : Table.lookup name crew = some respond)
    (h : respond task image st.world = .ok answer w) :
    Course crew image [name] st [⟨name, task, image, .ok answer⟩]
      ⟨w.emitAll (answerEvents s name answer),
        st.memory.record name (answer.text?.getD "") w.clock,
        st.exchanges ++ [⟨name, task, image, .ok answer⟩]⟩ where
  exchanges := rfl
  journal := .answer w.clock (.nil _)
  world := .cons (World.Quiet.refl _).aside ⟨respond, hfind, h⟩ (.nil (w.quiet_emitAll _).aside)
  images := by simp
  due := List.prefix_rfl

/-- The course of a call that fails. -/
theorem Course.of_failure {e : AgentError} (hfind : Table.lookup name crew = some respond)
    (h : respond task image st.world = .error e w) :
    Course crew image [name] st [⟨name, task, image, .error e⟩]
      ⟨w, st.memory, st.exchanges ++ [⟨name, task, image, .error e⟩]⟩ where
  exchanges := rfl
  journal := .nil _
  world := .cons (World.Quiet.refl _).aside ⟨respond, hfind, h⟩ (.nil (World.Quiet.refl _).aside)
  images := by simp
  due := List.prefix_rfl

end Call

/-- An agent of the crew is called once. -/
theorem callAgent_traced {name : String} (hname : crew.has name) (task : String) (st : RunState) :
    Traced crew image [name] st (callAgent s crew image task name st) := by
  obtain ⟨respond, hfind⟩ := Option.isSome_iff_exists.mp hname
  cases h : respond task image st.world with
  | ok answer w =>
    rw [callAgent_of_ok hfind h]
    exact .done (.of_answer hfind h) rfl (by simp [Exchange.IsAnswered])
  | error e w =>
    rw [callAgent_of_error hfind h]
    have hcourse : Course crew image [name] st ([] ++ [⟨name, task, image, .error e⟩]) _ :=
      .of_failure hfind h
    exact .agentFailed hcourse (by simp) rfl

/-- Agents that are called one after the other. -/
theorem callAgents_traced {names : List String} (hnames : ∀ name ∈ names, crew.has name)
    (task : String) (st : RunState) :
    Traced crew image names st (names.mapM (callAgent s crew image task) st) := by
  induction names generalizing st with
  | nil => exact .pure []
  | cons name names ih =>
    rw [List.mapM_cons, ← List.singleton_append]
    refine Traced.bind (callAgent_traced (hnames name List.mem_cons_self) task st) ?_
    intro text st'
    refine Traced.idle_bind (ih (fun n hn => hnames n (List.mem_cons_of_mem name hn)) st') ?_
    exact fun texts st'' => .pure (text :: texts)

/-- The agents of a stage, in declared order. -/
def Stage.agentNames (stage : Stage) : List String := stage.members.filterMap Member.agent?

/-- The humans among members side by side call no agent. -/
theorem replaceTasks_traced (members : List Member) (task : String) (st : RunState) :
    Traced crew image [] st (members.foldlM (replaceTask s) task st) := by
  have hnone : members.flatMap (fun _ => ([] : List String)) = [] := by simp
  rw [← hnone]
  refine Traced.foldlM (fun m _ task st => ?_) task st
  cases m with
  | agent name => exact .pure task
  | human => exact askHuman_traced .response task st

/-- A stage calls its agents in declared order, whether they stand alone or side by side. -/
theorem runStage_traced {stage : Stage} (hnames : ∀ name ∈ stage.agentNames, crew.has name)
    (task : String) (st : RunState) :
    Traced crew image stage.agentNames st (runStage s crew image stage task st) := by
  rw [runStage]
  split
  · refine Traced.bind_idle (report_traced (.parallel stage) st) fun _ st' => ?_
    refine Traced.bind_idle (replaceTasks_traced stage.members task st') fun task' st'' => ?_
    exact Traced.idle_bind (callAgents_traced hnames task' st'') fun texts _ =>
      .pure (joinTexts texts)
  · next halone =>
    refine Traced.bind_idle (report_traced (.sequential stage) st) fun _ st' => ?_
    obtain ⟨lead, others⟩ := stage
    obtain rfl : others = [] := by simpa [Stage.isParallel] using halone
    cases lead with
    | human => exact askHuman_traced .nextTask task st'
    | agent name =>
      have hname : crew.has name :=
        hnames name (by simp [Stage.agentNames, Stage.members, Member.agent?])
      exact Traced.idle_bind (callAgent_traced hname task st') fun text _ =>
        .pure (text.getD task)

/-- The members that a step hands its task to. -/
def Step.members : Step → List Member
  | .stage s => s.members
  | .inject _ => []

/-- The agents that a step calls. -/
def Step.agentNames (step : Step) : List String := step.members.filterMap Member.agent?

theorem runSteps_traced {steps : List Step}
    (hnames : ∀ step ∈ steps, ∀ name ∈ step.agentNames, crew.has name) (task : String)
    (st : RunState) :
    Traced crew image (steps.flatMap Step.agentNames) st (runSteps s crew image steps task st) := by
  refine Traced.foldlM (fun step hstep task st => ?_) task st
  cases step with
  | stage stage => exact runStage_traced (hnames _ hstep) task st
  | inject text => exact .pure (extendTask task text)

/-- Loop after loop, the agents of all steps are called. -/
theorem runLoops_traced {steps : List Step}
    (hnames : ∀ step ∈ steps, ∀ name ∈ step.agentNames, crew.has name) (done : Nat)
    (task : String) (left : Nat) (st : RunState) :
    Traced crew image (List.replicate left (steps.flatMap Step.agentNames)).flatten st
      (runLoops s crew image steps done task left st) := by
  induction left generalizing done task st with
  | zero => exact .pure task
  | succ left ih =>
    rw [runLoops, List.replicate_succ, List.flatten_cons]
    refine Traced.bind_idle (report_traced _ st) fun _ st' => ?_
    exact Traced.bind (runSteps_traced hnames task st') fun task' st'' => ih (done + 1) task' st''

end Parts

/-! ### Whole runs -/

/-- A custom task changes the task of an agent, but not who is called. -/
theorem agentNames_plan (flow : Flow) (custom : Option CustomTask) :
    (flow.plan custom).flatMap Step.agentNames = flow.agentNames := by
  have hstages (stages : List Stage) :
      (stages.map Step.stage).flatMap Step.agentNames = stages.flatMap Stage.agentNames := by
    rw [List.flatMap_map]
    rfl
  have hnames : flow.stages.flatMap Stage.agentNames = flow.agentNames := by
    rw [Flow.agentNames, Flow.members, List.filterMap_flatMap]
    rfl
  rw [← hnames]
  cases custom with
  | none => exact hstages flow.stages
  | some custom =>
    change (stepsWith custom flow.stages).flatMap Step.agentNames = _
    induction flow.stages with
    | nil => rfl
    | cons stage rest ih =>
      rw [stepsWith]
      split
      · rw [List.flatMap_cons, List.flatMap_cons, hstages, List.flatMap_cons]
        rfl
      · rw [List.flatMap_cons, ih, List.flatMap_cons]
        rfl

/-- All agents that are called along a valid flow are there, whatever the custom task. -/
theorem has_of_mem_plan {crew : Crew} {text : String} {flow : Flow}
    (h : Flow.check crew.has text = .ok flow) {custom : Option CustomTask} :
    ∀ step ∈ flow.plan custom, ∀ name ∈ step.agentNames, crew.has name := by
  intro step hstep name hname
  obtain ⟨-, hregistered, -⟩ := Flow.check_eq_ok_iff.mp h
  refine hregistered name ?_
  rw [← agentNames_plan flow custom]
  exact List.mem_flatMap.mpr ⟨step, hstep, hname⟩

/-- The agents that are called in the loops are those of the flow. -/
theorem mem_agentNames_of_due {flow : Flow} {loops : Nat} {name : String}
    (h : name ∈ (List.replicate loops flow.agentNames).flatten) : name ∈ flow.agentNames := by
  obtain ⟨names, hnames, hmem⟩ := List.mem_flatten.mp h
  exact List.eq_of_mem_replicate hnames ▸ hmem

/-- A run with a valid flow calls the agents of the flow in flow order, loop after loop. -/
theorem attempt_traced {s : Settings} {crew : Crew} {flow : Flow}
    (h : Flow.check crew.has s.flow = .ok flow) (order : Order) (st : RunState) :
    Traced crew order.image (List.replicate s.loops flow.agentNames).flatten st
      (attempt s crew order st) := by
  obtain ⟨st₀, hquiet, hrun⟩ := attempt_of_valid s crew order st h
  have hloops : Traced crew order.image (List.replicate s.loops flow.agentNames).flatten st₀
      (runLoops s crew order.image (flow.plan order.custom.head?) 0 order.task s.loops st₀) :=
    agentNames_plan flow order.custom.head? ▸
      runLoops_traced (has_of_mem_plan h) 0 order.task s.loops st₀
  exact .of_quiet hquiet (hloops.quiet hrun)

end Relay
