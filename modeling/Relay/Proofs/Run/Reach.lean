import Relay.Proofs.Flow.RoundTrip
import Relay.Proofs.Run.Replies

/-!
# Who is called in a run

A flow says who works by words, and the word `H` is the human's. There are names that no word
can be. An agent of such a name is never called, neither in a run nor in the runs of the
swarms that serve as agents in it, at any depth; a run is the same whether the agent is there
or not. Every other agent is called as soon as a flow says its name and the run gets there.

Where a flow says `H`, a human is asked in each loop.

## Main definitions

* `Dealing.ByName` — a human was dealt with, or an agent that a flow can name.
* `DealsByName` — nobody else is dealt with in the part.
* `Asks` — so often humans reply to the part itself.

## Main statements

* `attempt_eq_of_names` — agents that no flow can name make no difference.
* `attempt_dealsByName`, `Agent.respond_dealsByName` — who is dealt with.
* `attempt_asks` — how often humans are asked.
* `exists_exchange_of_first` — an agent that stands alone in front.
-/

namespace Relay

/-! ### Agents that no flow can name -/

/-- What comes of a text, and what is kept of it, depends on the registration of the agents
that it names. -/
theorem Flow.Readings.check_congr {registered registered' : String → Bool} {text : String}
    (h : ∀ f, parse text = .ok f → ∀ name ∈ f.agentNames, registered name = registered' name)
    (r : Readings) : r.check registered text = r.check registered' text := by
  have hread := read_fst Digest.ofText r text
  rw [check, check]
  generalize r.read Digest.ofText text = read at hread
  obtain ⟨outcome, kept⟩ := read
  cases outcome with
  | error e => rfl
  | ok f => simp only [validate_congr (h f hread.symm)]

/-- The two computations are one. -/
def Same {α : Type} (p q : Run α) : Prop := p = q

instance : Congruence (@Same) where
  pure _ := rfl
  bind h hnext := by
    rw [Same] at h
    rw [Same, h, funext hnext]

section Names

variable {s : Settings} {crew crew' : Crew} {order : Order}

/-- A run along a flow looks only for the agents of the flow. -/
theorem runFlow_eq_of_names {flow : Flow}
    (h : ∀ name ∈ flow.agentNames, Table.lookup name crew = Table.lookup name crew') :
    runFlow s crew order flow = runFlow s crew' order flow := by
  have hreport (notice : Notice) : Same (report s notice) (report s notice) := rfl
  have hsteps (task : String) :
      Same (runSteps s crew order.image (flow.plan order.custom.head?) task)
        (runSteps s crew' order.image (flow.plan order.custom.head?) task) := by
    refine runSteps_congr hreport (fun _ _ _ => rfl) (fun name hname task => ?_) task
    rw [agentNames_plan] at hname
    exact callAgent_congr hreport (h name hname) rfl (fun _ _ => rfl) fun _ => rfl
  have hrun : Same (runFlow s crew order flow) (runFlow s crew' order flow) :=
    runFlow_congr (fun _ => rfl) rfl (runLoops_congr hreport rfl hsteps 0 order.task s.loops)
      fun _ _ => rfl
  exact hrun

/-- A run with a valid flow is one along this flow, from the same world. -/
theorem attempt_of_check {flow : Flow} (h : Flow.check crew.has s.flow = .ok flow) (st : RunState) :
    ∃ st', st'.world = st.world ∧ attempt s crew order st = runFlow s crew order flow st' := by
  obtain ⟨st', -, hworld, hcheck⟩ := checkFlow_quiet s crew st
  rw [h] at hcheck
  exact ⟨st', hworld, bind_of_ok hcheck⟩

/-- Crews that have the same agents under all names that can stand in a flow do the same. -/
theorem attempt_eq_of_names
    (h : ∀ name, Flow.IsName name → Table.lookup name crew = Table.lookup name crew') :
    attempt s crew order = attempt s crew' order := by
  have hcheck : checkFlow s crew = checkFlow s crew' := by
    funext st
    rw [checkFlow, checkFlow, Flow.Readings.check_congr fun f hparse name hname => ?_]
    rw [Crew.has, Crew.has, h name (Flow.isName_of_parse hparse hname)]
  funext st
  obtain ⟨st', -, -, hend⟩ := checkFlow_quiet s crew' st
  rw [attempt, attempt, hcheck]
  cases hflow : Flow.check crew'.has s.flow with
  | error e =>
    rw [hflow] at hend
    rw [bind_of_error hend, bind_of_error hend]
  | ok flow =>
    rw [hflow] at hend
    obtain ⟨hparse, -, -⟩ := Flow.check_eq_ok_iff.mp hflow
    rw [bind_of_ok hend, bind_of_ok hend,
      runFlow_eq_of_names fun name hname => h name (Flow.isName_of_parse hparse hname)]

end Names

/-! ### Who is dealt with -/

/-- The one that was dealt with is a human, or an agent whose name can stand in a flow. -/
def Dealing.ByName (d : Dealing) : Prop :=
  ∀ r, d = .request r → ∀ name, r.member = .agent name → Flow.IsName name

/-- From one world to the other, humans were dealt with, and agents whose names can stand in
a flow, and nobody else. -/
def World.DealsByName (w v : World) : Prop :=
  ∃ dealt, v.dealings = w.dealings ++ dealt ∧ ∀ d ∈ dealt, d.ByName

namespace World.DealsByName

variable {w v u : World}

theorem of_eq (h : v.dealings = w.dealings) : w.DealsByName v :=
  ⟨[], by rw [h, List.append_nil], by simp⟩

theorem single {d : Dealing} (h : v.dealings = w.dealings ++ [d]) (hd : d.ByName) :
    w.DealsByName v :=
  ⟨[d], h, by simpa using hd⟩

theorem trans (h : w.DealsByName v) (h' : v.DealsByName u) : w.DealsByName u := by
  obtain ⟨dealt, hdealt, hnames⟩ := h
  obtain ⟨more, hmore, hnames'⟩ := h'
  refine ⟨dealt ++ more, by rw [hmore, hdealt, List.append_assoc], fun d hd => ?_⟩
  exact (List.mem_append.mp hd).elim (hnames d) (hnames' d)

end World.DealsByName

/-- Asking the agent, nobody is dealt with but humans and agents that a flow can name. -/
def Responder.DealsByName (respond : Responder) : Prop :=
  ∀ task image (w : World), w.DealsByName (stateOf (respond task image w))

/-- In the part, nobody is dealt with but humans and agents that a flow can name. -/
def DealsByName {α : Type} (p : Run α) : Prop :=
  ∀ st : RunState, st.world.DealsByName (stateOf (p st)).world

namespace DealsByName

variable {α β : Type} {p : Run α} {f : α → Run β}

theorem of_eq (h : ∀ st : RunState, (stateOf (p st)).world.dealings = st.world.dealings) :
    DealsByName p :=
  fun st => .of_eq (h st)

theorem pure (a : α) : DealsByName (Pure.pure a : Run α) := of_eq fun _ => rfl

theorem bind (h : DealsByName p) (hnext : ∀ a, DealsByName (f a)) : DealsByName (p >>= f) := by
  intro st
  have hfirst := h st
  cases hp : p st with
  | ok a st' =>
    rw [hp] at hfirst
    rw [bind_of_ok hp]
    exact hfirst.trans (hnext a st')
  | error e st' =>
    rw [hp] at hfirst
    rw [bind_of_error hp]
    exact hfirst

instance : Congruence (OfFirst @DealsByName) := .ofFirst pure bind

end DealsByName

theorem askHuman_dealsByName (s : Settings) (prompt : Prompt) (task : String) :
    DealsByName (askHuman s prompt task) := by
  have hprompt : DealsByName (promptHuman prompt) := by
    intro st
    refine .single (d := .question prompt) ?_ fun r hr => by cases hr
    rw [promptHuman]
    simp only
    cases (st.world.ask prompt).1 <;> rfl
  have hconsult (human : Human) : DealsByName (consultHuman human task) := fun st =>
    .single (d := .request ⟨human.number, .human, task, none⟩) rfl fun r hr name hname => by
      cases hr
      cases hname
  have hask : OfFirst @DealsByName (askHuman s prompt task) (askHuman s prompt task) :=
    askHuman_congr (fun _ => .of_eq fun _ => rfl) rfl rfl hprompt fun human _ _ => hconsult human
  exact hask

theorem exchange_dealsByName {respond : Responder} (h : respond.DealsByName) (name task : String)
    (image : Option String) : DealsByName (exchange name respond task image) := by
  intro st
  have hanswer := h task image st.world
  rw [exchange]
  cases hended : respond task image st.world <;> rwa [hended] at hanswer

/-- In a run, nobody is dealt with but humans and agents that a flow can name, if this holds
of the agents that a flow can name. -/
theorem attempt_dealsByName {s : Settings} {crew : Crew}
    (hcrew : ∀ name respond, Flow.IsName name → Table.lookup name crew = some respond →
      respond.DealsByName) (order : Order) : DealsByName (attempt s crew order) := by
  intro st
  cases hflow : Flow.check crew.has s.flow with
  | error e =>
    obtain ⟨st', hquiet, -, hend⟩ := attempt_of_invalid s crew order st hflow
    rw [hend]
    exact .of_eq hquiet.world.dealings
  | ok flow =>
    obtain ⟨hparse, -, -⟩ := Flow.check_eq_ok_iff.mp hflow
    have hreport (notice : Notice) : OfFirst @DealsByName (report s notice) (report s notice) :=
      .of_eq fun _ => rfl
    have hsteps (task : String) : OfFirst @DealsByName
        (runSteps s crew order.image (flow.plan order.custom.head?) task)
        (runSteps s crew order.image (flow.plan order.custom.head?) task) := by
      refine runSteps_congr hreport (fun _ => askHuman_dealsByName s) (fun name hname task => ?_)
        task
      rw [agentNames_plan] at hname
      have hname := Flow.isName_of_parse hparse hname
      exact callAgent_congr hreport rfl (.of_eq fun _ => rfl)
        (fun respond hfind => exchange_dealsByName (hcrew name respond hname hfind) name task _)
        fun _ => .of_eq fun _ => rfl
    have hrun : OfFirst @DealsByName (runFlow s crew order flow) (runFlow s crew order flow) :=
      runFlow_congr (fun _ => .of_eq fun _ => rfl) (.of_eq fun _ => rfl)
        (runLoops_congr hreport rfl hsteps 0 order.task s.loops)
        fun number output => .of_eq fun st => by rw [keepRecord_apply]; rfl
    obtain ⟨st', hworld, hend⟩ := attempt_of_check hflow st
    rw [hend, ← hworld]
    exact hrun st'

/-- An agent that a flow can name deals with nobody but humans and agents that a flow can
name, at any depth. -/
theorem Agent.respond_dealsByName : ∀ a : Agent, Flow.IsName a.name → a.respond.DealsByName
  | .simple number name description answer, hname => by
    intro task image w
    refine .single (d := .request ⟨number, .agent name, task, image⟩) ?_ fun r hr called hcalled =>
      ?_
    · rw [Agent.respond]
      simp only
      cases answer (w.requestsTo number) ⟨number, .agent name, task, image⟩ <;> rfl
    · cases hr
      cases hcalled
      exact hname
  | .swarm number s agents, _ => by
    intro task image w
    have hrun := @attempt_dealsByName s (crewOf agents) (fun name respond hname hfind => by
      rw [lookup_crewOf_eq_find?] at hfind
      obtain ⟨a, ha, rfl⟩ := Option.map_eq_some_iff.mp hfind
      have hmem := List.mem_of_find?_eq_some ha
      have hfound : a.name = name := by simpa using List.find?_some ha
      exact respond_dealsByName a (hfound ▸ hname)) ⟨task, image, []⟩ ⟨w, w.memoryOf number, []⟩
    rw [Agent.respond, respondOf]
    cases hended : attempt s (crewOf agents) ⟨task, image, []⟩ ⟨w, w.memoryOf number, []⟩ <;>
      rwa [hended] at hrun

/-! ### Humans who are asked -/

/-- The human replied to the run itself, not to a swarm that serves in it as an agent. -/
def Reply.isOwn : Reply → Bool
  | .custom levels _ _ _ => levels.isEmpty
  | .line levels _ _ => levels.isEmpty

theorem Reply.countP_isOwn_within (name : String) (replies : List Reply) :
    (replies.map (Reply.within name)).countP Reply.isOwn = 0 := by
  rw [List.countP_eq_zero]
  intro r hr
  obtain ⟨r', -, rfl⟩ := List.mem_map.mp hr
  cases r' <;> exact Bool.false_ne_true

/-- In the course of the part, humans reply to it so often, or at most so often if it fails. -/
def Asks (n : Nat) {α : Type} (p : Run α) : Prop :=
  ∀ st, ∃ replies, Hears p st replies ∧ replies.countP Reply.isOwn ≤ n ∧
    ∀ a st', p st = .ok a st' → replies.countP Reply.isOwn = n

namespace Asks

variable {α β : Type} {p : Run α} {f : α → Run β} {n m : Nat}

/-- No human is asked but by swarms that serve as agents. -/
theorem of_none (h : ∀ st, ∃ replies, Hears p st replies ∧ replies.countP Reply.isOwn = 0) :
    Asks 0 p := by
  intro st
  obtain ⟨replies, hreplies, hnone⟩ := h st
  exact ⟨replies, hreplies, Nat.le_of_eq hnone, fun _ _ _ => hnone⟩

theorem silent (h : ∀ st : RunState, st.world.Unasked (stateOf (p st)).world) : Asks 0 p :=
  of_none fun st => ⟨[], .silent (h st), rfl⟩

theorem pure (a : α) : Asks 0 (Pure.pure a : Run α) := silent fun _ => ⟨rfl, rfl⟩

/-- One question of the part itself, whatever the reply is. -/
theorem one (h : ∀ st, ∃ r, Hears p st [r] ∧ r.isOwn) : Asks 1 p := by
  intro st
  obtain ⟨r, hr, hown⟩ := h st
  have hcount : [r].countP Reply.isOwn = 1 := List.countP_singleton.trans (if_pos hown)
  exact ⟨[r], hr, Nat.le_of_eq hcount, fun _ _ _ => hcount⟩

theorem bind (h : Asks n p) (hnext : ∀ a, Asks m (f a)) : Asks (n + m) (p >>= f) := by
  intro st
  obtain ⟨replies, hreplies, hle, hdone⟩ := h st
  cases hp : p st with
  | ok a st' =>
    obtain ⟨more, hmore, hle', hdone'⟩ := hnext a st'
    refine ⟨replies ++ more, .next hp hreplies hmore, ?_, fun b st'' hend => ?_⟩
    · rw [List.countP_append]
      exact Nat.add_le_add hle hle'
    · rw [bind_of_ok hp] at hend
      rw [List.countP_append, hdone a st' hp, hdone' b st'' hend]
  | error e st' =>
    have hle' := Nat.le_trans hle (Nat.le_add_right n m)
    refine ⟨replies, .broken hp hreplies, hle', fun b st'' hend => ?_⟩
    cases (bind_of_error hp).symm.trans hend

/-- Behind the part no human is asked. -/
theorem before (h : Asks n p) (hnext : ∀ a, Asks 0 (f a)) : Asks n (p >>= f) := h.bind hnext

/-- Before the part no human is asked. -/
theorem after (h : Asks 0 p) (hnext : ∀ a, Asks n (f a)) : Asks n (p >>= f) :=
  Nat.zero_add n ▸ h.bind hnext

instance : Congruence (OfFirst (@Asks 0)) := .ofFirst pure bind

/-- Parts for the elements of a list, each of which asks the humans among some members. -/
theorem foldlM {f : α → β → Run α} {members : β → List Member}
    (h : ∀ x a, Asks ((members x).count .human) (f a x)) (xs : List β) (a : α) :
    Asks ((xs.flatMap members).count .human) (xs.foldlM f a) := by
  induction xs generalizing a with
  | nil => exact pure a
  | cons x xs ih =>
    rw [List.foldlM_cons, List.flatMap_cons, List.count_append]
    exact (h x a).bind ih

end Asks

theorem askHuman_asks (s : Settings) (prompt : Prompt) (task : String) :
    Asks 1 (askHuman s prompt task) := by
  refine .one fun st => ?_
  cases hhuman : s.human with
  | none => exact ⟨_, .line (.inl hhuman), rfl⟩
  | some human =>
    cases hon : s.humanInTheLoop with
    | true => exact ⟨_, .custom hhuman hon, rfl⟩
    | false => exact ⟨_, .line (.inr hon), rfl⟩

/-- Replies that an agent waits for are not to the run that calls it. -/
theorem Agent.exchange_asks (a : Agent) (name task : String) (image : Option String) :
    Asks 0 (exchange name a.respond task image) := by
  cases a with
  | simple number n description answer =>
    exact .silent (exchange_simple_unasked number n description answer name task image)
  | swarm number s agents =>
    refine .of_none fun st => ?_
    obtain ⟨replies, hreplies⟩ := exists_hears s agents ⟨task, image, []⟩
      ⟨st.world, st.world.memoryOf number, []⟩
    rw [Agent.respond]
    exact ⟨_, .agent hreplies, Reply.countP_isOwn_within s.name replies⟩

/-- A custom task changes the task of a member, but not who works. -/
theorem Flow.flatMap_members_plan (flow : Flow) (custom : Option CustomTask) :
    (flow.plan custom).flatMap Step.members = flow.members := by
  have hstages (stages : List Stage) :
      (stages.map Step.stage).flatMap Step.members = stages.flatMap Stage.members := by
    rw [List.flatMap_map]
    rfl
  cases custom with
  | none => exact hstages flow.stages
  | some custom =>
    change (stepsWith custom flow.stages).flatMap Step.members = flow.stages.flatMap Stage.members
    induction flow.stages with
    | nil => rfl
    | cons stage rest ih =>
      rw [stepsWith]
      split
      · rw [List.flatMap_cons, List.flatMap_cons, hstages, List.flatMap_cons]
        rfl
      · rw [List.flatMap_cons, ih, List.flatMap_cons]
        rfl

section Humans

variable {s : Settings} {agents : List Agent} {image : Option String}

theorem report_asks (notice : Notice) : Asks 0 (report s notice) :=
  .silent fun st => (World.quiet_emitAll st.world _).unasked

theorem callAgent_asks (name task : String) :
    Asks 0 (callAgent s (crewOf agents) image task name) := by
  have hboth : OfFirst (@Asks 0) (callAgent s (crewOf agents) image task name)
      (callAgent s (crewOf agents) image task name) := by
    refine callAgent_congr report_asks rfl (Asks.silent fun _ => ⟨rfl, rfl⟩)
      (fun respond hfind => ?_) fun text => Asks.silent fun _ => ⟨rfl, rfl⟩
    obtain ⟨a, -, rfl⟩ := exists_of_lookup_crewOf hfind
    exact a.exchange_asks name task image
  exact hboth

/-- A stage asks the human among its members, whether alone or side by side with others. -/
theorem runStage_asks (stage : Stage) (task : String) :
    Asks (stage.members.count .human) (runStage s (crewOf agents) image stage task) := by
  rw [runStage]
  split
  · have hmember (m : Member) (task : String) : Asks ([m].count .human) (replaceTask s task m) := by
      cases m with
      | agent name => exact .pure task
      | human => exact askHuman_asks s .response task
    have hmembers := Asks.foldlM hmember stage.members task
    rw [List.flatMap_singleton'] at hmembers
    refine .after (report_asks _) fun _ => hmembers.before fun task => ?_
    have hcalls : OfFirst (@Asks 0) (stage.agentNames.mapM (callAgent s (crewOf agents) image task))
        (stage.agentNames.mapM (callAgent s (crewOf agents) image task)) :=
      Congruence.mapM fun name _ => callAgent_asks name task
    exact .after hcalls fun texts => .pure (joinTexts texts)
  · next halone =>
    obtain ⟨lead, others⟩ := stage
    obtain rfl : others = [] := by simpa [Stage.isParallel] using halone
    refine .after (report_asks _) fun _ => ?_
    cases lead with
    | agent name => exact .after (callAgent_asks name task) fun text => .pure (text.getD task)
    | human => exact askHuman_asks s .nextTask task

theorem runSteps_asks (steps : List Step) (task : String) :
    Asks ((steps.flatMap Step.members).count .human)
      (runSteps s (crewOf agents) image steps task) := by
  refine Asks.foldlM (fun step task => ?_) steps task
  cases step with
  | stage stage => exact runStage_asks stage task
  | inject text => exact .pure (extendTask task text)

theorem runLoops_asks (steps : List Step) (done : Nat) (task : String) (left : Nat) :
    Asks (left * (steps.flatMap Step.members).count .human)
      (runLoops s (crewOf agents) image steps done task left) := by
  induction left generalizing done task with
  | zero =>
    rw [Nat.zero_mul]
    exact .pure task
  | succ left ih =>
    rw [runLoops, Nat.succ_mul, Nat.add_comm]
    exact .after (report_asks _) fun _ =>
      (runSteps_asks steps task).bind fun task => ih (done + 1) task

theorem runFlow_asks (order : Order) (flow : Flow) :
    Asks (s.loops * flow.members.count .human) (runFlow s (crewOf agents) order flow) := by
  rw [runFlow_eq, ← flow.flatMap_members_plan order.custom.head?]
  refine .after (.silent fun st => (World.quiet_emitAll st.world _).unasked) fun _ => ?_
  refine .after (.silent fun _ => ⟨rfl, rfl⟩) fun number => ?_
  refine (runLoops_asks _ 0 order.task s.loops).before fun output => .silent fun st => ?_
  rw [keepRecord_apply]
  exact ⟨rfl, rfl⟩

/-- In each loop a run asks a human for each human in its flow, until it fails. -/
theorem attempt_asks {flow : Flow} (h : Flow.check (crewOf agents).has s.flow = .ok flow)
    (order : Order) :
    Asks (s.loops * flow.members.count .human) (attempt s (crewOf agents) order) := by
  intro st
  obtain ⟨st', hquiet, -, hcheck⟩ := checkFlow_quiet s (crewOf agents) st
  rw [h] at hcheck
  obtain ⟨replies, hreplies, hle, hdone⟩ := runFlow_asks order flow st'
  have hsilent : Hears (checkFlow s (crewOf agents)) st [] :=
    .silent (by rw [hcheck]; exact hquiet.world.unasked)
  refine ⟨[] ++ replies, .next hcheck hsilent hreplies, hle, fun text sv hend => ?_⟩
  exact hdone text sv ((bind_of_ok hcheck).symm.trans hend)

end Humans

/-! ### An agent that stands in front -/

section First

variable {s : Settings} {crew : Crew} {image : Option String} {name : String}

/-- The exchanges of a part come behind those that were made before. -/
theorem Traced.exchanges_prefix {α : Type} {due : List String} {st : RunState}
    {r : EStateM.Result SwarmError RunState α} (h : Traced crew image due st r) :
    st.exchanges <+: (stateOf r).exchanges := by
  obtain ⟨calls, st', hcourse, hend⟩ := h.exists_course
  have hstate : stateOf r = st' := by rcases hend with ⟨a, rfl⟩ | ⟨e, rfl⟩ <;> rfl
  rw [hstate, hcourse.exchanges]
  exact List.prefix_append ..

/-- An agent that is called has been called, whatever comes then. -/
theorem exists_exchange_of_callAgent {α : Type} {k : Option String → Run α}
    (hname : crew.has name)
    (hk : ∀ text (st : RunState), st.exchanges <+: (stateOf (k text st)).exchanges) (task : String)
    (st : RunState) :
    ∃ e ∈ (stateOf ((callAgent s crew image task name >>= k) st)).exchanges, e.agent = name := by
  obtain ⟨respond, hfind⟩ := Option.isSome_iff_exists.mp hname
  cases h : respond task image st.world with
  | ok answer w =>
    rw [bind_of_ok (callAgent_of_ok hfind h)]
    exact ⟨_, (hk _ _).subset (List.mem_append_right _ List.mem_cons_self), rfl⟩
  | error e w =>
    rw [bind_of_error (callAgent_of_error hfind h)]
    exact ⟨_, List.mem_append_right _ List.mem_cons_self, rfl⟩

theorem runSteps_cons_alone (steps : List Step) (task : String) :
    runSteps s crew image (.stage ⟨.agent name, []⟩ :: steps) task = (do
      report s (.sequential ⟨.agent name, []⟩)
      let text ← callAgent s crew image task name
      runSteps s crew image steps (text.getD task)) := by
  rw [runSteps, List.foldlM_cons, runStep, runStage, if_neg (by simp [Stage.isParallel])]
  simp only [runAlone, bind_assoc, pure_bind]
  rfl

/-- An agent that stands alone in front works first, perhaps on a task that is extended. -/
theorem runSteps_plan_of_first (rest : List Stage) (custom : Option CustomTask) (task : String) :
    let plan := Flow.plan ⟨⟨.agent name, []⟩ :: rest⟩ custom
    ∃ steps task', (∀ step ∈ steps, step ∈ plan) ∧ runSteps s crew image plan task =
      runSteps s crew image (.stage ⟨.agent name, []⟩ :: steps) task' := by
  intro plan
  cases custom with
  | none => exact ⟨rest.map .stage, task, fun _ hstep => List.mem_cons_of_mem _ hstep, rfl⟩
  | some c =>
    have hplan : plan = stepsWith c (⟨.agent name, []⟩ :: rest) := rfl
    rw [stepsWith] at hplan
    split at hplan
    · refine ⟨rest.map .stage, extendTask task c.text, fun step hstep => ?_, ?_⟩
      · rw [hplan]
        exact List.mem_cons_of_mem _ (List.mem_cons_of_mem _ hstep)
      · rw [hplan, runSteps, List.foldlM_cons, runStep, pure_bind]
        rfl
    · refine ⟨stepsWith c rest, task, fun step hstep => ?_, by rw [hplan]⟩
      exact hplan ▸ List.mem_cons_of_mem _ hstep

/-- An agent that stands alone in front of a valid flow is called in every run with a loop. -/
theorem exists_exchange_of_first {rest : List Stage}
    (h : Flow.check crew.has s.flow = .ok ⟨⟨.agent name, []⟩ :: rest⟩) (hloops : 0 < s.loops)
    (order : Order) (st : RunState) :
    ∃ e ∈ (stateOf (attempt s crew order st)).exchanges, e.agent = name := by
  let plan := Flow.plan ⟨⟨.agent name, []⟩ :: rest⟩ order.custom.head?
  obtain ⟨st₀, -, hrun⟩ := attempt_of_valid s crew order st h
  obtain ⟨left, hleft⟩ := Nat.exists_eq_succ_of_ne_zero (Nat.ne_of_gt hloops)
  obtain ⟨-, hregistered, -⟩ := Flow.check_eq_ok_iff.mp h
  have hname : crew.has name :=
    hregistered name (Flow.mem_agentNames_iff.mpr List.mem_cons_self)
  have hnames : ∀ step ∈ plan, ∀ n ∈ step.agentNames, crew.has n := has_of_mem_plan h
  obtain ⟨steps, task, hsteps, hplan⟩ :=
    @runSteps_plan_of_first s crew order.image name rest order.custom.head? order.task
  -- Behind the call come the other steps of the first loop, and the other loops.
  have hcalled : ∃ e ∈ (stateOf (runLoops s crew order.image plan 0 order.task s.loops
      st₀)).exchanges, e.agent = name := by
    rw [hleft, runLoops, bind_of_ok (report_apply ..), hplan, runSteps_cons_alone]
    simp only [bind_assoc]
    rw [bind_of_ok (report_apply ..)]
    refine exists_exchange_of_callAgent hname (fun text su => ?_) task _
    have hrest : Traced crew order.image _ su
        ((runSteps s crew order.image steps (text.getD task) >>=
          fun task => runLoops s crew order.image plan 1 task left) su) :=
      .bind (runSteps_traced (fun step hstep => hnames step (hsteps step hstep)) _ su)
        fun task sv => runLoops_traced hnames 1 task left sv
    exact hrest.exchanges_prefix
  obtain ⟨e, he, hagent⟩ := hcalled
  refine ⟨e, ?_, hagent⟩
  generalize runLoops s crew order.image _ 0 order.task s.loops st₀ = r at hrun he
  generalize attempt s crew order st = r' at hrun ⊢
  cases hrun with
  | ok hafter => exact hafter.exchanges ▸ he
  | error _ hafter => exact hafter.exchanges ▸ he

end First

end Relay
