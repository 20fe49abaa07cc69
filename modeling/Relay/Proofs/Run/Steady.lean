import Relay.Proofs.Run.SideBySide

/-!
# Steady agents

Two worlds agree if the dealings in them, the terminal and the clock are the
same, and so are the journals that are kept in them under certain numbers. They
may differ in all that is quiet: the events, the files, the supply of numbers and
the readings of flows.

No agent can tell such worlds apart. A simple agent goes by the requests that were
made, and a swarm by what its own agents and humans do. So every agent is steady:
in worlds that agree it gives the same answer, or fails in the same way, and leaves
worlds behind that agree. Hence a run that is made twice, in states that are
alike, goes alike.

## Main definitions

* `World.Agree` — worlds that no agent can tell apart.
* `Likeness` — how far the states of two runs are alike.
* `Responder.Steady` — the answers in worlds that agree are the same.

## Main statements

* `report_alike`, `askHuman_alike`, `callAgent_alike` — the parts of a run.
* `attempts_alike` — runs along two valid flows.
* `attempt_alike` — a run that is made twice.
* `Agent.respond_steady`, `crewOf_steady` — every agent is steady.
-/

namespace Relay

/-! ### Worlds that agree -/

/-- The two worlds agree, also about the journals under the numbers that are `kept`. -/
structure World.Agree (kept : Nat → Prop) (w v : World) : Prop where
  dealings : w.dealings = v.dealings
  terminal : w.terminal = v.terminal
  clock : w.clock = v.clock
  journals : ∀ number, kept number → (w.memoryOf number).journal = (v.memoryOf number).journal

namespace World

variable {kept : Nat → Prop} {w v w' v' : World}

theorem Agree.refl (kept : Nat → Prop) (w : World) : w.Agree kept w :=
  ⟨rfl, rfl, rfl, fun _ _ => rfl⟩

theorem Agree.trans {u : World} (h : w.Agree kept v) (h' : v.Agree kept u) : w.Agree kept u :=
  ⟨h.dealings.trans h'.dealings, h.terminal.trans h'.terminal, h.clock.trans h'.clock,
    fun number hnumber => (h.journals number hnumber).trans (h'.journals number hnumber)⟩

theorem Quiet.memoryOf (h : w.Quiet w') (number : Nat) :
    w'.memoryOf number = w.memoryOf number := by
  rw [World.memoryOf, World.memoryOf, h.memories]

/-- What is quiet does not show. -/
theorem Agree.quiet (h : w.Agree kept v) (hw : w.Quiet w') (hv : v.Quiet v') :
    w'.Agree kept v' where
  dealings := by rw [hw.dealings, hv.dealings, h.dealings]
  terminal := by rw [hw.terminal, hv.terminal, h.terminal]
  clock := by rw [hw.clock, hv.clock, h.clock]
  journals number hnumber := by rw [hw.memoryOf, hv.memoryOf, h.journals number hnumber]

theorem Agree.requestsTo (h : w.Agree kept v) (number : Nat) :
    w.requestsTo number = v.requestsTo number := by
  rw [World.requestsTo, World.requestsTo, requests, requests, h.dealings]

theorem Agree.note (h : w.Agree kept v) (r : Request) : (w.note r).Agree kept (v.note r) where
  dealings := congrArg (· ++ [Dealing.request r]) h.dealings
  terminal := h.terminal
  clock := h.clock
  journals := h.journals

theorem Agree.ask_fst (h : w.Agree kept v) (prompt : Prompt) :
    (w.ask prompt).1 = (v.ask prompt).1 :=
  congrArg (fun terminal => (terminal.ask prompt).1) h.terminal

theorem Agree.ask_snd (h : w.Agree kept v) (prompt : Prompt) :
    (w.ask prompt).2.Agree kept (v.ask prompt).2 where
  dealings := congrArg (· ++ [Dealing.question prompt]) h.dealings
  terminal := congrArg (fun terminal => (terminal.ask prompt).2) h.terminal
  clock := h.clock
  journals := h.journals

theorem memoryOf_setMemory_ne (w : World) {number other : Nat} (h : other ≠ number) (m : Memory) :
    (w.setMemory number m).memoryOf other = w.memoryOf other := by
  have hfind : (w.memories.filter (·.1 != number)).find? (·.1 == other) =
      w.memories.find? (·.1 == other) := by
    rw [List.find?_filter]
    refine congrArg (List.find? · w.memories) (funext fun e => ?_)
    by_cases he : e.1 = other
    · simp [he, h]
    · simp [he]
  rw [memoryOf, memoryOf, setMemory, List.find?_cons_of_neg (by simpa using h.symm), hfind]

/-- A memory is put under the same number in both worlds. -/
theorem Agree.setMemory (h : w.Agree kept v) {number : Nat} {m m' : Memory}
    (hjournal : kept number → m.journal = m'.journal) :
    (w.setMemory number m).Agree kept (v.setMemory number m') where
  dealings := h.dealings
  terminal := h.terminal
  clock := h.clock
  journals other hother := by
    by_cases hnumber : other = number
    · subst hnumber
      rw [memoryOf_setMemory, memoryOf_setMemory, hjournal hother]
    · rw [memoryOf_setMemory_ne _ hnumber, memoryOf_setMemory_ne _ hnumber, h.journals other hother]

/-- A memory under a number whose journal is not kept does not show. -/
theorem Agree.setMemory_left (h : w.Agree kept v) {number : Nat} (hnumber : ¬ kept number)
    (m : Memory) : (w.setMemory number m).Agree kept v where
  dealings := h.dealings
  terminal := h.terminal
  clock := h.clock
  journals other hother := by
    have hne : other ≠ number := fun heq => hnumber (heq ▸ hother)
    rw [memoryOf_setMemory_ne _ hne, h.journals other hother]

end World

/-! ### States that are alike -/

/-- How far the states of two runs are alike: whose journals the worlds agree
about, and how the journals of the two runs and their exchanges are related. -/
structure Likeness where
  kept : Nat → Prop
  journal : Journal → Journal → Prop
  exchanges : List Exchange → List Exchange → Prop
  /-- An answer is noted in both journals. -/
  journal_record : ∀ {j k}, journal j k → ∀ agent text time,
    journal (j.record agent text time) (k.record agent text time)
  /-- An exchange is made in both runs. -/
  exchanges_append : ∀ {es fs}, exchanges es fs → ∀ e, exchanges (es ++ [e]) (fs ++ [e])

/-- The two states are alike. -/
structure Likeness.States (l : Likeness) (st su : RunState) : Prop where
  world : st.world.Agree l.kept su.world
  journal : l.journal st.memory.journal su.memory.journal
  exchanges : l.exchanges st.exchanges su.exchanges

/-- What is quiet does not show. -/
theorem Likeness.States.quiet {l : Likeness} {st su st' su' : RunState} (h : l.States st su)
    (hst : st.Quiet st') (hsu : su.Quiet su') : l.States st' su' where
  world := h.world.quiet hst.world hsu.world
  journal := by rw [hst.journal, hsu.journal]; exact h.journal
  exchanges := by rw [hst.exchanges, hsu.exchanges]; exact h.exchanges

theorem Together.quiet_refl {α : Type} (r : EStateM.Result SwarmError RunState α) :
    Together RunState.Quiet Eq r r := by
  cases r with
  | ok a st => exact .ok (.refl st)
  | error e st => exact .error rfl (.refl st)

/-- Quiet parts behind the two do not show, if the relation does not see them. -/
theorem Together.quiet_of {R : RunState → RunState → Prop} {E : SwarmError → SwarmError → Prop}
    {α : Type} {r r' q q' : EStateM.Result SwarmError RunState α}
    (hR : ∀ {st su st' su'}, R st su → st.Quiet st' → su.Quiet su' → R st' su')
    (h : Together R E r r') (hr : Together RunState.Quiet Eq r q)
    (hr' : Together RunState.Quiet Eq r' q') : Together R E q q' := by
  cases h with
  | ok h =>
    obtain ⟨hst⟩ := hr
    obtain ⟨hsu⟩ := hr'
    exact .ok (hR h hst hsu)
  | error he h =>
    obtain _ | ⟨rfl, hst⟩ := hr
    obtain _ | ⟨rfl, hsu⟩ := hr'
    exact .error he (hR h hst hsu)

theorem Together.quiet {l : Likeness} {E : SwarmError → SwarmError → Prop} {α : Type}
    {r r' q q' : EStateM.Result SwarmError RunState α} (h : Together l.States E r r')
    (hr : Together RunState.Quiet Eq r q) (hr' : Together RunState.Quiet Eq r' q') :
    Together l.States E q q' :=
  h.quiet_of Likeness.States.quiet hr hr'

/-- In worlds that agree, the answers are the same, and the worlds left behind agree. -/
def Responder.Steady (respond : Responder) : Prop :=
  ∀ kept task image, Alike (World.Agree kept) Eq (respond task image) (respond task image)

/-- All agents of the crew are steady. -/
def Crew.Steady (crew : Crew) : Prop :=
  ∀ name respond, Table.lookup name crew = some respond → respond.Steady

/-! ### The parts of a run -/

section Parts

variable (l : Likeness) {s t : Settings} {crew crew' : Crew} {image : Option String}

theorem report_alike (notice notice' : Notice) :
    Alike l.States Eq (report s notice) (report t notice') := by
  intro st su h
  rw [report_apply, report_apply]
  exact .ok (h.quiet (.of_world (World.quiet_emitAll ..)) (.of_world (World.quiet_emitAll ..)))

theorem promptHuman_alike (prompt : Prompt) :
    Alike l.States Eq (promptHuman prompt) (promptHuman prompt) := by
  intro st su h
  have hafter : l.States { st with world := (st.world.ask prompt).2 }
      { su with world := (su.world.ask prompt).2 } :=
    ⟨h.world.ask_snd prompt, h.journal, h.exchanges⟩
  have hanswer := h.world.ask_fst prompt
  rw [promptHuman, promptHuman]
  simp only [hanswer]
  cases (su.world.ask prompt).1 with
  | ok text => exact .ok hafter
  | error e => exact .error rfl hafter

theorem consultHuman_alike (human : Human) (task : String) :
    Alike l.States Eq (consultHuman human task) (consultHuman human task) := by
  intro st su h
  rw [consultHuman, consultHuman, h.world.requestsTo]
  exact .ok ⟨h.world.note _, h.journal, h.exchanges⟩

/-- The same human is asked in the same way. -/
theorem askHuman_alike (hhuman : s.human = t.human) (henabled : s.humanInTheLoop = t.humanInTheLoop)
    (prompt : Prompt) (task : String) :
    Alike l.States Eq (askHuman s prompt task) (askHuman t prompt task) :=
  askHuman_congr (fun _ => report_alike l _ _) hhuman henabled (promptHuman_alike l prompt)
    fun human _ _ => consultHuman_alike l human task

theorem exchange_alike {respond : Responder} (hsteady : respond.Steady) (name task : String) :
    Alike l.States Eq (exchange name respond task image) (exchange name respond task image) := by
  intro st su h
  have hboth := hsteady l.kept task image _ _ h.world
  rw [exchange, exchange]
  generalize respond task image st.world = r at hboth
  generalize respond task image su.world = r' at hboth
  cases hboth with
  | ok hworld => exact .ok ⟨hworld, h.journal, l.exchanges_append h.exchanges _⟩
  | error he hworld =>
    subst he
    exact .error rfl ⟨hworld, h.journal, l.exchanges_append h.exchanges _⟩

theorem recordAnswer_alike (name text : String) :
    Alike l.States Eq (recordAnswer name text) (recordAnswer name text) := by
  intro st su h
  have hjournal : l.journal (st.memory.journal.record name text st.world.clock)
      (su.memory.journal.record name text su.world.clock) := by
    rw [h.world.clock]
    exact l.journal_record h.journal ..
  exact .ok ⟨h.world, hjournal, h.exchanges⟩

/-- A steady agent, found in both crews, is called with the same task. -/
theorem callAgent_alike {name : String} (hfind : Table.lookup name crew = Table.lookup name crew')
    (hsteady : ∀ respond, Table.lookup name crew' = some respond → respond.Steady) (task : String) :
    Alike l.States Eq (callAgent s crew image task name) (callAgent t crew' image task name) :=
  callAgent_congr (fun _ => report_alike l _ _) hfind (.throw rfl)
    (fun respond hrespond => exchange_alike l (hsteady respond hrespond) name task)
    (recordAnswer_alike l name)

end Parts

/-- The steps of a plan, with the same crew and the same human. -/
theorem runSteps_alike_of_steady (l : Likeness) {s t : Settings} {crew : Crew}
    {image : Option String} (hhuman : s.human = t.human)
    (henabled : s.humanInTheLoop = t.humanInTheLoop) (hsteady : crew.Steady) (steps : List Step)
    (task : String) :
    Alike l.States Eq (runSteps s crew image steps task) (runSteps t crew image steps task) :=
  runSteps_congr (fun _ => report_alike l _ _) (fun _ => askHuman_alike l hhuman henabled)
    (fun name _ => callAgent_alike l rfl (hsteady name)) task

/-- Runs along two valid flows go alike if the steps of their plans do, and what is quiet
does not show. -/
theorem attempts_alike {R : RunState → RunState → Prop}
    (hR : ∀ {st su st' su'}, R st su → st.Quiet st' → su.Quiet su' → R st' su') {s t : Settings}
    {crew crew' : Crew} {order : Order} {flow flow' : Flow}
    (hflow : Flow.check crew.has s.flow = .ok flow)
    (hflow' : Flow.check crew'.has t.flow = .ok flow') (hloops : s.loops = t.loops)
    (hsteps : ∀ task, Alike R Eq
      (runSteps s crew order.image (flow.plan order.custom.head?) task)
      (runSteps t crew' order.image (flow'.plan order.custom.head?) task)) :
    Alike R Eq (attempt s crew order) (attempt t crew' order) := by
  intro st su h
  obtain ⟨st₀, hst, hrun⟩ := attempt_of_valid s crew order st hflow
  obtain ⟨su₀, hsu, hrun'⟩ := attempt_of_valid t crew' order su hflow'
  have hreport (notice notice' : Notice) : Alike R Eq (report s notice) (report t notice') :=
    fun _ _ h =>
      .ok (hR h (.of_world (World.quiet_emitAll ..)) (.of_world (World.quiet_emitAll ..)))
  have hboth := runLoops_congr (fun _ => hreport _ _) hloops hsteps 0 order.task s.loops st₀ su₀
    (hR h hst hsu)
  rw [hloops] at hboth hrun
  exact hboth.quiet_of hR hrun hrun'

/-- A run that is made twice, in states that are alike, goes alike. -/
theorem attempt_alike (l : Likeness) (s : Settings) {crew : Crew} (hsteady : crew.Steady)
    (order : Order) : Alike l.States Eq (attempt s crew order) (attempt s crew order) := by
  cases hcheck : Flow.check crew.has s.flow with
  | ok flow =>
    exact attempts_alike Likeness.States.quiet hcheck hcheck rfl
      (runSteps_alike_of_steady l rfl rfl hsteady _)
  | error e =>
    intro st su h
    obtain ⟨st', hst, -, hrun⟩ := attempt_of_invalid s crew order st hcheck
    obtain ⟨su', hsu, -, hrun'⟩ := attempt_of_invalid s crew order su hcheck
    rw [hrun, hrun']
    exact .error rfl (h.quiet hst hsu)

/-! ### Every agent is steady -/

/-- As far as the journal of the swarm under the number is kept, it is the same
in both runs. -/
def Likeness.within (kept : Nat → Prop) (number : Nat) : Likeness where
  kept := kept
  journal j k := kept number → j = k
  exchanges _ _ := True
  journal_record h _ _ _ := fun hnumber => by rw [h hnumber]
  exchanges_append _ _ := trivial

/-- A swarm that serves as an agent is steady if its agents are. -/
theorem respondOf_steady (number : Nat) (s : Settings) {crew : Crew} (hsteady : crew.Steady) :
    (respondOf number s crew).Steady := by
  intro kept task image w v h
  have hstart : (Likeness.within kept number).States ⟨w, w.memoryOf number, []⟩
      ⟨v, v.memoryOf number, []⟩ := ⟨h, h.journals number, trivial⟩
  exact respondOf_together rfl (fun hend => hend.world.setMemory hend.journal)
    (attempt_alike (.within kept number) s hsteady ⟨task, image, []⟩ _ _ hstart)

/-- Every agent is steady. -/
theorem Agent.respond_steady : ∀ a : Agent, a.respond.Steady := by
  refine Agent.respond_induction ?_ fun number s _ hcrew => respondOf_steady number s hcrew
  intro number name description answer kept task image w v h
  rw [Agent.respond]
  simp only [h.requestsTo]
  split
  · exact .ok (h.note _)
  · exact .error rfl (h.note _)

theorem crewOf_steady : ∀ agents : List Agent, (crewOf agents).Steady :=
  crewOf_of_respond Agent.respond_steady

end Relay
