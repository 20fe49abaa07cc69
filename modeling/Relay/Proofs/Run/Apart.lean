import Relay.Proofs.Run.SideBySide

/-!
# Runs that differ in what nobody goes by

Nobody goes by the events that were reported or by the files that were saved, and of an
answer only its text is handed on. So two runs may be apart in the events, in the files
and in the kinds of the answers, and in settings that bear on these alone, and they are
still the same in all else: they come to the same outcome, deal with the same agents and
humans, and note the same.

How far two runs may be apart is said by a *difference*. It is kept by all parts of a
run, and by agents at any depth: the simple agents may answer in ways that it does not
tell apart, and the swarms that serve as agents may have settings that it does not tell
apart.

## Main definitions

* `Settings.Akin` — settings with the same flow, loops, human and particulars.
* `Difference` — how far two runs may be apart.
* `World.Apart`, `RunState.Apart`, `Responder.Apart`, `Agent.Apart` — what is apart by a
  difference and no more.

## Main statements

* `attempt_apart` — whole runs.
* `Agent.Apart.respond`, `crewOf_apart` — agents at any depth.
-/

namespace Relay

/-! ### Settings -/

/-- The settings are the same in all that a run goes by, or that its record tells. They
may differ in what is reported, and in whether and where records are saved. -/
structure Settings.Akin (s t : Settings) : Prop where
  id : s.id = t.id
  name : s.name = t.name
  description : s.description = t.description
  flow : s.flow = t.flow
  loops : s.loops = t.loops
  human : s.human = t.human
  humanInTheLoop : s.humanInTheLoop = t.humanInTheLoop

/-! ### Differences -/

/-- How far two runs may be apart: in their settings, in the answers of their agents, in
the events reported and in the files. What goes by any of these goes by no more than the
difference leaves the same. -/
structure Difference where
  settings : Settings → Settings → Prop
  answers : Answer → Answer → Prop
  events : List Event → List Event → Prop
  files : Tree → Tree → Prop
  akin : ∀ {s t}, settings s t → s.Akin t
  settings_refl : ∀ s, settings s s
  settings_flow : ∀ {s t}, settings s t → ∀ flow,
    settings { s with flow := flow } { t with flow := flow }
  answers_refl : ∀ a, answers a a
  text_eq : ∀ {a b}, answers a b → a.text? = b.text?
  events_refl : ∀ l, events l l
  /-- The same is reported in both runs. -/
  events_append : ∀ {l r}, events l r → ∀ es, events (l ++ es) (r ++ es)
  /-- Both swarms give the same notice. -/
  events_notice : ∀ {s t l r}, settings s t → events l r → ∀ notice,
    events (l ++ s.eventsOf notice) (r ++ t.eventsOf notice)
  /-- An answer is reported in both runs. -/
  events_answer : ∀ {s t a b l r}, settings s t → answers a b → events l r → ∀ name,
    events (l ++ answerEvents s name a) (r ++ answerEvents t name b)
  files_refl : ∀ f, files f f
  /-- The same record is to be saved in both runs. -/
  saving : ∀ {s t l r f g}, settings s t → events l r → files f g → ∀ record,
    files (s.saving f record).1 (t.saving g record).1 ∧
      events (l ++ (s.saving f record).2) (r ++ (t.saving g record).2)

namespace Difference

/-- The outcomes of a request are the same failure, or answers that the difference does
not tell apart. -/
def Outcomes (d : Difference) : Except AgentError Answer → Except AgentError Answer → Prop
  | .ok a, .ok b => d.answers a b
  | .error e, .error e' => e = e'
  | _, _ => False

theorem Outcomes.refl (d : Difference) (outcome : Except AgentError Answer) :
    d.Outcomes outcome outcome := by
  cases outcome with
  | ok a => exact d.answers_refl a
  | error e => exact rfl

end Difference

/-- The worlds are the same, but for the events and the files. -/
structure World.Apart (d : Difference) (w v : World) : Prop where
  supply : w.supply = v.supply
  clock : w.clock = v.clock
  dealings : w.dealings = v.dealings
  terminal : w.terminal = v.terminal
  memories : w.memories = v.memories
  events : d.events w.events v.events
  files : d.files w.files v.files

namespace World.Apart

variable {d : Difference} {w v : World}

theorem refl (d : Difference) (w : World) : w.Apart d w :=
  ⟨rfl, rfl, rfl, rfl, rfl, d.events_refl _, d.files_refl _⟩

theorem requestsTo (h : w.Apart d v) (number : Nat) :
    w.requestsTo number = v.requestsTo number := by
  rw [World.requestsTo, World.requestsTo, requests, requests, h.dealings]

theorem memoryOf (h : w.Apart d v) (number : Nat) : w.memoryOf number = v.memoryOf number := by
  rw [World.memoryOf, World.memoryOf, h.memories]

theorem note (h : w.Apart d v) (r : Request) : (w.note r).Apart d (v.note r) :=
  { h with dealings := congrArg (· ++ [Dealing.request r]) h.dealings }

theorem setMemory (h : w.Apart d v) (number : Nat) (m : Memory) :
    (w.setMemory number m).Apart d (v.setMemory number m) := by
  have hmemories : (w.setMemory number m).memories = (v.setMemory number m).memories := by
    rw [World.setMemory, World.setMemory, h.memories]
  exact { h with memories := hmemories }

theorem ask_fst (h : w.Apart d v) (prompt : Prompt) : (w.ask prompt).1 = (v.ask prompt).1 :=
  congrArg (fun terminal => (terminal.ask prompt).1) h.terminal

theorem ask_snd (h : w.Apart d v) (prompt : Prompt) :
    (w.ask prompt).2.Apart d (v.ask prompt).2 :=
  { h with
    dealings := congrArg (· ++ [Dealing.question prompt]) h.dealings
    terminal := congrArg (fun terminal => (terminal.ask prompt).2) h.terminal }

theorem draw_snd (h : w.Apart d v) : w.draw.2.Apart d v.draw.2 :=
  { h with supply := congrArg (· + 1) h.supply }

theorem emitAll (h : w.Apart d v) {es fs : List Event}
    (hevents : d.events (w.events ++ es) (v.events ++ fs)) :
    (w.emitAll es).Apart d (v.emitAll fs) :=
  { h with events := hevents }

end World.Apart

/-- The exchanges are the same, but for answers that the difference does not tell apart. -/
structure Exchange.Apart (d : Difference) (e f : Exchange) : Prop where
  agent : e.agent = f.agent
  task : e.task = f.task
  image : e.image = f.image
  outcome : d.Outcomes e.outcome f.outcome

/-- What a record keeps of the exchanges is the same. -/
theorem Exchange.Apart.entry?_eq {d : Difference} {e f : Exchange} (h : e.Apart d f) :
    e.entry? = f.entry? := by
  obtain ⟨agent, task, image, outcome⟩ := e
  obtain ⟨_, _, _, outcome'⟩ := f
  obtain ⟨rfl, rfl, rfl, houtcome⟩ := h
  cases outcome with
  | ok a =>
    cases outcome' with
    | ok b =>
      exact congrArg (fun text => some (RecordEntry.mk agent task text)) (d.text_eq houtcome)
    | error e => exact houtcome.elim
  | error e =>
    cases outcome' with
    | ok b => exact houtcome.elim
    | error e' => rfl

/-- The states of the two runs are the same, but for events, files and the kinds of answers. -/
structure RunState.Apart (d : Difference) (st su : RunState) : Prop where
  world : st.world.Apart d su.world
  memory : st.memory = su.memory
  exchanges : List.Forall₂ (Exchange.Apart d) st.exchanges su.exchanges

/-- The records of the two runs are the same. -/
theorem RunState.Apart.recordOf {d : Difference} {st su : RunState} {s t : Settings}
    (h : st.Apart d su) (hs : d.settings s t) (runId task output : String) :
    st.recordOf s runId task output = su.recordOf t runId task output := by
  have hentries : st.exchanges.filterMap Exchange.entry? =
      su.exchanges.filterMap Exchange.entry? := by
    have hall := h.exchanges
    generalize st.exchanges = es at hall ⊢
    generalize su.exchanges = fs at hall ⊢
    induction hall with
    | nil => rfl
    | cons hboth _ ih => rw [List.filterMap_cons, List.filterMap_cons, hboth.entry?_eq, ih]
  have hakin := d.akin hs
  rw [RunState.recordOf, RunState.recordOf, hentries, h.world.clock, hakin.id, hakin.name,
    hakin.description, hakin.flow, hakin.loops]

/-- In worlds that are apart, both agents fail in the same way, or give answers that the
difference does not tell apart, and the worlds that they leave behind are apart. -/
inductive Difference.Answered (d : Difference) :
    EStateM.Result AgentError World Answer → EStateM.Result AgentError World Answer → Prop
  | ok {a b : Answer} {w v : World} (ha : d.answers a b) (h : w.Apart d v) :
      Answered d (.ok a w) (.ok b v)
  | error {e : AgentError} {w v : World} (h : w.Apart d v) :
      Answered d (.error e w) (.error e v)

/-- The difference does not tell the two agents apart, wherever and whatever they are asked. -/
def Responder.Apart (d : Difference) (respond respond' : Responder) : Prop :=
  ∀ task image w v, w.Apart d v → d.Answered (respond task image w) (respond' task image v)

/-- The crews have agents of the same names, which the difference does not tell apart. -/
def Crew.Apart (d : Difference) (crew crew' : Crew) : Prop :=
  ∀ name, Option.Rel (Responder.Apart d) (Table.lookup name crew) (Table.lookup name crew')

theorem Crew.Apart.has_eq {d : Difference} {crew crew' : Crew} (h : crew.Apart d crew') :
    crew.has = crew'.has := by
  funext name
  have hfound := h name
  rw [Crew.has, Crew.has]
  generalize Table.lookup name crew = found at hfound
  generalize Table.lookup name crew' = found' at hfound
  cases hfound <;> rfl

/-! ### The parts of a run -/

section Parts

variable {d : Difference} {s t : Settings} {crew crew' : Crew} {image : Option String}

theorem emitEvents_apart (events : List Event) :
    Alike (RunState.Apart d) Eq (emitEvents events) (emitEvents events) :=
  fun _ _ h => .ok { h with world := h.world.emitAll (d.events_append h.world.events events) }

theorem report_apart (hs : d.settings s t) (notice : Notice) :
    Alike (RunState.Apart d) Eq (report s notice) (report t notice) :=
  fun _ _ h => .ok { h with world := h.world.emitAll (d.events_notice hs h.world.events notice) }

theorem drawNumber_apart : Alike (RunState.Apart d) Eq drawNumber drawNumber := by
  intro st su h
  rw [drawNumber_apply, drawNumber_apply, h.world.supply]
  exact .ok { h with world := { h.world with supply := rfl } }

theorem promptHuman_apart (prompt : Prompt) :
    Alike (RunState.Apart d) Eq (promptHuman prompt) (promptHuman prompt) := by
  intro st su h
  have hafter : RunState.Apart d { st with world := (st.world.ask prompt).2 }
      { su with world := (su.world.ask prompt).2 } :=
    { h with world := h.world.ask_snd prompt }
  have hanswer := h.world.ask_fst prompt
  rw [promptHuman, promptHuman]
  simp only [hanswer]
  cases (su.world.ask prompt).1 with
  | ok text => exact .ok hafter
  | error e => exact .error rfl hafter

theorem consultHuman_apart (human : Human) (task : String) :
    Alike (RunState.Apart d) Eq (consultHuman human task) (consultHuman human task) := by
  intro st su h
  rw [consultHuman, consultHuman, h.world.requestsTo]
  exact .ok { h with world := h.world.note _ }

/-- The two answers may be of different kinds, but they have the same text, and that is
all that is noted and handed on. -/
theorem callAgent_apart (hs : d.settings s t) (hcrew : crew.Apart d crew') (name task : String) :
    Alike (RunState.Apart d) Eq (callAgent s crew image task name)
      (callAgent t crew' image task name) := by
  intro st su h
  have hfound := hcrew name
  generalize hfind : Table.lookup name crew = found at hfound
  generalize hfind' : Table.lookup name crew' = found' at hfound
  cases hfound with
  | none =>
    rw [callAgent, callAgent, hfind, hfind']
    exact .error rfl h
  | @some respond respond' hrespond =>
    have hboth := hrespond task image st.world su.world h.world
    generalize hanswer : respond task image st.world = r at hboth
    generalize hanswer' : respond' task image su.world = r' at hboth
    cases hboth with
    | @ok a b w v ha hworld =>
      rw [callAgent_of_ok hfind hanswer, callAgent_of_ok hfind' hanswer', d.text_eq ha, h.memory,
        hworld.clock]
      exact .ok {
        world := hworld.emitAll (d.events_answer hs ha hworld.events name)
        memory := rfl
        exchanges := List.rel_append h.exchanges (.cons ⟨rfl, rfl, rfl, ha⟩ .nil) }
    | error hworld =>
      rw [callAgent_of_error hfind hanswer, callAgent_of_error hfind' hanswer']
      exact .error rfl {
        world := hworld
        memory := h.memory
        exchanges := List.rel_append h.exchanges (.cons ⟨rfl, rfl, rfl, rfl⟩ .nil) }

theorem keepRecord_apart (hs : d.settings s t) (task : String) (number : Nat) (output : String) :
    Alike (RunState.Apart d) Eq (keepRecord s task number output)
      (keepRecord t task number output) := by
  intro st su h
  rw [keepRecord_apply, keepRecord_apply, h.recordOf hs]
  obtain ⟨hfiles, hevents⟩ := d.saving hs h.world.events h.world.files
    (su.recordOf t (identifier number) task output)
  exact .ok { h with world := { h.world with events := hevents, files := hfiles } }

/-- The same flow is read in both runs, for agents of the same names. -/
theorem checkFlow_apart (hs : d.settings s t) (hcrew : crew.Apart d crew') :
    Alike (RunState.Apart d) Eq (checkFlow s crew) (checkFlow t crew') := by
  intro st su h
  rw [checkFlow, checkFlow, h.memory, hcrew.has_eq, (d.akin hs).flow]
  obtain ⟨checked, readings⟩ := su.memory.readings.check crew'.has t.flow
  cases checked with
  | ok flow => exact .ok { h with memory := rfl }
  | error e => exact .error rfl { h with memory := rfl }

/-- Runs that start apart by a difference end apart by it, with the same outcome. -/
theorem attempt_apart (hs : d.settings s t) (hcrew : crew.Apart d crew') (order : Order) :
    Alike (RunState.Apart d) Eq (attempt s crew order) (attempt t crew' order) := by
  have hakin := d.akin hs
  have hreport (notice : Notice) : Alike (RunState.Apart d) Eq (report s notice)
      (report t notice) := report_apart hs notice
  have hask (prompt : Prompt) (task : String) : Alike (RunState.Apart d) Eq
      (askHuman s prompt task) (askHuman t prompt task) :=
    askHuman_congr hreport hakin.human hakin.humanInTheLoop (promptHuman_apart prompt)
      fun human _ _ => consultHuman_apart human task
  refine .bind (checkFlow_apart hs hcrew) fun flow => ?_
  refine runFlow_congr emitEvents_apart drawNumber_apart ?_ (keepRecord_apart hs order.task)
  rw [← hakin.loops]
  refine runLoops_congr hreport hakin.loops (fun task => ?_) 0 order.task s.loops
  exact runSteps_congr hreport (fun _ => hask) (fun name _ => callAgent_apart hs hcrew name) task

end Parts

/-! ### Agents at any depth -/

/-- The agents are the same, but for simple agents that answer in ways which the
difference does not tell apart, whatever they were asked before, and for the settings of
swarms, which it does not tell apart either. Any other agents of one name may be in place
of each other that the difference does not tell apart wherever they are asked. -/
inductive Agent.Apart (d : Difference) : Agent → Agent → Prop
  | simple {number : Nat} {name description description' : String}
      {answer answer' : List Request → Request → Except AgentError Answer}
      (h : ∀ past r, d.Outcomes (answer past r) (answer' past r)) :
      Agent.Apart d (.simple number name description answer)
        (.simple number name description' answer')
  | swarm {number : Nat} {s t : Settings} {agents agents' : List Agent} (hs : d.settings s t)
      (h : List.Forall₂ (Agent.Apart d) agents agents') :
      Agent.Apart d (.swarm number s agents) (.swarm number t agents')
  | asked {a b : Agent} (hname : a.name = b.name) (h : a.respond.Apart d b.respond) :
      Agent.Apart d a b

section Agents

variable {d : Difference}

theorem Agent.Apart.name_eq {a b : Agent} (h : a.Apart d b) : a.name = b.name := by
  cases h with
  | simple _ => rfl
  | swarm hs _ => exact (d.akin hs).name
  | asked hname _ => exact hname

mutual

theorem Agent.Apart.refl (d : Difference) : ∀ a : Agent, a.Apart d a
  | .simple .. => .simple fun _ _ => .refl d _
  | .swarm _ s agents => .swarm (d.settings_refl s) (agents_apart_refl d agents)

theorem agents_apart_refl (d : Difference) :
    ∀ agents : List Agent, List.Forall₂ (Agent.Apart d) agents agents
  | [] => .nil
  | a :: rest => .cons (.refl d a) (agents_apart_refl d rest)

end

theorem respondOf_apart {s t : Settings} {crew crew' : Crew} (hs : d.settings s t)
    (hcrew : crew.Apart d crew') (number : Nat) :
    (respondOf number s crew).Apart d (respondOf number t crew') := by
  intro task image w v h
  have hstart : RunState.Apart d ⟨w, w.memoryOf number, []⟩ ⟨v, v.memoryOf number, []⟩ :=
    ⟨h, h.memoryOf number, .nil⟩
  have hboth := attempt_apart hs hcrew ⟨task, image, []⟩ _ _ hstart
  rw [respondOf, respondOf]
  generalize attempt s crew ⟨task, image, []⟩ ⟨w, w.memoryOf number, []⟩ = r at hboth ⊢
  generalize attempt t crew' ⟨task, image, []⟩ ⟨v, v.memoryOf number, []⟩ = r' at hboth ⊢
  cases hboth with
  | ok hend =>
    simp only [hend.memory]
    exact .ok (d.answers_refl _) (hend.world.setMemory number _)
  | error he hend =>
    subst he
    simp only [hend.memory, (d.akin hs).name]
    exact .error (hend.world.setMemory number _)

mutual

/-- The difference does not tell the agents apart when they are asked. -/
theorem Agent.Apart.respond : ∀ {a b : Agent}, a.Apart d b → a.respond.Apart d b.respond
  | _, _, .asked _ h => h
  | .simple number name _ answer, .simple _ _ _ answer', .simple h => by
    intro task image w v hworld
    let r : Request := ⟨number, .agent name, task, image⟩
    have houtcome := h (v.requestsTo number) r
    simp only [Agent.respond, hworld.requestsTo]
    change d.Outcomes (answer (v.requestsTo number) r) (answer' (v.requestsTo number) r) at houtcome
    generalize answer (v.requestsTo number) r = outcome at houtcome ⊢
    generalize answer' (v.requestsTo number) r = outcome' at houtcome ⊢
    match outcome, outcome', houtcome with
    | .ok a, .ok b, ha => exact .ok ha (hworld.note r)
    | .error e, .error _, rfl => exact .error (hworld.note r)
  | .swarm number s agents, .swarm _ t agents', .swarm hs h => by
    rw [Agent.respond, Agent.respond]
    exact respondOf_apart hs (crewOf_apart h) number

theorem crewOf_apart : ∀ {agents agents' : List Agent},
    List.Forall₂ (Agent.Apart d) agents agents' → (crewOf agents).Apart d (crewOf agents')
  | [], [], .nil => fun name => by
    rw [crewOf, Table.lookup]
    exact .none
  | a :: rest, b :: rest', .cons h hrest => fun name => by
    rw [crewOf, crewOf, Table.lookup, Table.lookup, h.name_eq]
    split
    · exact .some h.respond
    · exact crewOf_apart hrest name

end

end Agents

end Relay
