import Relay.Proofs.Run.Steady

/-!
# Requests that are left out

Agents and humans remember the requests that were made of them, each under a number
of its own. What was asked under a number that nobody remembers by is never looked
at: a run does the same in a world from which those requests are left out, and
leaves the world behind that comes of leaving them out afterwards. So no agent that
remembers under other numbers can tell whether they were made.

## Main definitions

* `World.without` — the world as if no request had been made under a number.
* `Agent.numbers` — the numbers under which an agent and all in it are asked.
* `Responder.LeavesOut` — an agent that never looks at the requests under a number.
* `Likeness.Besides` — states that are alike but for the requests under a number.

## Main statements

* `Agent.respond_leavesOut`, `crewOf_leavesOut` — agents with other numbers.
* `Alike.besides` — the parts of two runs, but for the requests under a number.
-/

namespace Relay

/-! ### Worlds without some requests -/

/-- The dealing is a request made under the number. -/
def Dealing.isUnder (number : Nat) : Dealing → Bool
  | .request r => r.number == number
  | .question _ => false

namespace World

/-- The world as if no request had been made under the number. -/
def without (w : World) (number : Nat) : World :=
  { w with dealings := w.dealings.filter (!·.isUnder number) }

theorem requestsTo_without (w : World) {number other : Nat} (h : other ≠ number) :
    (w.without number).requestsTo other = w.requestsTo other := by
  rw [requestsTo, requestsTo, requests, requests, without, List.filterMap_filter,
    List.filter_filterMap, List.filter_filterMap]
  refine congrArg (List.filterMap · w.dealings) (funext fun d => ?_)
  cases d with
  | question prompt => rfl
  | request r =>
    by_cases hr : r.number = number
    · have hother : r.number ≠ other := fun heq => h (heq.symm.trans hr)
      simp [Dealing.isUnder, Dealing.request?, hr, Option.filter, h.symm]
    · simp [Dealing.isUnder, Dealing.request?, hr]

theorem note_without (w : World) {number : Nat} {r : Request} (h : r.number ≠ number) :
    (w.without number).note r = (w.note r).without number := by
  simp [note, without, Dealing.isUnder, h]

theorem without_note_self (w : World) (r : Request) :
    (w.note r).without r.number = w.without r.number := by
  simp [note, without, Dealing.isUnder]

theorem ask_without (w : World) (number : Nat) (prompt : Prompt) :
    (w.without number).ask prompt =
      ((w.ask prompt).1, (w.ask prompt).2.without number) := by
  simp [ask, without, Dealing.isUnder]

theorem Quiet.without {w v : World} (h : w.Quiet v) (number : Nat) :
    (w.without number).Quiet (v.without number) :=
  ⟨congrArg (List.filter _) h.dealings, h.terminal, h.clock, h.memories⟩

/-- If nothing was asked under the number, nothing is left out. -/
theorem without_eq_self {w : World} {number : Nat} (h : w.requestsTo number = []) :
    w.without number = w := by
  have hall : w.dealings.filter (!·.isUnder number) = w.dealings := by
    refine List.filter_eq_self.mpr fun d hd => ?_
    cases d with
    | question prompt => rfl
    | request r =>
      have hmem : r ∈ w.requests := List.mem_filterMap.mpr ⟨_, hd, rfl⟩
      simpa [Dealing.isUnder] using List.filter_eq_nil_iff.mp h r hmem
  rw [without, hall]

end World

/-- The state of a run as if no request had been made under the number. -/
def RunState.without (st : RunState) (number : Nat) : RunState :=
  { st with world := st.world.without number }

theorem RunState.Quiet.without {st st' : RunState} (h : st.Quiet st') (number : Nat) :
    (st.without number).Quiet (st'.without number) :=
  ⟨h.world.without number, h.journal, h.exchanges⟩

/-! ### The numbers of agents -/

/-- The number under which the human of a swarm is asked. -/
def Settings.numbers (s : Settings) : List Nat := (s.human.map Human.number).toList

mutual

/-- The numbers under which an agent, and the agents and humans in it, are asked. -/
def Agent.numbers : Agent → List Nat
  | .simple number _ _ _ => [number]
  | .swarm _ s agents => s.numbers ++ numbersOf agents

/-- The numbers under which the agents, and all in them, are asked. -/
def numbersOf : List Agent → List Nat
  | [] => []
  | a :: rest => a.numbers ++ numbersOf rest

end

/-- A part of a run that never looks at the requests under the number. -/
def LeavesOut (number : Nat) {α : Type} (p : Run α) : Prop :=
  Alike (fun st su => su = st.without number) Eq p p

/-- An agent that never looks at the requests under the number. -/
def Responder.LeavesOut (number : Nat) (respond : Responder) : Prop :=
  ∀ task image, Alike (fun w v => v = w.without number) Eq (respond task image) (respond task image)

/-- No agent of the crew looks at the requests under the number. -/
def Crew.LeavesOut (number : Nat) (crew : Crew) : Prop :=
  ∀ name respond, Table.lookup name crew = some respond → respond.LeavesOut number

/-- If no request was made under the number before, none was made afterwards. -/
theorem LeavesOut.stays {number : Nat} {α : Type} {p : Run α} (h : LeavesOut number p)
    {st : RunState} (hst : st.without number = st) :
    Together (fun st su => su = st.without number) Eq (p st) (p st) := by
  have hboth := h st _ rfl
  rwa [hst] at hboth

/-! ### The parts of a run -/

section Parts

variable {number : Nat} {s : Settings} {crew : Crew} {image : Option String}

theorem emitEvents_leavesOut (events : List Event) : LeavesOut number (emitEvents events) := by
  rintro st _ rfl
  exact .ok rfl

theorem report_leavesOut (notice : Notice) : LeavesOut number (report s notice) :=
  emitEvents_leavesOut _

theorem drawNumber_leavesOut : LeavesOut number drawNumber := by
  rintro st _ rfl
  exact .ok rfl

theorem recordAnswer_leavesOut (agent text : String) :
    LeavesOut number (recordAnswer agent text) := by
  rintro st _ rfl
  exact .ok rfl

theorem saveRecord_leavesOut (runId task output : String) :
    LeavesOut number (saveRecord s runId task output) := by
  rintro st _ rfl
  have hrecord : (st.without number).recordOf s runId task output =
      st.recordOf s runId task output := rfl
  have hfiles : (st.without number).world.files = st.world.files := rfl
  rw [saveRecord_apply, saveRecord_apply, hrecord, hfiles]
  generalize st.world.files.saveJson (recordPath s.directory task)
    (.value (st.recordOf s runId task output).toJson) = saved
  obtain ⟨outcome, files⟩ := saved
  cases outcome <;> exact .ok rfl

theorem promptHuman_leavesOut (prompt : Prompt) : LeavesOut number (promptHuman prompt) := by
  rintro st _ rfl
  rw [promptHuman, promptHuman, RunState.without, World.ask_without]
  obtain ⟨answer, w⟩ := st.world.ask prompt
  cases answer with
  | ok text => exact .ok rfl
  | error e => exact .error rfl rfl

theorem consultHuman_leavesOut {human : Human} (h : human.number ≠ number) (task : String) :
    LeavesOut number (consultHuman human task) := by
  rintro st _ rfl
  rw [consultHuman, consultHuman, RunState.without, World.requestsTo_without _ h,
    World.note_without _ h]
  exact .ok rfl

theorem askHuman_leavesOut (h : number ∉ s.numbers) (prompt : Prompt) (task : String) :
    LeavesOut number (askHuman s prompt task) := by
  rw [LeavesOut, askHuman]
  refine .bind (report_leavesOut _) fun _ => ?_
  cases hhuman : s.human with
  | none => exact promptHuman_leavesOut prompt
  | some human =>
    have hne : human.number ≠ number := by
      simpa [Settings.numbers, hhuman, eq_comm] using h
    cases s.humanInTheLoop with
    | true => exact consultHuman_leavesOut hne task
    | false => exact promptHuman_leavesOut prompt

theorem exchange_leavesOut {respond : Responder} (h : respond.LeavesOut number)
    (name task : String) : LeavesOut number (exchange name respond task image) := by
  rintro st _ rfl
  have hboth := h task image st.world _ rfl
  rw [exchange, exchange, RunState.without]
  generalize respond task image st.world = r at hboth ⊢
  generalize respond task image (st.world.without number) = r' at hboth ⊢
  cases hboth with
  | ok hworld => exact hworld ▸ .ok rfl
  | error he hworld => exact he ▸ hworld ▸ .error rfl rfl

theorem callAgent_leavesOut {name : String}
    (h : ∀ respond, Table.lookup name crew = some respond → respond.LeavesOut number)
    (task : String) : LeavesOut number (callAgent s crew image task name) :=
  callAgent_congr (fun _ => report_leavesOut _) rfl (Alike.throw rfl)
    (fun respond hrespond => exchange_leavesOut (h respond hrespond) name task)
    (recordAnswer_leavesOut name)

/-- A run never looks at the requests under a number that neither its human nor its
agents have. -/
theorem attempt_leavesOut (h : number ∉ s.numbers) (hcrew : crew.LeavesOut number)
    (order : Order) : LeavesOut number (attempt s crew order) := by
  have hcheck : LeavesOut number (checkFlow s crew) := by
    rintro st _ rfl
    rw [checkFlow, checkFlow, RunState.without]
    obtain ⟨checked, readings⟩ := st.memory.readings.check crew.has s.flow
    cases checked with
    | ok flow => exact .ok rfl
    | error e => exact .error rfl rfl
  refine .bind hcheck fun flow => ?_
  refine runFlow_congr emitEvents_leavesOut drawNumber_leavesOut ?_ fun number output => ?_
  · refine runLoops_congr (fun _ => report_leavesOut _) rfl (fun task => ?_) 0 order.task s.loops
    exact runSteps_congr (fun _ => report_leavesOut _) (fun _ => askHuman_leavesOut h)
      (fun name _ => callAgent_leavesOut (hcrew name)) task
  · exact keepRecord_congr rfl (saveRecord_leavesOut _ _ _)

end Parts

/-! ### Agents with other numbers -/

section Agents

variable {number : Nat}

theorem respondOf_leavesOut {s : Settings} {crew : Crew} (h : number ∉ s.numbers)
    (hcrew : crew.LeavesOut number) (kept : Nat) : (respondOf kept s crew).LeavesOut number := by
  rintro task image w _ rfl
  let st : RunState := ⟨w, w.memoryOf kept, []⟩
  have hboth := attempt_leavesOut h hcrew ⟨task, image, []⟩ st _ rfl
  have hstart : st.without number = ⟨w.without number, (w.without number).memoryOf kept, []⟩ := rfl
  rw [hstart] at hboth
  refine respondOf_together rfl (fun hend => ?_) hboth
  rw [hend]
  rfl

mutual

/-- An agent with other numbers never looks at the requests under the number. -/
theorem Agent.respond_leavesOut : ∀ a : Agent, number ∉ a.numbers → a.respond.LeavesOut number
  | .simple other name _ answer, h => by
    have hne : other ≠ number := by simpa [Agent.numbers, eq_comm] using h
    rintro task image w _ rfl
    rw [Agent.respond]
    simp only [World.requestsTo_without w hne]
    split
    · exact .ok (w.note_without hne)
    · exact .error rfl (w.note_without hne)
  | .swarm kept s agents, h => by
    rw [Agent.numbers, List.mem_append, not_or] at h
    rw [Agent.respond]
    exact respondOf_leavesOut h.1 (crewOf_leavesOut agents h.2) kept

theorem crewOf_leavesOut : ∀ agents : List Agent, number ∉ numbersOf agents →
    (crewOf agents).LeavesOut number
  | [], _ => fun name respond h => by
    rw [crewOf, Table.lookup] at h
    cases h
  | a :: rest, hnumbers => fun name respond h => by
    rw [numbersOf, List.mem_append, not_or] at hnumbers
    rw [crewOf, Table.lookup] at h
    split at h
    · cases h
      exact a.respond_leavesOut hnumbers.1
    · exact crewOf_leavesOut rest hnumbers.2 name respond h

end

end Agents

/-! ### Runs side by side -/

/-- The states are alike once the requests under the number are left out. -/
def Likeness.Besides (l : Likeness) (number : Nat) (st su : RunState) : Prop :=
  l.States (st.without number) (su.without number)

section Besides

variable {l : Likeness} {number : Nat}

theorem Likeness.Besides.quiet {st su st' su' : RunState} (h : l.Besides number st su)
    (hst : st.Quiet st') (hsu : su.Quiet su') : l.Besides number st' su' :=
  Likeness.States.quiet h (hst.without number) (hsu.without number)

/-- Parts that go alike, and never look at the requests under the number, go alike
when those are left out. -/
theorem Alike.besides {α : Type} {p q : Run α} (h : Alike l.States Eq p q)
    (hp : LeavesOut number p) (hq : LeavesOut number q) : Alike (l.Besides number) Eq p q := by
  intro st su hbesides
  have hboth := h _ _ hbesides
  have hleft := hp st _ rfl
  have hright := hq su _ rfl
  generalize p st = r at hleft ⊢
  generalize q su = r' at hright ⊢
  generalize p (st.without number) = r₀ at hboth hleft
  generalize q (su.without number) = r₀' at hboth hright
  cases hboth with
  | ok hend =>
    obtain ⟨rfl⟩ := hleft
    obtain ⟨rfl⟩ := hright
    exact .ok hend
  | error he hend =>
    obtain _ | ⟨rfl, rfl⟩ := hleft
    obtain _ | ⟨rfl, rfl⟩ := hright
    exact .error he hend

theorem report_besides {s t : Settings} (notice notice' : Notice) :
    Alike (l.Besides number) Eq (report s notice) (report t notice') := by
  intro st su h
  exact .ok (h.quiet (.of_world (World.quiet_emitAll ..)) (.of_world (World.quiet_emitAll ..)))

end Besides

end Relay
