import Relay.Proofs.Run.SideBySide

/-!
# Why runs fail

A part of a run is made of smaller parts in sequence. It *comes to* one of them, in
the state in which that is begun, if all before it were done. If what it comes to
fails, the whole fails there: the failure is the same, and nothing happens after it.

There are three ways for a run to fail. Its flow is not valid, an agent that it calls
fails, or the line of a human that it asks cannot be read.

## Main definitions

* `Comes` — a part that another one comes to.
* `Fault` — what was at fault when a part of a run failed.

## Main statements

* `Comes.fails` — what fails makes the whole fail.
* `attempt_eq_error_iff` — why runs fail.
-/

namespace Relay

/-! ### What a part comes to -/

/-- In the course of a part that starts in `st` the part `q` is begun in `su`. -/
inductive Comes {β : Type} (q : Run β) (su : RunState) : {α : Type} → Run α → RunState → Prop
  | here : Comes q su q su
  | left {α γ : Type} {p : Run α} {f : α → Run γ} {st : RunState} (h : Comes q su p st) :
      Comes q su (p >>= f) st
  | right {α γ : Type} {p : Run α} {f : α → Run γ} {a : α} {st st' : RunState}
      (hp : p st = .ok a st') (h : Comes q su (f a) st') : Comes q su (p >>= f) st

/-- If a part comes to what fails, it fails there. -/
theorem Comes.fails {α β : Type} {q : Run β} {p : Run α} {su st sv : RunState} {e : SwarmError}
    (h : Comes q su p st) (hq : q su = .error e sv) : p st = .error e sv := by
  induction h with
  | here => exact hq
  | left _ ih => exact bind_of_error ih
  | right hp _ ih => rw [bind_of_ok hp, ih]

/-! ### What is at fault -/

/-- The part comes to a call of an agent that fails, or to a prompt whose answer cannot
be read, or to the check of a flow that is not valid. -/
inductive Fault (s : Settings) (crew : Crew) (image : Option String) {α : Type} (p : Run α)
    (st : RunState) : SwarmError → RunState → Prop
  | flow {e : FlowError} {su sv : RunState} (hcomes : Comes (checkFlow s crew) su p st)
      (hcheck : Flow.check crew.has s.flow = .error e)
      (hend : checkFlow s crew su = .error (.flow e) sv) :
      Fault s crew image p st (.flow e) sv
  | agent {name task : String} {respond : Responder} {e : AgentError} {su : RunState} {w : World}
      (hcomes : Comes (callAgent s crew image task name) su p st)
      (hfind : Table.lookup name crew = some respond)
      (hend : respond task image su.world = .error e w) :
      Fault s crew image p st (.agent e)
        ⟨w, su.memory, su.exchanges ++ [⟨name, task, image, .error e⟩]⟩
  | human {prompt : Prompt} {e : IoError} {su : RunState}
      (hcomes : Comes (promptHuman prompt) su p st)
      (hend : (su.world.ask prompt).1 = .error e) :
      Fault s crew image p st (.human e) { su with world := (su.world.ask prompt).2 }

section Parts

variable {s : Settings} {crew : Crew} {image : Option String} {α β : Type}

/-- A part that comes to all that another one comes to is at fault where that is. -/
theorem Fault.imp {p : Run α} {p' : Run β} {st st' sv : RunState} {e : SwarmError}
    (h : Fault s crew image p st e sv)
    (hcomes : ∀ {γ : Type} {q : Run γ} {su : RunState}, Comes q su p st → Comes q su p' st') :
    Fault s crew image p' st' e sv := by
  cases h with
  | flow h hcheck hend => exact .flow (hcomes h) hcheck hend
  | agent h hfind hend => exact .agent (hcomes h) hfind hend
  | human h hend => exact .human (hcomes h) hend

/-- What is at fault makes the part fail. -/
theorem Fault.fails {p : Run α} {st sv : RunState} {e : SwarmError}
    (h : Fault s crew image p st e sv) : p st = .error e sv := by
  cases h with
  | flow h _ hend => exact h.fails hend
  | agent h hfind hend => exact h.fails (callAgent_of_error hfind hend)
  | @human prompt e su h hend =>
    refine h.fails ?_
    rw [promptHuman]
    simp only [hend]

variable (s crew image)

/-- If the part fails, something is at fault. -/
def Blames (p : Run α) : Prop := ∀ st e sv, p st = .error e sv → Fault s crew image p st e sv

variable {s crew image}

namespace Blames

theorem of_done {p : Run α} (h : ∀ st, ∃ a st', p st = .ok a st') : Blames s crew image p := by
  intro st e sv hfail
  obtain ⟨a, st', hdone⟩ := h st
  exact nomatch hdone.symm.trans hfail

theorem pure (a : α) : Blames s crew image (Pure.pure a : Run α) := of_done fun _ => ⟨_, _, rfl⟩

theorem bind {p : Run α} {f : α → Run β} (h : Blames s crew image p)
    (hnext : ∀ a, Blames s crew image (f a)) : Blames s crew image (p >>= f) := by
  intro st e sv hfail
  cases hp : p st with
  | ok a st' =>
    rw [bind_of_ok hp] at hfail
    exact (hnext a st' e sv hfail).imp (.right hp)
  | error e' sv' =>
    obtain ⟨rfl, rfl⟩ : e' = e ∧ sv' = sv := by
      rw [bind_of_error hp] at hfail
      cases hfail
      exact ⟨rfl, rfl⟩
    exact (h st e' sv' hp).imp .left

instance : Congruence (OfFirst (Blames s crew image)) := .ofFirst pure bind

end Blames

theorem report_blames (notice : Notice) : Blames s crew image (report s notice) :=
  .of_done fun _ => ⟨_, _, rfl⟩

theorem promptHuman_blames (prompt : Prompt) : Blames s crew image (promptHuman prompt) := by
  intro st e sv hfail
  rw [promptHuman] at hfail
  cases hasked : (st.world.ask prompt).1 with
  | ok text =>
    simp only [hasked] at hfail
    cases hfail
  | error d =>
    simp only [hasked] at hfail
    cases hfail
    exact .human .here hasked

theorem askHuman_blames (prompt : Prompt) (task : String) :
    Blames s crew image (askHuman s prompt task) := by
  have hask : OfFirst (Blames s crew image) (askHuman s prompt task) (askHuman s prompt task) :=
    askHuman_congr report_blames rfl rfl (promptHuman_blames prompt)
      fun _ _ _ => .of_done fun _ => ⟨_, _, rfl⟩
  exact hask

theorem callAgent_blames {name : String} (hname : crew.has name) (task : String) :
    Blames s crew image (callAgent s crew image task name) := by
  intro st e sv hfail
  obtain ⟨respond, hfind⟩ := Option.isSome_iff_exists.mp hname
  cases hanswer : respond task image st.world with
  | ok answer w => exact nomatch (callAgent_of_ok hfind hanswer).symm.trans hfail
  | error d w =>
    rw [callAgent_of_error hfind hanswer] at hfail
    cases hfail
    exact .agent .here hfind hanswer

/-- If a run along a flow of agents that are there fails, something is at fault. -/
theorem runFlow_blames {order : Order} {flow : Flow}
    (hnames : ∀ step ∈ flow.plan order.custom.head?, ∀ name ∈ step.agentNames, crew.has name) :
    Blames s crew order.image (runFlow s crew order flow) := by
  have hreport (notice : Notice) : OfFirst (Blames s crew order.image) (report s notice)
      (report s notice) := report_blames notice
  have hsteps (task : String) : OfFirst (Blames s crew order.image)
      (runSteps s crew order.image (flow.plan order.custom.head?) task)
      (runSteps s crew order.image (flow.plan order.custom.head?) task) := by
    refine runSteps_congr hreport (fun _ => askHuman_blames) (fun name hname task => ?_) task
    obtain ⟨step, hstep, hname⟩ := List.mem_flatMap.mp hname
    exact callAgent_blames (hnames step hstep name hname) task
  have hrun : OfFirst (Blames s crew order.image) (runFlow s crew order flow)
      (runFlow s crew order flow) :=
    runFlow_congr (fun _ => .of_done fun _ => ⟨_, _, rfl⟩) (.of_done fun _ => ⟨_, _, rfl⟩)
      (runLoops_congr hreport rfl hsteps 0 order.task s.loops)
      fun number output => .of_done fun st => ⟨_, _, keepRecord_apply s order.task number output st⟩
  exact hrun

end Parts

/-! ### Whole runs -/

/-- A run fails exactly when something is at fault: the flow, an agent or a human. -/
theorem attempt_eq_error_iff {s : Settings} {crew : Crew} {order : Order} {st sv : RunState}
    {e : SwarmError} : attempt s crew order st = .error e sv ↔
      Fault s crew order.image (attempt s crew order) st e sv := by
  refine ⟨fun hfail => ?_, Fault.fails⟩
  obtain ⟨st', -, -, hchecked⟩ := checkFlow_quiet s crew st
  cases hcheck : Flow.check crew.has s.flow with
  | error d =>
    rw [hcheck] at hchecked
    have hend : attempt s crew order st = .error (.flow d) st' := bind_of_error hchecked
    cases hend.symm.trans hfail
    exact .flow (.left .here) hcheck hchecked
  | ok flow =>
    rw [hcheck] at hchecked
    have hrun : Blames s crew order.image (runFlow s crew order flow) :=
      runFlow_blames (has_of_mem_plan hcheck)
    rw [attempt, bind_of_ok hchecked] at hfail
    exact (hrun st' e sv hfail).imp (.right hchecked)

end Relay
