import Relay.Proofs.Run.Course

/-!
# Runs side by side

Two computations can be compared in many ways. A comparison is of use for runs if it
goes along with values and with parts in sequence; then two runs compare as soon as
their parts do: what they report, how they ask humans, and how they call agents. The
settings and the crews of the two may differ.

Two computations go *alike* under a relation between their states when, from related
states, they have the same value or both fail, and leave related states behind. This is
such a comparison.

## Main definitions

* `Congruence` — comparisons that go along with parts in sequence.
* `OfFirst` — properties of computations, as comparisons.
* `Alike` — computations whose results go together.

## Main statements

* `Congruence.foldlM`, `Congruence.mapM` — parts for the elements of a list.
* `askHuman_congr`, `callAgent_congr`, `runStage_congr`, `runSteps_congr`,
  `runLoops_congr`, `runFlow_congr` — the parts of a run.
-/

namespace Relay

/-! ### Parts in sequence -/

/-- A comparison of computations that goes along with values and with parts in sequence. -/
class Congruence {ε δ σ τ : Type}
    (C : {α : Type} → EStateM ε σ α → EStateM δ τ α → Prop) : Prop where
  pure {α : Type} (a : α) : C (Pure.pure a) (Pure.pure a)
  bind {α β : Type} {p : EStateM ε σ α} {q : EStateM δ τ α} {f : α → EStateM ε σ β}
    {g : α → EStateM δ τ β} (h : C p q) (hnext : ∀ a, C (f a) (g a)) : C (p >>= f) (q >>= g)

namespace Congruence

variable {ε δ σ τ α β : Type} {C : {α : Type} → EStateM ε σ α → EStateM δ τ α → Prop}
  [Congruence C]

/-- Parts for the elements of one list. -/
theorem foldlM {f : α → β → EStateM ε σ α} {g : α → β → EStateM δ τ α} {xs : List β}
    (h : ∀ x ∈ xs, ∀ a, C (f a x) (g a x)) (a : α) : C (xs.foldlM f a) (xs.foldlM g a) := by
  induction xs generalizing a with
  | nil => exact pure a
  | cons x xs ih =>
    rw [List.foldlM_cons, List.foldlM_cons]
    refine bind (h x List.mem_cons_self a) fun b => ?_
    exact ih (fun y hy => h y (List.mem_cons_of_mem x hy)) b

theorem mapM {f : β → EStateM ε σ α} {g : β → EStateM δ τ α} {xs : List β}
    (h : ∀ x ∈ xs, C (f x) (g x)) : C (xs.mapM f) (xs.mapM g) := by
  induction xs with
  | nil => exact pure []
  | cons x xs ih =>
    rw [List.mapM_cons, List.mapM_cons]
    refine bind (h x List.mem_cons_self) fun b => ?_
    exact bind (ih fun y hy => h y (List.mem_cons_of_mem x hy)) fun bs => pure (b :: bs)

end Congruence

/-- A property of the first of two computations, as a comparison of the two. -/
def OfFirst {ε σ : Type} (P : {α : Type} → EStateM ε σ α → Prop) {α : Type}
    (p _ : EStateM ε σ α) : Prop := P p

/-- A property that values have, and parts in sequence if each part has it. -/
theorem Congruence.ofFirst {ε σ : Type} {P : {α : Type} → EStateM ε σ α → Prop}
    (hpure : ∀ {α : Type} (a : α), P (Pure.pure a))
    (hbind : ∀ {α β : Type} {p : EStateM ε σ α} {f : α → EStateM ε σ β},
      P p → (∀ a, P (f a)) → P (p >>= f)) : Congruence (OfFirst P) :=
  ⟨hpure, hbind⟩

/-- From related states, the results of the two computations go together. -/
def Alike {ε δ σ τ : Type} (R : σ → τ → Prop) (E : ε → δ → Prop) {α : Type} (p : EStateM ε σ α)
    (q : EStateM δ τ α) : Prop :=
  ∀ st su, R st su → Together R E (p st) (q su)

section Alike

variable {ε δ σ τ α β : Type} {R : σ → τ → Prop} {E : ε → δ → Prop}

theorem Together.mono {E' : ε → δ → Prop} (hE : ∀ e d, E e d → E' e d)
    {r : EStateM.Result ε σ α} {r' : EStateM.Result δ τ α} (h : Together R E r r') :
    Together R E' r r' := by
  cases h with
  | ok h => exact .ok h
  | error he h => exact .error (hE _ _ he) h

theorem Together.imp {S : σ → τ → Prop} (hS : ∀ st su, R st su → S st su)
    {r : EStateM.Result ε σ α} {r' : EStateM.Result δ τ α} (h : Together R E r r') :
    Together S E r r' := by
  cases h with
  | ok h => exact .ok (hS _ _ h)
  | error he h => exact .error he (hS _ _ h)

namespace Alike

theorem mono {E' : ε → δ → Prop} (hE : ∀ e d, E e d → E' e d) {p : EStateM ε σ α}
    {q : EStateM δ τ α} (h : Alike R E p q) : Alike R E' p q :=
  fun st su hR => (h st su hR).mono hE

theorem pure (a : α) : Alike R E (Pure.pure a) (Pure.pure a) := fun _ _ hR => .ok hR

theorem bind {p : EStateM ε σ α} {q : EStateM δ τ α} {f : α → EStateM ε σ β}
    {g : α → EStateM δ τ β} (h : Alike R E p q) (hnext : ∀ a, Alike R E (f a) (g a)) :
    Alike R E (p >>= f) (q >>= g) := by
  intro st su hR
  have hboth := h st su hR
  generalize hp : p st = r at hboth
  generalize hq : q su = r' at hboth
  cases hboth with
  | ok hR' =>
    rw [bind_of_ok hp, bind_of_ok hq]
    exact hnext _ _ _ hR'
  | error he hR' =>
    rw [bind_of_error hp, bind_of_error hq]
    exact .error he hR'

theorem throw {e : ε} {d : δ} (he : E e d) : Alike R E (MonadExcept.throw e : EStateM ε σ α)
    (MonadExcept.throw d : EStateM δ τ α) := fun _ _ hR => .error he hR

instance : Congruence (@Alike ε δ σ τ R E) := ⟨pure, bind⟩

end Alike

end Alike

/-! ### The parts of a run -/

section Parts

variable {C : {α : Type} → Run α → Run α → Prop} [Congruence C] {s t : Settings}
  {crew crew' : Crew} {image : Option String}
  (hreport : ∀ notice, C (report s notice) (report t notice))

include hreport

/-- The same human is asked, at the terminal or otherwise. -/
theorem askHuman_congr (hhuman : s.human = t.human)
    (henabled : s.humanInTheLoop = t.humanInTheLoop) {prompt prompt' : Prompt} {task : String}
    (hprompt : C (promptHuman prompt) (promptHuman prompt'))
    (hconsult : ∀ human, t.human = some human → t.humanInTheLoop = true →
      C (consultHuman human task) (consultHuman human task)) :
    C (askHuman s prompt task) (askHuman t prompt' task) := by
  rw [askHuman, askHuman, hhuman, henabled]
  refine Congruence.bind (hreport _) fun _ => ?_
  cases hcustom : t.human with
  | none => exact hprompt
  | some human =>
    cases hon : t.humanInTheLoop with
    | true => exact hconsult human hcustom hon
    | false => exact hprompt

/-- An agent that is found in both crews is called. -/
theorem callAgent_congr {name task : String}
    (hfind : Table.lookup name crew = Table.lookup name crew')
    (hmissing : C (throw (.roster ⟨name⟩) : Run (Option String)) (throw (.roster ⟨name⟩)))
    (hexchange : ∀ respond, Table.lookup name crew' = some respond →
      C (exchange name respond task image) (exchange name respond task image))
    (hrecord : ∀ text, C (recordAnswer name text) (recordAnswer name text)) :
    C (callAgent s crew image task name) (callAgent t crew' image task name) := by
  rw [callAgent, callAgent, hfind]
  cases hcrew : Table.lookup name crew' with
  | none => exact hmissing
  | some respond =>
    refine Congruence.bind (hexchange respond hcrew) fun answer => ?_
    refine Congruence.bind (hreport _) fun _ => ?_
    have hnoted : C (do recordAnswer name (answer.text?.getD ""); return answer.text?)
        (do recordAnswer name (answer.text?.getD ""); return answer.text?) :=
      Congruence.bind (hrecord _) fun _ => Congruence.pure answer.text?
    cases answer.flag? with
    | none => exact hnoted
    | some flag => exact Congruence.bind (hreport _) fun _ => hnoted

/-- A stage compares if the calls of its agents do, and the questions to the human,
in case it has one. -/
theorem runStage_congr {stage : Stage}
    (hask : .human ∈ stage.members →
      ∀ prompt task, C (askHuman s prompt task) (askHuman t prompt task))
    (hcall : ∀ name ∈ stage.agentNames, ∀ task,
      C (callAgent s crew image task name) (callAgent t crew' image task name))
    (task : String) :
    C (runStage s crew image stage task) (runStage t crew' image stage task) := by
  rw [runStage, runStage]
  split
  · refine Congruence.bind (hreport _) fun _ => ?_
    refine Congruence.bind (Congruence.foldlM (fun m hm task => ?_) task) fun task => ?_
    · cases m with
      | agent name => exact Congruence.pure task
      | human => exact hask hm .response task
    · exact Congruence.bind (Congruence.mapM fun name hname => hcall name hname task)
        fun texts => Congruence.pure (joinTexts texts)
  · refine Congruence.bind (hreport _) fun _ => ?_
    cases hlead : stage.lead with
    | human => exact hask (hlead ▸ List.mem_cons_self) .nextTask task
    | agent name =>
      have hname : name ∈ stage.agentNames :=
        List.mem_filterMap.mpr ⟨stage.lead, List.mem_cons_self, by rw [hlead]; rfl⟩
      exact Congruence.bind (hcall name hname task) fun text => Congruence.pure (text.getD task)

/-- The steps of a plan compare if the calls of its agents do, and the questions to the
human, in case it has one. -/
theorem runSteps_congr {steps : List Step}
    (hask : .human ∈ steps.flatMap Step.members →
      ∀ prompt task, C (askHuman s prompt task) (askHuman t prompt task))
    (hcall : ∀ name ∈ steps.flatMap Step.agentNames, ∀ task,
      C (callAgent s crew image task name) (callAgent t crew' image task name))
    (task : String) :
    C (runSteps s crew image steps task) (runSteps t crew' image steps task) := by
  refine Congruence.foldlM (fun step hstep task => ?_) task
  cases step with
  | stage stage =>
    refine runStage_congr hreport (fun hhuman => hask ?_) (fun name hname => hcall name ?_) task
    · exact List.mem_flatMap.mpr ⟨.stage stage, hstep, hhuman⟩
    · exact List.mem_flatMap.mpr ⟨.stage stage, hstep, hname⟩
  | inject text => exact Congruence.pure (extendTask task text)

/-- Equally many loops compare if the steps of the two plans do, even if the plans
differ. -/
theorem runLoops_congr {steps steps' : List Step} (hloops : s.loops = t.loops)
    (hsteps : ∀ task,
      C (runSteps s crew image steps task) (runSteps t crew' image steps' task))
    (done : Nat) (task : String) (left : Nat) :
    C (runLoops s crew image steps done task left)
      (runLoops t crew' image steps' done task left) := by
  induction left generalizing done task with
  | zero => exact Congruence.pure task
  | succ left ih =>
    rw [runLoops, runLoops, hloops]
    exact Congruence.bind (hreport _) fun _ =>
      Congruence.bind (hsteps task) fun task' => ih (done + 1) task'

omit hreport in
/-- Runs along a flow compare if their loops do, and what they do behind them. -/
theorem runFlow_congr {order : Order} {flow : Flow}
    (hemit : ∀ events, C (emitEvents events) (emitEvents events))
    (hdraw : C drawNumber drawNumber)
    (hloops : C
      (runLoops s crew order.image (flow.plan order.custom.head?) 0 order.task s.loops)
      (runLoops t crew' order.image (flow.plan order.custom.head?) 0 order.task t.loops))
    (hkeep : ∀ number output,
      C (keepRecord s order.task number output) (keepRecord t order.task number output)) :
    C (runFlow s crew order flow) (runFlow t crew' order flow) := by
  rw [runFlow_eq, runFlow_eq]
  exact Congruence.bind (hemit _) fun _ => Congruence.bind hdraw fun number =>
    Congruence.bind hloops fun output => hkeep number output

omit hreport in
/-- If both runs save their records or neither does, what they do behind their loops
compares if the saving does. -/
theorem keepRecord_congr {task : String} {number : Nat} {output : String}
    (hautosave : s.autosave = t.autosave)
    (hsave : C (saveRecord s (identifier number) task output)
      (saveRecord t (identifier number) task output)) :
    C (keepRecord s task number output) (keepRecord t task number output) := by
  rw [keepRecord, keepRecord, hautosave]
  cases t.autosave with
  | false => exact Congruence.pure output
  | true => exact Congruence.bind hsave fun _ => Congruence.pure output

end Parts

end Relay
