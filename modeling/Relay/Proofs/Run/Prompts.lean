import Relay.Proofs.Run.SideBySide

/-!
# Runs in which nobody is prompted

The terminal changes only when a human is prompted, and then it is never again what it
was. So if the terminal is the same behind a run as before it, nobody was prompted in it,
not even by an agent that is a swarm.

A run goes by its task, by what its agents and humans answer, and by nothing else. If
these always answer the same to the same, then the outcome of a run in which nobody is
prompted is the same in every state.

## Main definitions

* `Terminal.Reaches` — prompts lead from one terminal to the other.
* `Responder.Fixed`, `Human.Fixed` — the same is always answered to the same.
* `Unswayed` — computations that have the same outcome in any two states.

## Main statements

* `Agent.respond_reaches` — agents at any depth, and the terminal.
* `attempt_unswayed` — whole runs.
-/

namespace Relay

/-- The state behind a computation. -/
def stateOf {ε σ α : Type} : EStateM.Result ε σ α → σ
  | .ok _ st => st
  | .error _ st => st

/-! ### The terminal -/

/-- Prompts, if any, lead from the one terminal to the other. -/
inductive Terminal.Reaches (t : Terminal) : Terminal → Prop
  | refl : t.Reaches t
  | ask {t' : Terminal} (h : t.Reaches t') (prompt : Prompt) : t.Reaches (t'.ask prompt).2

namespace Terminal.Reaches

variable {t t' t'' : Terminal}

theorem trans (h : t.Reaches t') (h' : t'.Reaches t'') : t.Reaches t'' := by
  induction h' with
  | refl => exact h
  | ask _ prompt ih => exact ih.ask prompt

theorem length_le (h : t.Reaches t') : t.prompts.length ≤ t'.prompts.length := by
  induction h with
  | refl => exact Nat.le_refl _
  | @ask t' _ prompt ih =>
    have hasked : (t'.ask prompt).2.prompts.length = t'.prompts.length + 1 := by
      simp [Terminal.ask]
    omega

/-- If no prompt was added, nobody was prompted. -/
theorem eq_of_length_le (h : t.Reaches t') (hle : t'.prompts.length ≤ t.prompts.length) :
    t' = t := by
  cases h with
  | refl => rfl
  | @ask t' h prompt =>
    have hlength := h.length_le
    have hasked : (t'.ask prompt).2.prompts.length = t'.prompts.length + 1 := by
      simp [Terminal.ask]
    omega

theorem antisymm (h : t.Reaches t') (h' : t'.Reaches t) : t' = t := h.eq_of_length_le h'.length_le

end Terminal.Reaches

/-! ### What is always answered -/

/-- The agent gives the same answer, or fails in the same way, whenever it is asked the
same. -/
def Responder.Fixed (respond : Responder) : Prop :=
  ∀ task image w v, Together (fun _ _ => True) Eq (respond task image w) (respond task image v)

/-- The human gives the same answer whenever asked the same. -/
def Human.Fixed (human : Human) : Prop :=
  ∀ past past' task, human.answer past task = human.answer past' task

/-- Asking the agent leads from one terminal to the other. -/
def Responder.Reaches (respond : Responder) : Prop :=
  ∀ task image (w : World), w.terminal.Reaches (stateOf (respond task image w)).terminal

/-! ### Computations that are not swayed -/

/-- Both computations have the same outcome, whatever the states in which they start, if
nobody is prompted in the first of them; that is, if all agents and humans are `fixed`. -/
structure Unswayed (fixed : Prop) {α : Type} (p q : Run α) : Prop where
  reaches : ∀ st : RunState, st.world.terminal.Reaches (stateOf (p st)).world.terminal
  same : fixed → ∀ st su : RunState, (stateOf (p st)).world.terminal = st.world.terminal →
    Together (fun _ _ => True) Eq (p st) (q su)

namespace Unswayed

variable {fixed : Prop} {α β : Type} {p q : Run α} {f g : α → Run β}

/-- Computations that are always done, with one value. -/
theorem of_done {a : α}
    (hp : ∀ st, ∃ st', p st = .ok a st' ∧ st'.world.terminal = st.world.terminal)
    (hq : ∀ st, ∃ st', q st = .ok a st') : Unswayed fixed p q where
  reaches st := by
    obtain ⟨st', hdone, hsame⟩ := hp st
    rw [hdone, stateOf, hsame]
    exact .refl
  same _ st su _ := by
    obtain ⟨st', hdone, -⟩ := hp st
    obtain ⟨su', hdone'⟩ := hq su
    rw [hdone, hdone']
    exact .ok trivial

theorem pure (a : α) : Unswayed fixed (Pure.pure a : Run α) (Pure.pure a) :=
  of_done (fun st => ⟨st, rfl, rfl⟩) fun st => ⟨st, rfl⟩

/-- If nobody was prompted all in all, nobody was in either part. -/
theorem bind (h : Unswayed fixed p q) (hnext : ∀ a, Unswayed fixed (f a) (g a)) :
    Unswayed fixed (p >>= f) (q >>= g) where
  reaches st := by
    have hreach := h.reaches st
    cases hp : p st with
    | ok a st' =>
      rw [hp] at hreach
      rw [bind_of_ok hp]
      exact hreach.trans ((hnext a).reaches st')
    | error e st' =>
      rw [hp] at hreach
      rw [bind_of_error hp]
      exact hreach
  same hfixed st su hend := by
    have hreach := h.reaches st
    have hboth := h.same hfixed st su
    cases hp : p st with
    | ok a st' =>
      rw [bind_of_ok hp] at hend ⊢
      rw [hp] at hreach hboth
      have hlast := (hnext a).reaches st'
      rw [hend] at hlast
      have hfirst : st'.world.terminal = st.world.terminal := hreach.antisymm hlast
      generalize hq : q su = r at hboth
      cases hboth hfirst with
      | ok _ =>
        rw [bind_of_ok hq]
        exact (hnext a).same hfixed st' _ (hend.trans hfirst.symm)
    | error e st' =>
      rw [bind_of_error hp] at hend ⊢
      rw [hp] at hboth
      generalize hq : q su = r at hboth
      cases hboth hend with
      | error he _ =>
        rw [bind_of_error hq]
        exact .error he trivial

instance : Congruence (@Unswayed fixed) := ⟨pure, bind⟩

end Unswayed

/-! ### The parts of a run -/

section Parts

variable {fixed : Prop} {s : Settings} {crew : Crew} {image : Option String}

theorem emitEvents_unswayed (events : List Event) :
    Unswayed fixed (emitEvents events) (emitEvents events) :=
  .of_done (fun _ => ⟨_, rfl, rfl⟩) fun _ => ⟨_, rfl⟩

theorem recordAnswer_unswayed (agent text : String) :
    Unswayed fixed (recordAnswer agent text) (recordAnswer agent text) :=
  .of_done (fun _ => ⟨_, rfl, rfl⟩) fun _ => ⟨_, rfl⟩

/-- Numbers are never the same twice, but nothing goes by them. -/
theorem drawNumber_unswayed {α : Type} {f : Nat → Run α} (h : ∀ n m, Unswayed fixed (f n) (f m)) :
    Unswayed fixed (drawNumber >>= f) (drawNumber >>= f) where
  reaches st := by
    rw [bind_of_ok (drawNumber_apply st)]
    exact (h st.world.supply 0).reaches { st with world := st.world.draw.2 }
  same hfixed st su hend := by
    rw [bind_of_ok (drawNumber_apply st)] at hend ⊢
    rw [bind_of_ok (drawNumber_apply su)]
    exact (h st.world.supply su.world.supply).same hfixed _ _ hend

theorem keepRecord_unswayed (task : String) (n m : Nat) (output : String) :
    Unswayed fixed (keepRecord s task n output) (keepRecord s task m output) :=
  .of_done (fun st => ⟨_, keepRecord_apply s task n output st, rfl⟩)
    fun st => ⟨_, keepRecord_apply s task m output st⟩

theorem checkFlow_unswayed : Unswayed fixed (checkFlow s crew) (checkFlow s crew) where
  reaches st := by
    obtain ⟨st', -, hworld, hcheck⟩ := checkFlow_quiet s crew st
    rw [hcheck]
    cases Flow.check crew.has s.flow with
    | ok flow =>
      change st.world.terminal.Reaches st'.world.terminal
      rw [hworld]
      exact .refl
    | error e =>
      change st.world.terminal.Reaches st'.world.terminal
      rw [hworld]
      exact .refl
  same _ st su _ := by
    obtain ⟨st', -, -, hcheck⟩ := checkFlow_quiet s crew st
    obtain ⟨su', -, -, hcheck'⟩ := checkFlow_quiet s crew su
    rw [hcheck, hcheck']
    cases Flow.check crew.has s.flow with
    | ok flow => exact .ok trivial
    | error e => exact .error rfl trivial

theorem promptHuman_unswayed (prompt : Prompt) :
    Unswayed fixed (promptHuman prompt) (promptHuman prompt) := by
  have hafter (st : RunState) :
      (stateOf (promptHuman prompt st)).world.terminal = (st.world.terminal.ask prompt).2 := by
    rw [promptHuman]
    simp only
    cases (st.world.ask prompt).1 <;> rfl
  refine ⟨fun st => ?_, fun _ st su hend => ?_⟩
  · rw [hafter]
    exact .ask .refl prompt
  · have hprompts := congrArg (List.length ∘ Terminal.prompts) (hafter st ▸ hend)
    simp [Terminal.ask] at hprompts

theorem consultHuman_unswayed {human : Human} (hhuman : fixed → human.Fixed) (task : String) :
    Unswayed fixed (consultHuman human task) (consultHuman human task) where
  reaches _ := .refl
  same hfixed st su _ := by
    rw [consultHuman, consultHuman,
      hhuman hfixed _ ((su.world.requestsTo human.number).map Request.task) task]
    exact .ok trivial

theorem exchange_unswayed {respond : Responder} (hreaches : respond.Reaches)
    (hrespond : fixed → respond.Fixed) (name task : String) :
    Unswayed fixed (exchange name respond task image) (exchange name respond task image) where
  reaches st := by
    have hreach := hreaches task image st.world
    rw [exchange]
    cases hanswer : respond task image st.world with
    | ok answer w =>
      rw [hanswer] at hreach
      exact hreach
    | error e w =>
      rw [hanswer] at hreach
      exact hreach
  same hfixed st su _ := by
    have hboth := hrespond hfixed task image st.world su.world
    rw [exchange, exchange]
    generalize respond task image st.world = r at hboth
    generalize respond task image su.world = r' at hboth
    cases hboth with
    | ok _ => exact .ok trivial
    | error he _ => exact .error (congrArg SwarmError.agent he) trivial

/-- If all agents and humans are fixed, the outcome of a run in which nobody is prompted
does not depend on the state. -/
theorem attempt_unswayed
    (hhuman : fixed → ∀ human, s.human = some human → s.humanInTheLoop = true → human.Fixed)
    (hreaches : ∀ name respond, Table.lookup name crew = some respond → respond.Reaches)
    (hcrew : fixed → ∀ name respond, Table.lookup name crew = some respond → respond.Fixed)
    (order : Order) : Unswayed fixed (attempt s crew order) (attempt s crew order) := by
  have hreport (notice : Notice) : Unswayed fixed (report s notice) (report s notice) :=
    emitEvents_unswayed _
  have hask (prompt : Prompt) (task : String) : Unswayed fixed
      (askHuman s prompt task) (askHuman s prompt task) :=
    askHuman_congr hreport rfl rfl (promptHuman_unswayed prompt)
      fun human hcustom hon =>
        consultHuman_unswayed (fun hfixed => hhuman hfixed human hcustom hon) task
  have hcall (name task : String) : Unswayed fixed (callAgent s crew order.image task name)
      (callAgent s crew order.image task name) := by
    refine callAgent_congr hreport rfl ?_ (fun respond hfind => ?_) (recordAnswer_unswayed name)
    · exact ⟨fun _ => .refl, fun _ _ _ _ => .error rfl trivial⟩
    · exact exchange_unswayed (hreaches name respond hfind)
        (fun hfixed => hcrew hfixed name respond hfind) name task
  refine .bind checkFlow_unswayed fun flow => ?_
  rw [runFlow_eq]
  refine .bind (emitEvents_unswayed _) fun _ => drawNumber_unswayed fun n m => ?_
  refine .bind ?_ fun output => keepRecord_unswayed order.task n m output
  exact runLoops_congr hreport rfl
    (runSteps_congr hreport (fun _ => hask) fun name _ => hcall name) 0 order.task s.loops

end Parts

/-! ### Agents at any depth -/

/-- A simple agent that does not go by earlier requests gives the same answer whenever it
is asked the same. -/
theorem Agent.respond_fixed {number : Nat} {name description : String}
    {answer : List Request → Request → Except AgentError Answer}
    (h : ∀ past past' r, answer past r = answer past' r) :
    (Agent.simple number name description answer).respond.Fixed := by
  intro task image w v
  simp only [Agent.respond]
  rw [h (w.requestsTo number) (v.requestsTo number)]
  cases answer (v.requestsTo number) ⟨number, .agent name, task, image⟩ with
  | ok a => exact .ok trivial
  | error e => exact .error rfl trivial

/-- Asking an agent leads from one terminal to the other, even if it is a swarm. -/
theorem Agent.respond_reaches : ∀ a : Agent, a.respond.Reaches := by
  refine Agent.respond_induction ?_ ?_
  · intro number name description answer task image w
    rw [Agent.respond]
    simp only
    cases answer (w.requestsTo number) ⟨number, .agent name, task, image⟩ <;> exact .refl
  · intro number s crew hcrew task image w
    have hrun : Unswayed False (attempt s crew ⟨task, image, []⟩)
        (attempt s crew ⟨task, image, []⟩) :=
      attempt_unswayed False.elim hcrew False.elim _
    have hreach := hrun.reaches ⟨w, w.memoryOf number, []⟩
    rw [respondOf]
    cases hend : attempt s crew ⟨task, image, []⟩ ⟨w, w.memoryOf number, []⟩ with
    | ok text st =>
      rw [hend] at hreach
      exact hreach
    | error e st =>
      rw [hend] at hreach
      exact hreach

theorem crewOf_reaches : ∀ (agents : List Agent) (name : String) (respond : Responder),
    Table.lookup name (crewOf agents) = some respond → respond.Reaches :=
  crewOf_of_respond Agent.respond_reaches

end Relay
