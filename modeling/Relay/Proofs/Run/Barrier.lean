import Relay.Proofs.Run.Trace

/-!
# Members side by side

Members that stand side by side do not hear of each other. First the human among them, if
there is one, is asked, and then each agent is given the same task and the same image,
whatever the other agents answer. What they hand on are their texts in declared order with
separators between them. So an agent that answers otherwise changes its own part of that
text and nothing else.

## Main definitions

* `briefing` — the human is asked before the agents.
* `Served` — agents were given one task, one after the other.
* `Exchange.SameRequest` — the same was asked for.
* `OnePlace` — a joined text, by what stands in one place of it.

## Main statements

* `joinTexts_onePlace` — one place among texts that are joined.
* `runStage_parallel` — the parts of a stage with several members.
* `callAgents_served` — agents that are given one task.
* `runStage_barrier` — what a stage with several members does, whatever is answered.
-/

namespace Relay

/-! ### Texts that are joined -/

/-- What is handed on when a text stands in one place among others, or no text does. Texts
before that place and behind it stay as they are. Without a text in it, one separator is
gone as well, unless there is no other text. -/
structure OnePlace (before after : String) (hand : Option String → String) : Prop where
  text : ∀ text, hand (some text) = before ++ text ++ after
  missing : (∃ rest, after = "; " ++ rest ∧ hand none = before ++ rest) ∨
    (after = "" ∧ ∃ rest, before = rest ++ "; " ∧ hand none = rest) ∨
    (before = "" ∧ after = "" ∧ hand none = "")

/-- Texts behind a first one, each with a separator in front. -/
theorem intercalate_cons (text : String) (after : List String) :
    "; ".intercalate (text :: after) = text ++ String.join (after.map ("; " ++ ·)) := by
  induction after generalizing text with
  | nil => simp
  | cons next after ih =>
    rw [String.intercalate_cons_cons, ih, List.map_cons, String.join_cons]
    simp only [String.append_assoc]

/-- A text among others, each with a separator between it and that text. -/
theorem intercalate_append_cons (before after : List String) (text : String) :
    "; ".intercalate (before ++ text :: after) =
      String.join (before.map (· ++ "; ")) ++ text ++ String.join (after.map ("; " ++ ·)) := by
  induction before with
  | nil => simpa using intercalate_cons text after
  | cons first before ih =>
    have hne : before ++ text :: after ≠ [] := by simp
    rw [List.cons_append, String.intercalate_cons_of_ne_nil hne, ih, List.map_cons,
      String.join_cons]
    simp only [String.append_assoc]

/-- One place among texts that are joined. -/
theorem intercalate_onePlace (before after : List String) :
    OnePlace (String.join (before.map (· ++ "; "))) (String.join (after.map ("; " ++ ·)))
      fun text => "; ".intercalate (before ++ text.toList ++ after) where
  text text := by
    rw [Option.toList_some, List.append_assoc, List.singleton_append, intercalate_append_cons]
  missing := by
    rw [Option.toList_none, List.append_nil]
    cases after with
    | cons next rest =>
      refine .inl ⟨next ++ String.join (rest.map ("; " ++ ·)), by simp [String.append_assoc], ?_⟩
      rw [intercalate_append_cons, String.append_assoc]
    | nil =>
      refine .inr ?_
      obtain rfl | ⟨rest, last, rfl⟩ := before.eq_nil_or_concat
      · exact .inr ⟨rfl, rfl, rfl⟩
      · refine .inl ⟨rfl, String.join (rest.map (· ++ "; ")) ++ last, ?_, ?_⟩
        · simp [String.append_assoc]
        · simpa using intercalate_append_cons rest [] last

/-- Among the texts that are handed on, the one in any place counts for that place alone. -/
theorem joinTexts_onePlace (before after : List (Option String)) :
    OnePlace (String.join ((before.filterMap id).map (· ++ "; ")))
      (String.join ((after.filterMap id).map ("; " ++ ·)))
      fun text => joinTexts (before ++ text :: after) := by
  have hfilter (text : Option String) : (before ++ text :: after).filterMap id =
      before.filterMap id ++ text.toList ++ after.filterMap id := by
    cases text <;> simp
  simp only [joinTexts, hfilter]
  exact intercalate_onePlace _ _

/-! ### The human before the agents -/

/-- The human is asked, and the answer is put in place of the task. Of several humans, each
is asked about the answer of the one before. -/
def briefing (s : Settings) : Nat → String → Run String
  | 0, task => pure task
  | humans + 1, task => askHuman s .response task >>= briefing s humans

/-- Only the humans among the members replace the task, wherever they stand. -/
theorem replaceTasks_eq_briefing (s : Settings) (members : List Member) (task : String) :
    members.foldlM (replaceTask s) task = briefing s (members.count .human) task := by
  induction members generalizing task with
  | nil => rfl
  | cons m members ih =>
    rw [List.foldlM_cons]
    cases m with
    | agent name =>
      rw [List.count_cons_of_ne (by simp), replaceTask, pure_bind]
      exact ih task
    | human =>
      rw [List.count_cons_self, replaceTask, briefing]
      exact congrArg _ (funext ih)

/-- A stage with several members asks its human and then its agents. -/
theorem runStage_parallel {s : Settings} {crew : Crew} {image : Option String} {stage : Stage}
    (h : stage.isParallel) (task : String) :
    runStage s crew image stage task = (do
      report s (.parallel stage)
      let task ← briefing s (stage.members.count .human) task
      let texts ← stage.agentNames.mapM (callAgent s crew image task)
      return joinTexts texts) := by
  rw [runStage, if_pos h, ← replaceTasks_eq_briefing]
  rfl

/-! ### Agents that are given one task -/

namespace Exchange

/-- What the agent was asked. -/
def asked (e : Exchange) : String × String × Option String := (e.agent, e.task, e.image)

/-- The text of the answer, if the agent answered and the answer has one. -/
def text? (e : Exchange) : Option String := e.answer?.bind Answer.text?

/-- Calls in which the same was asked, with the same outcomes, are the same. -/
theorem eq_of_map_eq {calls calls' : List Exchange} (hasked : calls.map asked = calls'.map asked)
    (houtcomes : calls.map outcome = calls'.map outcome) : calls = calls' := by
  induction calls generalizing calls' with
  | nil => exact (List.map_eq_nil_iff.mp hasked.symm).symm
  | cons c calls ih =>
    cases calls' with
    | nil => exact absurd hasked (by simp)
    | cons c' calls' =>
      obtain ⟨agent, task, image, outcome⟩ := c
      obtain ⟨agent', task', image', outcome'⟩ := c'
      simp only [List.map_cons, List.cons.injEq, asked, Prod.mk.injEq] at hasked houtcomes
      obtain ⟨⟨rfl, rfl, rfl⟩, hasked⟩ := hasked
      obtain ⟨rfl, houtcomes⟩ := houtcomes
      rw [ih hasked houtcomes]

end Exchange

section Served

variable {α : Type} {s : Settings} {crew : Crew} {image : Option String} {task : String}
  {names : List String} {st : RunState} {give : List (Option String) → α}

/-- Agents of the crew are given the task, one after the other, until one of them fails or
is not there. What is handed on is made of the texts of all answers, in order. -/
inductive Served (crew : Crew) (image : Option String) (task : String) (names : List String)
    (st : RunState) (give : List (Option String) → α) :
    List Exchange → EStateM.Result SwarmError RunState α → Prop
  | all {calls : List Exchange} {st' : RunState} (h : Course crew image names st calls st')
      (htask : ∀ c ∈ calls, c.task = task) (hall : calls.map Exchange.agent = names)
      (hanswered : ∀ c ∈ calls, c.IsAnswered) :
      Served crew image task names st give calls (.ok (give (calls.map Exchange.text?)) st')
  | failed {calls : List Exchange} {last : Exchange} {e : AgentError} {st' : RunState}
      (h : Course crew image names st (calls ++ [last]) st')
      (htask : ∀ c ∈ calls ++ [last], c.task = task) (hanswered : ∀ c ∈ calls, c.IsAnswered)
      (hlast : last.outcome = .error e) :
      Served crew image task names st give (calls ++ [last]) (.error (.agent e) st')
  | unknown {calls : List Exchange} {name : String} {st' : RunState}
      (h : Course crew image names st calls st') (htask : ∀ c ∈ calls, c.task = task)
      (hanswered : ∀ c ∈ calls, c.IsAnswered)
      (hnext : calls.map Exchange.agent ++ [name] <+: names) (hname : crew.has name = false) :
      Served crew image task names st give calls (.error (.roster ⟨name⟩) st')

namespace Served

variable {β : Type} {calls : List Exchange}

/-- Something else is made of what was handed on. -/
theorem bind_pure {p : Run α} (h : Served crew image task names st give calls (p st))
    (f : α → β) : Served crew image task names st (fun texts => f (give texts)) calls
      ((p >>= fun a => pure (f a)) st) := by
  generalize hp : p st = r at h
  cases h with
  | all h htask hall hanswered =>
    rw [bind_of_ok hp]
    exact .all h htask hall hanswered
  | failed h htask hanswered hlast =>
    rw [bind_of_error hp]
    exact .failed h htask hanswered hlast
  | unknown h htask hanswered hnext hname =>
    rw [bind_of_error hp]
    exact .unknown h htask hanswered hnext hname

/-- One more agent answered before. -/
theorem cons {name : String} {c : Exchange} {st' : RunState}
    {r : EStateM.Result SwarmError RunState α} (hfirst : Course crew image [name] st [c] st')
    (hagent : c.agent = name) (hc : c.task = task) (hcall : c.IsAnswered)
    (h : Served crew image task names st' (fun texts => give (c.text? :: texts)) calls r) :
    Served crew image task (name :: names) st give (c :: calls) r := by
  have hone : [c].map Exchange.agent = [name] := by rw [List.map_singleton, hagent]
  have hmore {calls : List Exchange} (htask : ∀ c ∈ calls, c.task = task) :
      ∀ c' ∈ c :: calls, c'.task = task := List.forall_mem_cons.mpr ⟨hc, htask⟩
  have hmore' {calls : List Exchange} (hanswered : ∀ c ∈ calls, c.IsAnswered) :
      ∀ c' ∈ c :: calls, c'.IsAnswered := List.forall_mem_cons.mpr ⟨hcall, hanswered⟩
  cases h with
  | all h htask hall hanswered =>
    refine .all (hfirst.append hone h) (hmore htask) ?_ (hmore' hanswered)
    rw [List.map_cons, hagent, hall]
  | @failed calls last e st'' h htask hanswered hlast =>
    rw [← List.cons_append]
    exact .failed (hfirst.append hone h) (hmore htask) (hmore' hanswered) hlast
  | unknown h htask hanswered hnext hname =>
    refine .unknown (hfirst.append hone h) (hmore htask) (hmore' hanswered) ?_ hname
    rw [List.map_cons, hagent]
    exact List.prefix_append_right_inj [name] |>.mpr hnext

/-- Whatever the agents answer, they are asked the same, as far as they are asked. -/
theorem map_asked {r : EStateM.Result SwarmError RunState α}
    (h : Served crew image task names st give calls r) :
    calls.map Exchange.asked <+: names.map fun name => (name, task, image) := by
  have hcourse : ∀ {calls : List Exchange} {st'}, Course crew image names st calls st' →
      (∀ c ∈ calls, c.task = task) →
        calls.map Exchange.asked <+: names.map fun name => (name, task, image) := by
    intro calls st' h htask
    have hasked : calls.map Exchange.asked =
        (calls.map Exchange.agent).map fun name => (name, task, image) := by
      rw [List.map_map]
      refine List.map_congr_left fun c hc => ?_
      rw [Exchange.asked, htask c hc, h.images c hc]
      rfl
    rw [hasked]
    exact h.due.map _
  cases h with
  | all h htask => exact hcourse h htask
  | failed h htask => exact hcourse h htask
  | unknown h htask => exact hcourse h htask

end Served

/-- Agents that are called one after the other are given one task. -/
theorem callAgents_served (s : Settings) (crew : Crew) (image : Option String) (task : String)
    (names : List String) (st : RunState) :
    ∃ calls, Served crew image task names st id calls
      (names.mapM (callAgent s crew image task) st) := by
  induction names generalizing st with
  | nil => exact ⟨[], .all (.of_quiet (.refl st)) (by simp) rfl (by simp)⟩
  | cons name names ih =>
    rw [List.mapM_cons]
    cases hfind : Table.lookup name crew with
    | none =>
      have hcall : callAgent s crew image task name st = .error (.roster ⟨name⟩) st := by
        rw [callAgent, hfind]
        rfl
      have hname : crew.has name = false := by rw [Crew.has, hfind]; rfl
      rw [bind_of_error hcall]
      exact ⟨[], .unknown (.of_quiet (.refl st)) (by simp) (by simp) (by simp) hname⟩
    | some respond =>
      cases hanswer : respond task image st.world with
      | error e w =>
        have hcourse : Course crew image [name] st ([] ++ [⟨name, task, image, .error e⟩]) _ :=
          .of_failure hfind hanswer
        rw [bind_of_error (callAgent_of_error hfind hanswer)]
        exact ⟨_, .failed hcourse.more_due (by simp) (by simp) rfl⟩
      | ok answer w =>
        let st' : RunState := ⟨w.emitAll (answerEvents s name answer),
          st.memory.record name (answer.text?.getD "") w.clock,
          st.exchanges ++ [⟨name, task, image, .ok answer⟩]⟩
        obtain ⟨calls, hserved⟩ := ih st'
        rw [bind_of_ok (callAgent_of_ok hfind hanswer)]
        exact ⟨_, .cons (.of_answer hfind hanswer) rfl rfl ⟨answer, rfl⟩
          (hserved.bind_pure (answer.text? :: ·))⟩

end Served

/-! ### Stages with several members -/

/-- The calls differ in the outcome of one of them, and the texts that are handed on in its
place among them. -/
def DifferInOne (calls calls' : List Exchange) (text text' : String) : Prop :=
  ∃ front c c' back, calls = front ++ c :: back ∧ calls' = front ++ c' :: back ∧
    c.asked = c'.asked ∧ ∃ before after hand, OnePlace before after hand ∧
      text = hand c.text? ∧ text' = hand c'.text?

/-- What members side by side do on one task, whatever crew there is to answer. -/
structure Barrier (image : Option String) (task : String) (names : List String) (st : RunState)
    (run : Crew → EStateM.Result SwarmError RunState String) : Prop where
  /-- The agents of the crew are given the task, one after the other. -/
  served : ∀ crew, ∃ calls, Served crew image task names st joinTexts calls (run crew)
  /-- With any crew, the calls made are the first of the same calls. -/
  asked : ∀ {crew calls}, Served crew image task names st joinTexts calls (run crew) →
    calls.map Exchange.asked <+: names.map fun name => (name, task, image)
  /-- If nobody fails, all agents were called, and their texts are joined in declared order. If
  there is no text, that comes to nothing. -/
  joined : ∀ {crew calls text st'}, Served crew image task names st joinTexts calls (run crew) →
    run crew = .ok text st' → calls.map Exchange.agent = names ∧ (∀ c ∈ calls, c.IsAnswered) ∧
      text = joinTexts (calls.map Exchange.text?) ∧
      ((∀ c ∈ calls, c.text? = none) → text = "")
  /-- If two crews answer the same but in one place, the calls differ in that answer alone, and
  the texts that are handed on in its place alone. -/
  onePlace : ∀ {crew crew' calls calls' text text' st' su' before after a a'},
    Served crew image task names st joinTexts calls (run crew) →
    Served crew' image task names st joinTexts calls' (run crew') →
    run crew = .ok text st' → run crew' = .ok text' su' →
    calls.map Exchange.outcome = before ++ a :: after →
    calls'.map Exchange.outcome = before ++ a' :: after → DifferInOne calls calls' text text'

section Barrier

variable {crew crew' : Crew} {image : Option String} {task : String} {names : List String}
  {st : RunState} {calls calls' : List Exchange}

/-- If nobody failed, all agents were called, and their texts were joined. -/
theorem Served.joined {text : String} {st' : RunState}
    (h : Served crew image task names st joinTexts calls (.ok text st')) :
    calls.map Exchange.agent = names ∧ (∀ c ∈ calls, c.IsAnswered) ∧
      text = joinTexts (calls.map Exchange.text?) := by
  cases h with
  | all h htask hall hanswered => exact ⟨hall, hanswered, rfl⟩

theorem joinTexts_of_none {texts : List (Option String)} (h : ∀ text ∈ texts, text = none) :
    joinTexts texts = "" := by
  have hnone : texts.filterMap id = [] := List.filterMap_eq_nil_iff.mpr h
  rw [joinTexts, hnone]
  rfl

/-- If nobody failed, all calls that were due were made. -/
theorem Served.map_asked_eq {text : String} {st' : RunState}
    (h : Served crew image task names st joinTexts calls (.ok text st')) :
    calls.map Exchange.asked = names.map fun name => (name, task, image) := by
  obtain ⟨hall, -, -⟩ := h.joined
  refine h.map_asked.eq_of_length ?_
  rw [List.length_map, List.length_map, ← hall, List.length_map]

/-- Two crews that answer the same but in one place. -/
theorem Served.differInOne {text text' : String} {st' su' : RunState}
    {before after : List (Except AgentError Answer)} {a a' : Except AgentError Answer}
    (h : Served crew image task names st joinTexts calls (.ok text st'))
    (h' : Served crew' image task names st joinTexts calls' (.ok text' su'))
    (houtcomes : calls.map Exchange.outcome = before ++ a :: after)
    (houtcomes' : calls'.map Exchange.outcome = before ++ a' :: after) :
    DifferInOne calls calls' text text' := by
  have hasked := h.map_asked_eq.trans h'.map_asked_eq.symm
  obtain ⟨-, -, rfl⟩ := h.joined
  obtain ⟨-, -, rfl⟩ := h'.joined
  obtain ⟨front, rest, rfl, hfront, hrest⟩ := List.map_eq_append_iff.mp houtcomes
  obtain ⟨front', rest', rfl, hfront', hrest'⟩ := List.map_eq_append_iff.mp houtcomes'
  obtain ⟨c, back, rfl, hc, hback⟩ := List.map_eq_cons_iff.mp hrest
  obtain ⟨c', back', rfl, hc', hback'⟩ := List.map_eq_cons_iff.mp hrest'
  have hlength : (front.map Exchange.asked).length = (front'.map Exchange.asked).length := by
    rw [List.length_map, List.length_map, ← front.length_map Exchange.outcome, hfront, ← hfront',
      List.length_map]
  rw [List.map_append, List.map_append] at hasked
  obtain ⟨hasked, hasked'⟩ := List.append_inj hasked hlength
  obtain ⟨hsame, hasked'⟩ := List.cons.inj hasked'
  obtain rfl := Exchange.eq_of_map_eq hasked (hfront.trans hfront'.symm)
  obtain rfl := Exchange.eq_of_map_eq hasked' (hback.trans hback'.symm)
  refine ⟨front, c, c', back, rfl, rfl, hsame, _, _, _, joinTexts_onePlace
    (front.map Exchange.text?) (back.map Exchange.text?), ?_, ?_⟩
  · rw [List.map_append, List.map_cons]
  · rw [List.map_append, List.map_cons]

/-- All of this follows from how the agents are called. -/
theorem Barrier.of_served {run : Crew → EStateM.Result SwarmError RunState String}
    (h : ∀ crew, ∃ calls, Served crew image task names st joinTexts calls (run crew)) :
    Barrier image task names st run where
  served := h
  asked hserved := hserved.map_asked
  joined := by
    intro crew calls text st' hserved hrun
    rw [hrun] at hserved
    obtain ⟨hall, hanswered, rfl⟩ := hserved.joined
    refine ⟨hall, hanswered, rfl, fun hnone => joinTexts_of_none fun text htext => ?_⟩
    obtain ⟨c, hc, rfl⟩ := List.mem_map.mp htext
    exact hnone c hc
  onePlace := by
    intro crew crew' calls calls' text text' st' su' before after a a' hserved hserved' hrun hrun'
    rw [hrun] at hserved
    rw [hrun'] at hserved'
    exact hserved.differInOne hserved'

end Barrier

/-- A stage with several members first asks its human, if it has one, about the task. If
that fails, nobody else is asked. Otherwise all its agents are given the same task, which is
the answer of the human, or the task of the stage if it has none, and the same image. -/
theorem runStage_barrier {stage : Stage} (hparallel : stage.isParallel) (s : Settings)
    (image : Option String) (task : String) (st : RunState) :
    let humans := stage.members.count .human
    let st₀ : RunState := { st with world := st.world.emitAll (s.eventsOf (.parallel stage)) }
    (∀ e st', briefing s humans task st₀ = .error e st' →
      ∀ crew, runStage s crew image stage task st = .error e st') ∧
    ∀ task' st₁, briefing s humans task st₀ = .ok task' st₁ →
      (humans = 0 → task' = task) ∧
      (humans = 1 → askHuman s .response task st₀ = .ok task' st₁) ∧
      Barrier image task' stage.agentNames st₁ fun crew => runStage s crew image stage task st := by
  intro humans st₀
  have hreport : report s (.parallel stage) st = .ok () st₀ := report_apply ..
  refine ⟨fun e st' hbriefing crew => ?_, fun task' st₁ hbriefing => ⟨?_, ?_, .of_served ?_⟩⟩
  · rw [runStage_parallel hparallel, bind_of_ok hreport, bind_of_error hbriefing]
  · intro hnone
    rw [hnone] at hbriefing
    cases hbriefing
    rfl
  · intro hone
    rw [hone] at hbriefing
    simpa only [briefing, bind_pure] using hbriefing
  · intro crew
    obtain ⟨calls, hserved⟩ := callAgents_served s crew image task' stage.agentNames st₁
    refine ⟨calls, ?_⟩
    rw [runStage_parallel hparallel, bind_of_ok hreport, bind_of_ok hbriefing]
    exact hserved.bind_pure joinTexts

/-! ### An answer without a text -/

namespace Session.Sample

/-- An agent that always gives the same answer. -/
def replying (number : Nat) (name : String) (answer : Answer) : Agent :=
  .simple number name "" fun _ _ => .ok answer

/-- Three agents, the last of which answers with an empty text. -/
def trio (answer : Answer) : Crew :=
  crewOf [replying 1 "A" (.text "a"), replying 2 "B" answer, replying 3 "C" (.text "")]

/-- A stage with a human among three agents. -/
def aroundHuman : Stage := ⟨.agent "A", [.human, .agent "B", .agent "C"]⟩

/-- The state in which the stage begins. -/
def beforeStage : RunState := (session "" 1 []).start

/-- What the stage hands on, by the answer of the second agent. -/
def handedOn (answer : Answer) : Option String :=
  match runStage (session "" 1 []).swarm.settings (trio answer) none aroundHuman "t"
    beforeStage with
  | .ok text _ => some text
  | .error .. => none

end Session.Sample

section Sample

open Session.Sample

/-- The human is asked before the first agent, although it stands behind it. An empty text is
handed on, and keeps its separators. -/
theorem runStage_barrier_texts :
    let s := (session "" 1 []).swarm.settings
    aroundHuman.isParallel ∧ (∃ st₁, briefing s 1 "t" beforeStage = .ok "hi" st₁ ∧
      Barrier none "hi" ["A", "B", "C"] st₁ fun crew =>
        runStage s crew none aroundHuman "t" beforeStage) ∧
      handedOn (.text "b") = some "a; b; " ∧ handedOn (.text "") = some "a; ; " ∧
      handedOn .nothing = some "a; " := by
  intro s
  have hparallel : aroundHuman.isParallel := rfl
  obtain ⟨st₁, hst₁⟩ : ∃ st₁, briefing s 1 "t" beforeStage = .ok "hi" st₁ := ⟨_, rfl⟩
  obtain ⟨-, hbarrier⟩ := runStage_barrier hparallel s none "t" beforeStage
  obtain ⟨-, -, hbarrier⟩ := hbarrier "hi" st₁ hst₁
  exact ⟨hparallel, ⟨st₁, hst₁, hbarrier⟩, by decide +kernel, by decide +kernel,
    by decide +kernel⟩

end Sample

end Relay
