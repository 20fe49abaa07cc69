import Relay.Proofs.Run.Prompts
import Relay.Proofs.Text.Lines

/-!
# Replies of humans

In the course of a run humans are asked, also by swarms that serve as agents, at any depth.
A human who answers in place of the terminal leaves the terminal alone. Otherwise a prompt is
shown and a line is taken, whatever it holds. If it cannot be read, the run that asked fails,
so nobody is asked after it, and so do the runs in which that one is nested, each with the
failure of the one inside it.

All questions of a run are put to one terminal, so the lines are taken in turn, none twice
and none left out.

## Main definitions

* `Reply` — what a human who was asked in a run replied.
* `Hears` — the replies in the course of a part of a run.
* `Terminal.Takes` — replies lead from one terminal to the other.
* `Terminal.LineByLine` — what was read is what the lines say, in turn.

## Main statements

* `exists_hears` — the replies in the course of a whole run.
* `Hears.takes`, `Hears.asked_eq` — what replies leave behind.
* `Hears.breaksOff` — the last reply may be one that cannot be read.
* `Terminal.Takes.lineByLine` — replies are taken line by line.
-/

namespace Relay

/-- What a human who was asked replied. The names are those of the swarms that served as
agents on the way to the human, the outermost first. -/
inductive Reply where
  /-- A human answers in place of the terminal, after earlier tasks. -/
  | custom (levels : List String) (human : Human) (past : List String) (task : String)
  /-- A prompt is shown and a line taken. -/
  | line (levels : List String) (prompt : Prompt) (answer : Except IoError String)

namespace Reply

/-- The reply, in a run of a swarm of this name that serves as an agent. -/
def within (name : String) : Reply → Reply
  | .custom levels human past task => .custom (name :: levels) human past task
  | .line levels prompt answer => .line (name :: levels) prompt answer

/-- What the human was asked. -/
def dealing : Reply → Dealing
  | .custom _ human _ task => .request ⟨human.number, .human, task, none⟩
  | .line _ prompt _ => .question prompt

/-- The prompt that was shown and the answer that was read, if a line was taken. -/
def read? : Reply → Option (Prompt × Except IoError String)
  | .custom .. => none
  | .line _ prompt answer => some (prompt, answer)

/-- The failure of the outermost run, if the line cannot be read. The innermost failed
because of the human, and each around it because of the one inside it. -/
def failure? : Reply → Option SwarmError
  | .line levels _ (.error e) =>
    some (levels.foldr (fun name d => .agent ⟨name, d.message⟩) (.human e))
  | _ => none

theorem dealing_within (name : String) (r : Reply) : (r.within name).dealing = r.dealing := by
  cases r <;> rfl

theorem failure?_within (name : String) (r : Reply) :
    (r.within name).failure? = r.failure?.map fun d => .agent ⟨name, d.message⟩ := by
  cases r with
  | custom levels human past task => rfl
  | line levels prompt answer => cases answer <;> rfl

end Reply

/-- The prompts that were shown, each with the answer that was read. -/
def readsOf (replies : List Reply) : List (Prompt × Except IoError String) :=
  replies.filterMap Reply.read?

theorem readsOf_line (levels : List String) (prompt : Prompt) (answer : Except IoError String)
    (replies : List Reply) :
    readsOf (.line levels prompt answer :: replies) = (prompt, answer) :: readsOf replies := rfl

/-- A human was asked, at the terminal or otherwise. -/
def Dealing.toHuman : Dealing → Bool
  | .request r => r.member = .human
  | .question _ => true

/-- What humans were asked, the earliest first. -/
def World.asked (w : World) : List Dealing := w.dealings.filter Dealing.toHuman

/-- No human was asked from the one world to the other. -/
structure World.Unasked (w v : World) : Prop where
  terminal : v.terminal = w.terminal
  asked : v.asked = w.asked

theorem World.Quiet.unasked {w v : World} (h : w.Quiet v) : w.Unasked v :=
  ⟨h.terminal, congrArg (List.filter Dealing.toHuman) h.dealings⟩

/-! ### The replies in the course of a run -/

/-- In the course of a part that starts in `st` humans reply as they do, the earliest
first. -/
inductive Hears : {α : Type} → Run α → RunState → List Reply → Prop
  | silent {α : Type} {p : Run α} {st : RunState}
      (h : st.world.Unasked (stateOf (p st)).world) : Hears p st []
  | custom {s : Settings} {prompt : Prompt} {task : String} {st : RunState} {human : Human}
      (hhuman : s.human = some human) (hon : s.humanInTheLoop = true) :
      Hears (askHuman s prompt task) st
        [.custom [] human ((st.world.requestsTo human.number).map Request.task) task]
  | line {s : Settings} {prompt : Prompt} {task : String} {st : RunState}
      (h : s.human = none ∨ s.humanInTheLoop = false) :
      Hears (askHuman s prompt task) st [.line [] prompt (st.world.terminal.ask prompt).1]
  | broken {α β : Type} {p : Run α} {f : α → Run β} {st st' : RunState} {e : SwarmError}
      {replies : List Reply} (hp : p st = .error e st') (h : Hears p st replies) :
      Hears (p >>= f) st replies
  | next {α β : Type} {p : Run α} {f : α → Run β} {a : α} {st st' : RunState}
      {replies more : List Reply} (hp : p st = .ok a st') (h : Hears p st replies)
      (hnext : Hears (f a) st' more) : Hears (p >>= f) st (replies ++ more)
  /-- A swarm that serves as an agent hears what is replied in its own run. -/
  | agent {name task : String} {image : Option String} {number : Nat} {s : Settings} {crew : Crew}
      {st : RunState} {replies : List Reply}
      (h : Hears (attempt s crew ⟨task, image, []⟩) ⟨st.world, st.world.memoryOf number, []⟩
        replies) :
      Hears (exchange name (respondOf number s crew) task image) st
        (replies.map (Reply.within s.name))

section Asking

variable (s : Settings) (prompt : Prompt) (task : String) (st : RunState)

/-- A human who answers in place of the terminal leaves the terminal alone. -/
theorem askHuman_of_custom {human : Human} (hhuman : s.human = some human)
    (hon : s.humanInTheLoop = true) : ∃ su : RunState,
      askHuman s prompt task st =
        .ok (human.answer ((st.world.requestsTo human.number).map Request.task) task) su ∧
      su.world.terminal = st.world.terminal ∧
      su.world.asked = st.world.asked ++ [.request ⟨human.number, .human, task, none⟩] := by
  refine ⟨_, askHuman_custom s prompt task st hhuman hon, rfl, ?_⟩
  rw [World.asked, World.note, List.filter_append]
  rfl

/-- Otherwise a prompt is shown and a line taken, whether it can be read or not. -/
theorem askHuman_of_line (h : s.human = none ∨ s.humanInTheLoop = false) : ∃ su : RunState,
      askHuman s prompt task st = (match (st.world.terminal.ask prompt).1 with
        | .ok text => .ok text su
        | .error e => .error (.human e) su) ∧
      su.world.terminal = (st.world.terminal.ask prompt).2 ∧
      su.world.asked = st.world.asked ++ [.question prompt] := by
  let w := st.world.emitAll (s.eventsOf .waiting)
  refine ⟨{ st with world := (w.ask prompt).2 }, ?_, rfl, ?_⟩
  · rw [askHuman_terminal s prompt task st h]
    rfl
  · rw [World.asked, World.ask, List.filter_append]
    rfl

end Asking

/-! ### What replies leave behind -/

/-- The replies, one after the other, lead from the one terminal to the other. -/
inductive Terminal.Takes : Terminal → List Reply → Terminal → Prop
  | nil (t : Terminal) : Takes t [] t
  | custom {t t' : Terminal} {levels : List String} {human : Human} {past : List String}
      {task : String} {replies : List Reply} (h : Takes t replies t') :
      Takes t (.custom levels human past task :: replies) t'
  | line {t t' : Terminal} {levels : List String} {prompt : Prompt} {replies : List Reply}
      (h : Takes (t.ask prompt).2 replies t') :
      Takes t (.line levels prompt (t.ask prompt).1 :: replies) t'

namespace Terminal.Takes

variable {t t' t'' : Terminal} {replies more : List Reply}

theorem append (h : t.Takes replies t') (h' : t'.Takes more t'') :
    t.Takes (replies ++ more) t'' := by
  induction h with
  | nil t => exact h'
  | custom _ ih => exact .custom (ih h')
  | line _ ih => exact .line (ih h')

theorem within (h : t.Takes replies t') (name : String) :
    t.Takes (replies.map (Reply.within name)) t' := by
  induction h with
  | nil t => exact .nil t
  | custom _ ih => exact .custom ih
  | line _ ih => exact .line ih

end Terminal.Takes

/-- The state behind a swarm that serves as an agent has the terminal and the dealings that
its run leaves behind. -/
theorem stateOf_exchange_respondOf (name : String) (number : Nat) (s : Settings) (crew : Crew)
    (task : String) (image : Option String) (st : RunState) :
    let ended := stateOf (attempt s crew ⟨task, image, []⟩
      ⟨st.world, st.world.memoryOf number, []⟩)
    (stateOf (exchange name (respondOf number s crew) task image st)).world =
      ended.world.setMemory number ended.memory := by
  rw [exchange, respondOf]
  cases attempt s crew ⟨task, image, []⟩ ⟨st.world, st.world.memoryOf number, []⟩ <;> rfl

namespace Hears

variable {α : Type} {p : Run α} {st : RunState} {replies : List Reply}

/-- The replies lead from the terminal before the part to the one behind it. -/
theorem takes (h : Hears p st replies) :
    st.world.terminal.Takes replies (stateOf (p st)).world.terminal := by
  induction h with
  | silent h => exact h.terminal ▸ .nil _
  | @custom s prompt task st human hhuman hon =>
    obtain ⟨su, hdone, hterminal, -⟩ :=
      askHuman_of_custom s prompt task st hhuman hon
    rw [hdone, stateOf, hterminal]
    exact .custom (.nil _)
  | @line s prompt task st h =>
    obtain ⟨su, hdone, hterminal, -⟩ :=
      askHuman_of_line s prompt task st h
    have hend : (stateOf (askHuman s prompt task st)).world.terminal =
        (st.world.terminal.ask prompt).2 := by
      rw [hdone, ← hterminal]
      cases (st.world.terminal.ask prompt).1 <;> rfl
    rw [hend]
    exact .line (.nil _)
  | broken hp _ ih =>
    rw [bind_of_error hp]
    rwa [hp] at ih
  | next hp _ _ ih ihnext =>
    rw [bind_of_ok hp]
    rw [hp] at ih
    exact ih.append ihnext
  | @agent name task image number s crew st replies _ ih =>
    rw [stateOf_exchange_respondOf]
    exact ih.within s.name

/-- The replies are to what humans were asked. -/
theorem asked_eq (h : Hears p st replies) :
    (stateOf (p st)).world.asked = st.world.asked ++ replies.map Reply.dealing := by
  induction h with
  | silent h => rw [h.asked, List.map_nil, List.append_nil]
  | @custom s prompt task st human hhuman hon =>
    obtain ⟨su, hdone, -, hasked⟩ :=
      askHuman_of_custom s prompt task st hhuman hon
    rw [hdone, stateOf, hasked]
    rfl
  | @line s prompt task st h =>
    obtain ⟨su, hdone, -, hasked⟩ :=
      askHuman_of_line s prompt task st h
    have hend : (stateOf (askHuman s prompt task st)).world.asked = su.world.asked := by
      rw [hdone]
      cases (st.world.terminal.ask prompt).1 <;> rfl
    rw [hend, hasked]
    rfl
  | broken hp _ ih =>
    rw [bind_of_error hp]
    rwa [hp] at ih
  | next hp _ _ ih ihnext =>
    rw [bind_of_ok hp, ihnext, List.map_append, ← List.append_assoc]
    rw [hp] at ih
    rw [← ih, stateOf]
  | @agent name task image number s crew st replies _ ih =>
    rw [stateOf_exchange_respondOf, List.map_map]
    have hsame : Reply.dealing ∘ Reply.within s.name = Reply.dealing :=
      funext (Reply.dealing_within s.name)
    rw [hsame]
    exact ih

end Hears

/-! ### Replies that cannot be read -/

/-- A reply that cannot be read is the last, and the part fails because of it. -/
def BreaksOff {α : Type} (p : Run α) (st : RunState) (replies : List Reply) : Prop :=
  ∀ (i : Nat) (r : Reply) (e : SwarmError), replies[i]? = some r → r.failure? = some e →
    i + 1 = replies.length ∧ ∃ sv, p st = .error e sv

namespace BreaksOff

variable {α β : Type} {p : Run α} {f : α → Run β} {a : α} {st st' : RunState}
  {replies more : List Reply}

theorem single {r : Reply} (h : ∀ e, r.failure? = some e → ∃ sv, p st = .error e sv) :
    BreaksOff p st [r] := by
  intro i r' d hr hd
  cases i with
  | zero =>
    cases hr
    exact ⟨rfl, h d hd⟩
  | succ i => exact nomatch hr

theorem broken (h : BreaksOff p st replies) : BreaksOff (p >>= f) st replies := by
  intro i r d hr hd
  obtain ⟨hi, sv, hfail⟩ := h i r d hr hd
  exact ⟨hi, sv, bind_of_error hfail⟩

/-- If a part is done, all replies in its course could be read. -/
theorem next (hp : p st = .ok a st') (h : BreaksOff p st replies)
    (hnext : BreaksOff (f a) st' more) : BreaksOff (p >>= f) st (replies ++ more) := by
  intro i r d hr hd
  rcases Nat.lt_or_ge i replies.length with hi | hi
  · rw [List.getElem?_append_left hi] at hr
    obtain ⟨-, sv, hfail⟩ := h i r d hr hd
    exact nomatch hp.symm.trans hfail
  · rw [List.getElem?_append_right hi] at hr
    obtain ⟨hlast, sv, hfail⟩ := hnext _ r d hr hd
    rw [List.length_append]
    exact ⟨by omega, sv, (bind_of_ok hp).trans hfail⟩

/-- A swarm that serves as an agent fails if its run does, and quotes the failure. -/
theorem agent {name task : String} {image : Option String} {number : Nat} {s : Settings}
    {crew : Crew}
    (h : BreaksOff (attempt s crew ⟨task, image, []⟩)
      ⟨st.world, st.world.memoryOf number, []⟩ replies) :
    BreaksOff (exchange name (respondOf number s crew) task image) st
      (replies.map (Reply.within s.name)) := by
  intro i r d hr hd
  rw [List.getElem?_map] at hr
  obtain ⟨inner, hinner, rfl⟩ := Option.map_eq_some_iff.mp hr
  rw [Reply.failure?_within] at hd
  obtain ⟨e, he, rfl⟩ := Option.map_eq_some_iff.mp hd
  obtain ⟨hlast, sv, hfail⟩ := h i inner e hinner he
  rw [List.length_map]
  refine ⟨hlast, ?_⟩
  rw [exchange, respondOf, hfail]
  exact ⟨_, rfl⟩

end BreaksOff

/-- A reply that cannot be read is the last, and the part fails because of it. -/
theorem Hears.breaksOff {α : Type} {p : Run α} {st : RunState} {replies : List Reply}
    (h : Hears p st replies) : BreaksOff p st replies := by
  induction h with
  | silent h => exact fun i r e hr => nomatch hr
  | custom hhuman hon => exact .single fun e he => nomatch he
  | @line s prompt task st h =>
    obtain ⟨su, hdone, -, -⟩ := askHuman_of_line s prompt task st h
    refine .single fun e he => ⟨su, ?_⟩
    rw [hdone]
    cases hanswer : (st.world.terminal.ask prompt).1 with
    | ok text =>
      rw [hanswer] at he
      exact nomatch he
    | error d =>
      rw [hanswer] at he
      cases he
      rfl
  | broken hp _ ih => exact ih.broken
  | next hp _ _ ih ihnext => exact ih.next hp ihnext
  | agent _ ih => exact ih.agent

/-! ### Every run hears replies -/

/-- In the course of the part humans reply, wherever it starts. -/
def Heard {α : Type} (p : Run α) : Prop := ∀ st, ∃ replies, Hears p st replies

/-- Asking the agent, humans reply. -/
def Responder.Heard (respond : Responder) : Prop :=
  ∀ name task image, Relay.Heard (exchange name respond task image)

namespace Heard

variable {α β : Type} {p : Run α} {f : α → Run β}

theorem silent (h : ∀ st : RunState, st.world.Unasked (stateOf (p st)).world) : Heard p :=
  fun st => ⟨[], .silent (h st)⟩

theorem pure (a : α) : Heard (Pure.pure a : Run α) := silent fun _ => ⟨rfl, rfl⟩

theorem bind (h : Heard p) (hnext : ∀ a, Heard (f a)) : Heard (p >>= f) := by
  intro st
  obtain ⟨replies, hreplies⟩ := h st
  cases hp : p st with
  | error e st' => exact ⟨replies, .broken hp hreplies⟩
  | ok a st' =>
    obtain ⟨more, hmore⟩ := hnext a st'
    exact ⟨replies ++ more, .next hp hreplies hmore⟩

instance : Congruence (OfFirst @Heard) := .ofFirst pure bind

end Heard

theorem askHuman_heard (s : Settings) (prompt : Prompt) (task : String) :
    Heard (askHuman s prompt task) := by
  intro st
  cases hhuman : s.human with
  | none => exact ⟨_, .line (.inl hhuman)⟩
  | some human =>
    cases hon : s.humanInTheLoop with
    | true => exact ⟨_, .custom hhuman hon⟩
    | false => exact ⟨_, .line (.inr hon)⟩

/-- In the course of a run humans reply, if they do when its agents are asked. -/
theorem attempt_heard (s : Settings) {crew : Crew}
    (hcrew : ∀ name respond, Table.lookup name crew = some respond → respond.Heard)
    (order : Order) : Heard (attempt s crew order) := by
  have hreport (notice : Notice) : OfFirst @Heard (report s notice) (report s notice) :=
    Heard.silent fun st => (World.quiet_emitAll st.world _).unasked
  have hsteps (steps : List Step) (task : String) : OfFirst @Heard
      (runSteps s crew order.image steps task) (runSteps s crew order.image steps task) := by
    refine runSteps_congr hreport (fun _ => askHuman_heard s) (fun name _ task => ?_) task
    refine callAgent_congr hreport rfl (Heard.silent fun _ => ⟨rfl, rfl⟩)
      (fun respond hfind => hcrew name respond hfind name task order.image)
      fun text => Heard.silent fun _ => ⟨rfl, rfl⟩
  refine Heard.bind (Heard.silent fun st => ?_) fun flow => ?_
  · obtain ⟨st', hquiet, -, hcheck⟩ := checkFlow_quiet s crew st
    rw [hcheck]
    cases Flow.check crew.has s.flow <;> exact hquiet.world.unasked
  · have hrun : OfFirst @Heard (runFlow s crew order flow) (runFlow s crew order flow) :=
      runFlow_congr (fun events => Heard.silent fun st => (World.quiet_emitAll st.world _).unasked)
        (Heard.silent fun _ => ⟨rfl, rfl⟩)
        (runLoops_congr hreport rfl (hsteps _) 0 order.task s.loops)
        fun number output => Heard.silent fun st => by
          rw [keepRecord_apply]
          exact ⟨rfl, rfl⟩
    exact hrun

/-- A simple agent asks no human. -/
theorem Agent.exchange_simple_unasked (number : Nat) (name description : String)
    (answer : List Request → Request → Except AgentError Answer) (called task : String)
    (image : Option String) (st : RunState) :
    st.world.Unasked (stateOf (exchange called
      (Agent.simple number name description answer).respond task image st)).world := by
  have hasked (w : World) : w.Unasked (w.note ⟨number, .agent name, task, image⟩) := by
    refine ⟨rfl, ?_⟩
    rw [World.asked, World.note, List.filter_append]
    exact List.append_nil _
  rw [exchange, Agent.respond]
  simp only
  cases answer (st.world.requestsTo number) ⟨number, .agent name, task, image⟩ <;>
    exact hasked st.world

theorem Agent.respond_heard : ∀ a : Agent, a.respond.Heard := by
  refine Agent.respond_induction ?_ ?_
  · intro number name description answer called task image
    exact Heard.silent (exchange_simple_unasked number name description answer called task image)
  · intro number s crew hcrew name task image st
    obtain ⟨replies, hreplies⟩ :=
      attempt_heard s hcrew ⟨task, image, []⟩ ⟨st.world, st.world.memoryOf number, []⟩
    exact ⟨_, .agent hreplies⟩

/-- In the course of every run humans reply, or nobody is asked. -/
theorem exists_hears (s : Settings) (agents : List Agent) (order : Order) (st : RunState) :
    ∃ replies, Hears (attempt s (crewOf agents) order) st replies :=
  attempt_heard s (crewOf_of_respond Agent.respond_heard agents) order st

/-! ### Line by line -/

/-- What was read, from the one terminal to the other, is what the lines of the input say,
in turn. As many lines are taken as were read, and for each a prompt is shown. Where there
are no more lines, the answer is empty. -/
structure Terminal.LineByLine (t : Terminal) (reads : List (Prompt × Except IoError String))
    (t' : Terminal) : Prop where
  prompts : t'.prompts = t.prompts ++ reads.map Prod.fst
  input : t'.input = ((linesOf t.input).drop reads.length).flatten
  said : ∀ (i : Nat) (read : Prompt × Except IoError String), reads[i]? = some read →
    Says ((linesOf t.input)[i]?.getD []) read.2
  ended : ∀ (i : Nat) (read : Prompt × Except IoError String), reads[i]? = some read →
    (linesOf t.input).length ≤ i → read.2 = .ok ""
  /-- No answer holds a line feed or ends in a carriage return. -/
  clean : ∀ prompt text, (prompt, .ok text) ∈ reads →
    '\n' ∉ text.toList ∧ text.toList.getLast? ≠ some '\r'

namespace Terminal

variable {t t' : Terminal}

theorem linesOf_ask (t : Terminal) (prompt : Prompt) :
    linesOf (t.ask prompt).2.input = (linesOf t.input).tail :=
  linesOf_takeLine_snd t.input

theorem ask_fst (t : Terminal) (prompt : Prompt) :
    (t.ask prompt).1 = answerOfLine ((linesOf t.input)[0]?.getD []) := by
  rw [← takeLine_fst]
  rfl

/-- The replies are the answers of the lines, in turn. -/
theorem Takes.read_eq {replies : List Reply} (h : t.Takes replies t') :
    ∀ (i : Nat) (read : Prompt × Except IoError String), (readsOf replies)[i]? = some read →
      read.2 = answerOfLine ((linesOf t.input)[i]?.getD []) := by
  induction h with
  | nil t => exact fun i read hread => nomatch hread
  | custom _ ih => exact ih
  | @line t t' levels prompt replies _ ih =>
    intro i read hread
    rw [readsOf_line] at hread
    cases i with
    | zero =>
      rw [List.getElem?_cons_zero] at hread
      cases hread
      exact t.ask_fst prompt
    | succ i =>
      rw [List.getElem?_cons_succ] at hread
      rw [ih i read hread, t.linesOf_ask, List.getElem?_tail]

theorem Takes.linesOf_input {replies : List Reply} (h : t.Takes replies t') :
    linesOf t'.input = (linesOf t.input).drop (readsOf replies).length := by
  induction h with
  | nil t => rfl
  | custom _ ih => exact ih
  | @line t t' levels prompt replies _ ih =>
    rw [ih, t.linesOf_ask, List.drop_tail, readsOf_line, List.length_cons]

theorem Takes.prompts_eq {replies : List Reply} (h : t.Takes replies t') :
    t'.prompts = t.prompts ++ (readsOf replies).map Prod.fst := by
  induction h with
  | nil t => exact (List.append_nil _).symm
  | custom _ ih => exact ih
  | @line t t' levels prompt replies _ ih =>
    rw [ih, readsOf_line, List.map_cons]
    exact List.append_assoc t.prompts [prompt] _

/-- Replies are taken line by line. -/
theorem Takes.lineByLine {replies : List Reply} (h : t.Takes replies t') :
    t.LineByLine (readsOf replies) t' where
  prompts := h.prompts_eq
  input := by rw [← h.linesOf_input, flatten_linesOf]
  said i read hread := h.read_eq i read hread ▸ says_answerOfLine _
  ended i read hread hlength := by
    rw [h.read_eq i read hread, List.getElem?_eq_none hlength]
    exact answerOfLine_nil
  clean prompt text hmem := by
    obtain ⟨i, hi⟩ := List.mem_iff_getElem?.mp hmem
    have hread : .ok text = answerOfLine ((linesOf t.input)[i]?.getD []) := h.read_eq i _ hi
    have hsaid : Says ((linesOf t.input)[i]?.getD []) (.ok text) := hread ▸ says_answerOfLine _
    refine hsaid.no_lineEnd ?_
    cases hline : (linesOf t.input)[i]? with
    | none => exact List.not_mem_nil
    | some line => exact (isLines_linesOf t.input).inner line (List.mem_of_getElem? hline)

end Terminal

end Relay
