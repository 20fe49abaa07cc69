import Relay.Proofs.Run.Steady

/-!
# How a prompt is worded

A human at the terminal answers with the next line, however the prompt is worded. So what
a run does with the answers, and what agents do after it, does not depend on the wording:
in worlds that agree but for the wording of the prompts in them, an agent gives the same
answer, or fails in the same way, and leaves worlds behind that agree in this sense again.

## Main definitions

* `World.unworded` — the world with all prompts worded alike.
* `Likeness.Unworded` — states that are alike but for the wording of prompts.
* `Responder.Unswerving` — an agent that does not go by the wording of prompts.

## Main statements

* `askHuman_unworded` — a human who is asked with any two prompts.
* `attempt_unworded` — whole runs.
* `Agent.respond_unswerving`, `crewOf_unswerving` — agents at any depth.
-/

namespace Relay

/-! ### Worlds with all prompts worded alike -/

/-- The dealing, with its prompt worded like all others. -/
def Dealing.unworded : Dealing → Dealing
  | .request r => .request r
  | .question _ => .question .response

/-- The world with all prompts worded alike. -/
def World.unworded (w : World) : World :=
  { w with
    dealings := w.dealings.map Dealing.unworded
    terminal := { w.terminal with prompts := w.terminal.prompts.map fun _ => .response } }

/-- The state with all prompts worded alike. -/
def RunState.unworded (st : RunState) : RunState := { st with world := st.world.unworded }

namespace World

theorem requestsTo_unworded (w : World) (number : Nat) :
    w.unworded.requestsTo number = w.requestsTo number := by
  rw [requestsTo, requestsTo, requests, requests, unworded, List.filterMap_map]
  have hsame : Dealing.request? ∘ Dealing.unworded = Dealing.request? := by
    funext d
    cases d <;> rfl
  rw [hsame]

theorem note_unworded (w : World) (r : Request) : (w.note r).unworded = w.unworded.note r := by
  simp [note, unworded, Dealing.unworded]

/-- The answer does not depend on the prompt, and neither does what is left behind. -/
theorem ask_unworded (w : World) (prompt : Prompt) :
    w.unworded.ask .response = ((w.ask prompt).1, (w.ask prompt).2.unworded) := by
  simp [ask, unworded, Dealing.unworded, Terminal.ask]

theorem Quiet.unworded {w v : World} (h : w.Quiet v) : w.unworded.Quiet v.unworded where
  dealings := congrArg (List.map Dealing.unworded) h.dealings
  terminal := congrArg (fun t : Terminal => { t with prompts := t.prompts.map fun _ => .response })
    h.terminal
  clock := h.clock
  memories := h.memories

/-- In worlds that agree but for the wording, the same requests were made. -/
theorem Agree.requestsTo_eq {kept : Nat → Prop} {w v : World}
    (h : w.unworded.Agree kept v.unworded) (number : Nat) :
    w.requestsTo number = v.requestsTo number := by
  rw [← requestsTo_unworded, ← v.requestsTo_unworded]
  exact h.requestsTo number

end World

/-! ### States that are alike but for the wording -/

/-- The states are alike once all prompts are worded alike. -/
def Likeness.Unworded (l : Likeness) (st su : RunState) : Prop :=
  l.States st.unworded su.unworded

/-- What is quiet does not show. -/
theorem Likeness.Unworded.quiet {l : Likeness} {st su st' su' : RunState} (h : l.Unworded st su)
    (hst : st.Quiet st') (hsu : su.Quiet su') : l.Unworded st' su' :=
  Likeness.States.quiet h ⟨hst.world.unworded, hst.journal, hst.exchanges⟩
    ⟨hsu.world.unworded, hsu.journal, hsu.exchanges⟩

/-- In worlds that agree but for the wording of prompts, the agent gives the same answer, or
fails in the same way, and leaves worlds behind that agree in the same sense. -/
def Responder.Unswerving (respond : Responder) : Prop :=
  ∀ kept task image,
    Alike (fun w v => w.unworded.Agree kept v.unworded) Eq (respond task image) (respond task image)

/-- No agent of the crew goes by the wording of prompts. -/
def Crew.Unswerving (crew : Crew) : Prop :=
  ∀ name respond, Table.lookup name crew = some respond → respond.Unswerving

/-! ### The parts of a run -/

section Parts

variable (l : Likeness) {s t : Settings} {crew : Crew} {image : Option String}

theorem report_unworded (notice notice' : Notice) :
    Alike l.Unworded Eq (report s notice) (report t notice') := by
  intro st su h
  exact .ok (h.quiet (.of_world (World.quiet_emitAll ..)) (.of_world (World.quiet_emitAll ..)))

theorem promptHuman_unworded (prompt prompt' : Prompt) :
    Alike l.Unworded Eq (promptHuman prompt) (promptHuman prompt') := by
  intro st su h
  have hleft := st.world.ask_unworded prompt
  have hright := su.world.ask_unworded prompt'
  have hanswer : (st.world.ask prompt).1 = (su.world.ask prompt').1 := by
    have hsame := h.world.ask_fst .response
    rwa [RunState.unworded, RunState.unworded, hleft, hright] at hsame
  have hworld : (st.world.ask prompt).2.unworded.Agree l.kept
      (su.world.ask prompt').2.unworded := by
    have hafter := h.world.ask_snd .response
    rwa [RunState.unworded, RunState.unworded, hleft, hright] at hafter
  have hend : l.Unworded { st with world := (st.world.ask prompt).2 }
      { su with world := (su.world.ask prompt').2 } := ⟨hworld, h.journal, h.exchanges⟩
  rw [promptHuman, promptHuman]
  simp only [hanswer]
  cases (su.world.ask prompt').1 with
  | ok text => exact .ok hend
  | error e => exact .error rfl hend

theorem consultHuman_unworded (human : Human) (task : String) :
    Alike l.Unworded Eq (consultHuman human task) (consultHuman human task) := by
  intro st su h
  have hpast : st.world.requestsTo human.number = su.world.requestsTo human.number :=
    h.world.requestsTo_eq human.number
  rw [consultHuman, consultHuman, hpast]
  refine .ok ⟨?_, h.journal, h.exchanges⟩
  rw [RunState.unworded, RunState.unworded, World.note_unworded, World.note_unworded]
  exact h.world.note _

/-- The same human is asked, with any two prompts. -/
theorem askHuman_unworded (hhuman : s.human = t.human)
    (henabled : s.humanInTheLoop = t.humanInTheLoop) (prompt prompt' : Prompt) (task : String) :
    Alike l.Unworded Eq (askHuman s prompt task) (askHuman t prompt' task) :=
  askHuman_congr (fun _ => report_unworded l _ _) hhuman henabled
    (promptHuman_unworded l prompt prompt') fun human _ _ => consultHuman_unworded l human task

theorem exchange_unworded {respond : Responder} (hunswerving : respond.Unswerving)
    (name task : String) :
    Alike l.Unworded Eq (exchange name respond task image) (exchange name respond task image) := by
  intro st su h
  have hboth := hunswerving l.kept task image _ _ h.world
  rw [exchange, exchange]
  generalize respond task image st.world = r at hboth
  generalize respond task image su.world = r' at hboth
  cases hboth with
  | ok hworld => exact .ok ⟨hworld, h.journal, l.exchanges_append h.exchanges _⟩
  | error he hworld =>
    subst he
    exact .error rfl ⟨hworld, h.journal, l.exchanges_append h.exchanges _⟩

theorem recordAnswer_unworded (name text : String) :
    Alike l.Unworded Eq (recordAnswer name text) (recordAnswer name text) := by
  intro st su h
  have hclock : st.world.clock = su.world.clock := h.world.clock
  have hjournal : l.journal (st.memory.journal.record name text st.world.clock)
      (su.memory.journal.record name text su.world.clock) := by
    rw [hclock]
    exact l.journal_record h.journal ..
  exact .ok ⟨h.world, hjournal, h.exchanges⟩

/-- The same agent is called with the same task. -/
theorem callAgent_unworded (hcrew : crew.Unswerving) (name task : String) :
    Alike l.Unworded Eq (callAgent s crew image task name) (callAgent t crew image task name) :=
  callAgent_congr (fun _ => report_unworded l _ _) rfl (.throw rfl)
    (fun respond hrespond => exchange_unworded l (hcrew name respond hrespond) name task)
    (recordAnswer_unworded l name)

/-- The same steps are run. -/
theorem runSteps_unworded (hcrew : crew.Unswerving) (hhuman : s.human = t.human)
    (henabled : s.humanInTheLoop = t.humanInTheLoop) (steps : List Step) (task : String) :
    Alike l.Unworded Eq (runSteps s crew image steps task) (runSteps t crew image steps task) :=
  runSteps_congr (fun _ => report_unworded l _ _)
    (fun _ prompt task => askHuman_unworded l hhuman henabled prompt prompt task)
    (fun name _ task => callAgent_unworded l hcrew name task) task

/-- A run that is made twice. -/
theorem attempt_unworded (hcrew : crew.Unswerving) (s : Settings) (order : Order) :
    Alike l.Unworded Eq (attempt s crew order) (attempt s crew order) := by
  cases hcheck : Flow.check crew.has s.flow with
  | ok flow =>
    exact attempts_alike Likeness.Unworded.quiet hcheck hcheck rfl
      (runSteps_unworded l hcrew rfl rfl _)
  | error e =>
    intro st su h
    obtain ⟨st', hst, -, hrun⟩ := attempt_of_invalid s crew order st hcheck
    obtain ⟨su', hsu, -, hrun'⟩ := attempt_of_invalid s crew order su hcheck
    rw [hrun, hrun']
    exact .error rfl (h.quiet hst hsu)

end Parts

/-! ### Agents at any depth -/

/-- A swarm that serves as an agent does not go by the wording if none of its agents does. -/
theorem respondOf_unswerving (number : Nat) (s : Settings) {crew : Crew}
    (hcrew : crew.Unswerving) : (respondOf number s crew).Unswerving := by
  intro kept task image w v h
  have hstart : (Likeness.within kept number).Unworded ⟨w, w.memoryOf number, []⟩
      ⟨v, v.memoryOf number, []⟩ := ⟨h, h.journals number, trivial⟩
  exact respondOf_together rfl (fun hend => hend.world.setMemory hend.journal)
    (attempt_unworded (.within kept number) hcrew s ⟨task, image, []⟩ _ _ hstart)

/-- No agent goes by the wording of prompts. -/
theorem Agent.respond_unswerving : ∀ a : Agent, a.respond.Unswerving := by
  refine Agent.respond_induction ?_ fun number s _ hcrew => respondOf_unswerving number s hcrew
  intro number name description answer kept task image w v h
  have hnote (r : Request) : (w.note r).unworded.Agree kept (v.note r).unworded := by
    rw [World.note_unworded, World.note_unworded]
    exact h.note r
  rw [Agent.respond]
  simp only [h.requestsTo_eq]
  split
  · exact .ok (hnote _)
  · exact .error rfl (hnote _)

theorem crewOf_unswerving : ∀ agents : List Agent, (crewOf agents).Unswerving :=
  crewOf_of_respond Agent.respond_unswerving

end Relay
