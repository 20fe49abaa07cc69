import Relay.Proofs.Session.Apart

/-!
# Only the text of an answer matters

Agents may answer with texts, verdicts, JSON values or nothing, but only the text of an
answer goes into the journal, into the records and on to the next agent. The kind shows
in the events alone. So agents that answer in other kinds, but with the same texts, can
take the place of the agents of a swarm, and of the swarms among them, and nothing but
the events changes.

## Main definitions

* `Difference.inKind` — sessions that differ in the kinds of answers.

## Main statements

* `Session.only_texts_matter` — whatever is done with two such sessions.
-/

namespace Relay

/-- What agents answer may differ in kind, but not in text. The kind is reported, so the
events may differ. -/
def Difference.inKind : Difference where
  settings s t := s = t
  answers a b := a.text? = b.text?
  events _ _ := True
  files f g := f = g
  akin := by
    rintro s _ rfl
    exact ⟨rfl, rfl, rfl, rfl, rfl, rfl, rfl⟩
  settings_refl _ := rfl
  settings_flow h flow := congrArg (fun s : Settings => { s with flow := flow }) h
  answers_refl _ := rfl
  text_eq h := h
  events_refl _ := trivial
  events_append _ _ := trivial
  events_notice _ _ _ := trivial
  events_answer _ _ _ _ := trivial
  files_refl _ := rfl
  saving := by
    rintro s _ l r f _ rfl - rfl record
    exact ⟨rfl, trivial⟩

/-- The worlds of such sessions are the same, but for the events. -/
theorem World.Apart.eq_of_inKind {w v : World} (h : w.Apart .inKind v) :
    { w with events := [] } = { v with events := [] } := by
  obtain ⟨supply, clock, dealings, terminal, events, files, memories⟩ := w
  obtain ⟨hsupply, hclock, hdealings, hterminal, hmemories, -, hfiles⟩ := h
  cases hsupply
  cases hclock
  cases hdealings
  cases hterminal
  cases hmemories
  cases (show files = v.files from hfiles)
  rfl

namespace Session

/-- If the agents of two swarms, after any requests, always fail in the same way or give
answers of the same text, then whatever is done with the swarms gives the same back,
with the same calls of agents and humans. All that is noted and all records that are
saved are the same, and so is the rest of the worlds, but for the events. -/
theorem only_texts_matter {x y : Session} (h : x.Apart .inKind y) {ops ops' : List Operation}
    (hops : List.Forall₂ (Operation.Apart .inKind) ops ops') (order : Order) :
    let x' := x.performAll ops
    let y' := y.performAll ops'
    List.Forall₂ (Outcome.Apart .inKind) (x.outcomes ops) (y.outcomes ops') ∧
      x'.swarm.memory = y'.swarm.memory ∧
      { x'.world with events := [] } = { y'.world with events := [] } ∧
      (x'.runTraced order).1 = (y'.runTraced order).1 ∧
      List.Forall₂ (Exchange.Apart .inKind) (x'.runTraced order).2.1
        (y'.runTraced order).2.1 := by
  intro x' y'
  obtain ⟨houtcomes, hend⟩ := h.performAll hops
  obtain ⟨houtcome, hcalls, -⟩ := hend.runTraced order
  exact ⟨houtcomes, hend.memory, hend.world.eq_of_inKind, houtcome, hcalls⟩

/-! ### Agents that answer in other kinds -/

namespace Sample

/-- An agent that gives the same answer twice and then fails. -/
def answering (number : Nat) (name : String) (answer : Answer) : Agent :=
  .simple number name "" fun past _ =>
    if past.length < 2 then .ok answer else .error ⟨name, "enough"⟩

theorem answering_apart {number : Nat} {name : String} {a b : Answer} (h : a.text? = b.text?) :
    (answering number name a).Apart .inKind (answering number name b) := by
  refine .simple fun past r => ?_
  by_cases hpast : past.length < 2
  · rw [if_pos hpast, if_pos hpast]
    exact h
  · rw [if_neg hpast, if_neg hpast]
    exact rfl

/-- A swarm of agents with these answers, one of which is asked by a swarm of its own. -/
def mixed (verdict text none : Answer) : Session :=
  session "A, B -> C, H -> N" 1
    [answering 1 "A" verdict, answering 2 "B" text, answering 3 "C" none,
      .swarm 4 { (session "D -> E" 1 []).swarm.settings with name := "N" }
        [answering 5 "D" verdict, answering 6 "E" none]]

/-- These agents answer with verdicts and in JSON. -/
def judging : Session := mixed (.flag true) (.json (.str "b")) (.json .null)

/-- These answer with texts or not at all. -/
def telling : Session := mixed (.text "True") (.text "b") .nothing

theorem judging_apart : judging.Apart .inKind telling where
  world := .refl _ _
  settings := rfl
  roster := by
    refine (Roster.Apart.refl .inKind .empty).addAll ?_
    refine .cons (answering_apart rfl) (.cons (answering_apart rfl) ?_)
    refine .cons (answering_apart rfl) (.cons (.swarm rfl ?_) .nil)
    exact .cons (answering_apart rfl) (.cons (answering_apart rfl) .nil)
  memory := rfl

/-- Two runs, and a third that breaks off. -/
def threeRuns : List Operation :=
  [.runBatch ["s", "t"], .tryRun ⟨"u", some "i", [⟨"N", "extra"⟩]⟩]

end Sample

/-- Both swarms have noted the same after these runs, but one of them has reported verdicts
and the other has not. -/
theorem only_texts_matter_verdicts :
    Sample.judging.Apart .inKind Sample.telling ∧
      List.Forall₂ (Operation.Apart .inKind) Sample.threeRuns Sample.threeRuns ∧
      List.Forall₂ (Outcome.Apart .inKind) (Sample.judging.outcomes Sample.threeRuns)
        (Sample.telling.outcomes Sample.threeRuns) ∧
      (Sample.judging.performAll Sample.threeRuns).swarm.memory =
        (Sample.telling.performAll Sample.threeRuns).swarm.memory ∧
      (Sample.judging.run "s").1 = "True" ∧
      (Sample.telling.performAll Sample.threeRuns).swarm.journal.conversation.length = 8 ∧
      (Sample.judging.performAll Sample.threeRuns).world.events.length ≠
        (Sample.telling.performAll Sample.threeRuns).world.events.length := by
  have hops : List.Forall₂ (Operation.Apart .inKind) Sample.threeRuns Sample.threeRuns :=
    .cons (.same _) (.cons (.same _) .nil)
  obtain ⟨houtcomes, hmemory, -⟩ := only_texts_matter Sample.judging_apart hops { task := "t" }
  exact ⟨Sample.judging_apart, hops, houtcomes, hmemory, by decide +kernel, by decide +kernel,
    by decide +kernel⟩

end Session

end Relay
