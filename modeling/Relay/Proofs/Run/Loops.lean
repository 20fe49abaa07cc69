import Relay.Proofs.Flow.Leads
import Relay.Proofs.Run.Composition

/-!
# Loops are runs in turn

A run of several loops does what as many runs of one loop do in turn: each goes on
with the text that the one before came to, in the session that it left behind, and
the first that fails is the last. Each of them checks the flow again, lays out the
same plan and splices the same custom text in, so the text is appended once in each
loop.

## Main definitions

* `Session.withLoops` — the session with another number of loops.
* `Session.runChained` — several runs, each on the text that the one before came to.

## Main statements

* `Session.runTraced_withLoops` — the loops of one run, and the runs in turn.
-/

namespace Relay

namespace Session

/-- The session with another number of loops. -/
def withLoops (x : Session) (loops : Nat) : Session :=
  { x with swarm := { x.swarm with settings := { x.swarm.settings with loops := loops } } }

/-- Several runs in turn, each on the text that the one before came to, until one
fails: the last outcome, all exchanges, and the session after all. -/
def runChained (x : Session) (order : Order) :
    Nat → Except SwarmError String × List Exchange × Session
  | 0 => (.ok order.task, [], x)
  | runs + 1 =>
    match x.runTraced order with
    | (.error e, calls, y) => (.error e, calls, y)
    | (.ok text, calls, y) =>
      let (outcome, more, z) := y.runChained { order with task := text } runs
      (outcome, calls ++ more, z)

end Session

/-! ### Loops -/

/-- The loops that are left go like as many runs in turn that come behind what was
done before. -/
theorem runLoops_chained (x : Session) {s : Settings} {crew : Crew} {flow : Flow}
    (hsteady : crew.Steady) (hflow : Flow.check crew.has s.flow = .ok flow)
    (image : Option String) (custom : List CustomTask) (left : Nat) :
    ∀ {y : Session}, y.swarm.settings = { s with loops := 1 } → y.swarm.roster.crew = crew →
      ∀ {before : List Exchange} {st : RunState}, (Likeness.behind before).States st y.start →
        ∀ (done : Nat) (task : String),
          SameRun
            (x.resultOf (runLoops s crew image (flow.plan custom.head?) done task left st))
            ((y.runChained ⟨task, image, custom⟩ left).1,
              before ++ (y.runChained ⟨task, image, custom⟩ left).2.1,
              (y.runChained ⟨task, image, custom⟩ left).2.2) := by
  induction left with
  | zero =>
    intro y _ _ before st h done task
    exact ⟨rfl, h.exchanges, h.world, h.journal⟩
  | succ left ih =>
    intro y hsettings hcrew before st h done task
    let order : Order := ⟨task, image, custom⟩
    obtain ⟨su₀, hsu, hfirst⟩ :=
      attempt_of_valid_once { s with loops := 1 } crew order y.start hflow rfl
    have hrun : y.runTraced order =
        y.resultOf (attempt { s with loops := 1 } crew order y.start) := by
      rw [y.runTraced_eq, hsettings, hcrew]
    let st₀ : RunState :=
      { st with world := st.world.emitAll (s.eventsOf (.loop (done + 1) s.loops)) }
    have hst : st.Quiet st₀ := .of_world (World.quiet_emitAll ..)
    have hsteps : Together (Likeness.behind before).States Eq
        (runSteps s crew image (flow.plan custom.head?) task st₀)
        (runSteps { s with loops := 1 } crew image (flow.plan custom.head?) task su₀) :=
      runSteps_alike_of_steady _ rfl rfl hsteady _ task _ _ (h.quiet hst hsu)
    have hreported : report s (.loop (done + 1) s.loops) st = .ok () st₀ := report_apply ..
    rw [runLoops, bind_of_ok hreported, Session.runChained, hrun]
    have hboth := hsteps.quiet (.quiet_refl _) hfirst
    generalize hr : runSteps s crew image (flow.plan custom.head?) task st₀ = r at hboth
    generalize attempt { s with loops := 1 } crew order y.start = r' at hboth ⊢
    cases hboth with
    | error he hend =>
      rw [bind_of_error hr]
      exact .of_together (.error he hend)
    | @ok text st₁ su₁ hend =>
      rw [bind_of_ok hr]
      -- The next run starts where this one ended, with no exchanges of its own yet.
      have hnext : (Likeness.behind (before ++ su₁.exchanges)).States st₁ (y.afterRun su₁).start :=
        ⟨hend.world, hend.journal, hend.exchanges.trans (List.append_nil _).symm⟩
      have hrest := ih (y := y.afterRun su₁) hsettings hcrew hnext (done + 1) text
      rw [List.append_assoc] at hrest
      exact hrest

/-- What is quiet comes behind a run without being seen. -/
theorem SameRun.quiet {x : Session} {r q : EStateM.Result SwarmError RunState String}
    {p : Except SwarmError String × List Exchange × Session} (h : SameRun (x.resultOf r) p)
    (hquiet : Together RunState.Quiet Eq r q) : SameRun (x.resultOf q) p := by
  cases hquiet with
  | ok hafter =>
    exact ⟨h.outcome, hafter.exchanges.trans h.calls, h.world.quiet hafter.world (.refl _),
      hafter.journal.trans h.journal⟩
  | error he hafter =>
    subst he
    exact ⟨h.outcome, hafter.exchanges.trans h.calls, h.world.quiet hafter.world (.refl _),
      hafter.journal.trans h.journal⟩

namespace Session

/-- A run of several loops does what as many runs of one loop do in turn, and each of
these splices the text of the custom task in once, if its target leads a stage. -/
theorem runTraced_withLoops (x : Session) (order : Order) (loops : Nat) {flow : Flow}
    (h : Flow.check x.swarm.roster.contains x.swarm.settings.flow = .ok flow) :
    SameRun ((x.withLoops loops).runTraced order) ((x.withLoops 1).runChained order loops) ∧
      (flow.plan order.custom.head?).filterMap Step.added? =
        (order.custom.head?.filter fun c => flow.isLed c.target).toList.map CustomTask.text := by
  refine ⟨?_, flow.added_plan order.custom.head?⟩
  rw [← Roster.has_crew] at h
  let s : Settings := { x.swarm.settings with loops := loops }
  obtain ⟨st, hst, hrun⟩ :=
    attempt_of_valid s x.swarm.roster.crew order (x.withLoops loops).start h
  have hstart : (Likeness.behind []).States st (x.withLoops 1).start :=
    Likeness.States.quiet ⟨.refl _ x.world, rfl, rfl⟩ hst (.refl _)
  have hloops := runLoops_chained (x.withLoops loops) (s := s) (crewOf_steady _) h order.image
    order.custom loops (y := x.withLoops 1) rfl rfl hstart 0 order.task
  rw [runTraced_eq]
  exact hloops.quiet hrun

/-- The third of three loops breaks off, after the human has answered twice, the second
time at the end of the input. -/
theorem runTraced_withLoops_third :
    let x := Sample.session "A -> B -> H" 1 [Sample.agent 1 "A" 5, Sample.agent 2 "B" 2]
    let order : Order := ⟨"t", some "i", [⟨"B", "A->B"⟩, ⟨"A", "u"⟩]⟩
    let flow : Flow := ⟨[⟨.agent "A", []⟩, ⟨.agent "B", []⟩, ⟨.human, []⟩]⟩
    Flow.check x.swarm.roster.contains x.swarm.settings.flow = .ok flow ∧
      SameRun ((x.withLoops 3).runTraced order) ((x.withLoops 1).runChained order 3) ∧
      ((x.withLoops 1).runChained order 3).2.1.map Exchange.task =
        ["t", "tA -> A->B", "hi", "hiA -> A->B", "", "A -> A->B"] ∧
      ((x.withLoops 1).runChained order 3).1 = .error (.agent ⟨"B", "enough"⟩) := by
  intro x order flow
  have h : Flow.check x.swarm.roster.contains x.swarm.settings.flow = .ok flow := by decide +kernel
  obtain ⟨hsame, -⟩ := runTraced_withLoops x order 3 h
  exact ⟨h, hsame, by decide +kernel, by decide +kernel⟩

end Session

end Relay
