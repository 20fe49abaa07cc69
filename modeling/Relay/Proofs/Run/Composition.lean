import Relay.Proofs.Run.Steady
import Relay.Proofs.Run.Trace

/-!
# Flows run one after the other

A flow that is put together from two others by an arrow does what the two do one
after the other: the second goes on with the text that the first came to, in the
session that the first left behind. If the first fails, the second is not run.

What nobody is dealt with for may differ: two runs report more events than one,
draw two numbers, and save two records.

## Main definitions

* `Session.runInTurn` — two flows, one after the other.
* `SameRun` — runs that are the same for all agents and humans and in both logs.

## Main statements

* `Session.runTraced_setFlow_append` — the flow put together from two others.
-/

namespace Relay

/-- Two runs have the same outcome and make the same calls. The sessions that they
leave behind have the same dealings with agents and humans, the same terminal and
the same journals. -/
structure SameRun (r r' : Except SwarmError String × List Exchange × Session) : Prop where
  outcome : r.1 = r'.1
  calls : r.2.1 = r'.2.1
  world : r.2.2.world.Agree (fun _ => True) r'.2.2.world
  journal : r.2.2.swarm.journal = r'.2.2.swarm.journal

/-- A run along the first flow and, if it succeeds, another along the second flow
with the text that the first came to: the last outcome, all exchanges, and the
session after all. -/
def Session.runInTurn (x : Session) (first second task : String) (image : Option String) :
    Except SwarmError String × List Exchange × Session :=
  match (x.setFlow first).runTraced ⟨task, image, []⟩ with
  | (.error e, calls, y) => (.error e, calls, y)
  | (.ok text, calls, y) =>
    let (outcome, more, z) := (y.setFlow second).runTraced ⟨text, image, []⟩
    (outcome, calls ++ more, z)

/-! ### Runs that come behind others -/

/-- The two states differ only in that some exchanges were made before those of
the second. -/
def Likeness.behind (before : List Exchange) : Likeness where
  kept _ := True
  journal := Eq
  exchanges es fs := es = before ++ fs
  journal_record h _ _ _ := by rw [h]
  exchanges_append h e := by rw [h, List.append_assoc]

theorem Likeness.States.trans_behind {before : List Exchange} {st su sv : RunState}
    (h : (Likeness.behind []).States st su) (h' : (Likeness.behind before).States su sv) :
    (Likeness.behind before).States st sv where
  world := h.world.trans h'.world
  journal := h.journal.trans h'.journal
  exchanges := h.exchanges.trans h'.exchanges

/-- A run that ends like another one is the same, with some exchanges made before. -/
theorem SameRun.of_together {x y : Session} {before : List Exchange}
    {r r' : EStateM.Result SwarmError RunState String}
    (h : Together (Likeness.behind before).States Eq r r') :
    SameRun (x.resultOf r)
      ((y.resultOf r').1, before ++ (y.resultOf r').2.1, (y.resultOf r').2.2) := by
  cases h with
  | ok hend => exact ⟨rfl, hend.exchanges, hend.world, hend.journal⟩
  | error he hend => exact ⟨congrArg Except.error he, hend.exchanges, hend.world, hend.journal⟩

/-! ### Flows put together -/

section Joined

variable {r : Roster} {first second : String}

/-- If all three are valid, the stages of the two flows together are those of the
flow put together from them. -/
theorem Roster.check_append (hfirst : r.validate first = .ok ())
    (hsecond : r.validate second = .ok ()) (hboth : r.validate (first ++ "->" ++ second) = .ok ()) :
    ∃ f g, Flow.check r.contains first = .ok f ∧ Flow.check r.contains second = .ok g ∧
      Flow.check r.contains (first ++ "->" ++ second) = .ok ⟨f.stages ++ g.stages⟩ := by
  obtain ⟨f, hf⟩ := Roster.validate_eq_ok_iff.mp hfirst
  obtain ⟨g, hg⟩ := Roster.validate_eq_ok_iff.mp hsecond
  obtain ⟨whole, hwhole⟩ := Roster.validate_eq_ok_iff.mp hboth
  have hparse := Flow.parse_append (Flow.check_eq_ok_iff.mp hf).1 (Flow.check_eq_ok_iff.mp hg).1
  have hstages : whole = ⟨f.stages ++ g.stages⟩ :=
    Except.ok.inj ((Flow.check_eq_ok_iff.mp hwhole).1.symm.trans hparse)
  exact ⟨f, g, hf, hg, hstages ▸ hwhole⟩

end Joined

/-- A run along the stages of two flows together ends like a run along the first
if that fails, and otherwise like a run along the second from where the first ended. -/
theorem attempt_append (s : Settings) {crew : Crew} {both first second : String} {f g : Flow}
    (hsteady : crew.Steady) (hloops : s.loops = 1)
    (hboth : Flow.check crew.has both = .ok ⟨f.stages ++ g.stages⟩)
    (hfirst : Flow.check crew.has first = .ok f) (hsecond : Flow.check crew.has second = .ok g)
    (task : String) (image : Option String) {st su : RunState}
    (h : (Likeness.behind []).States st su) :
    match attempt { s with flow := first } crew ⟨task, image, []⟩ su with
    | .error e su' => Together (Likeness.behind []).States Eq
        (attempt { s with flow := both } crew ⟨task, image, []⟩ st) (.error e su')
    | .ok text su' => ∀ {before sv}, (Likeness.behind before).States su' sv →
        Together (Likeness.behind before).States Eq
          (attempt { s with flow := both } crew ⟨task, image, []⟩ st)
          (attempt { s with flow := second } crew ⟨text, image, []⟩ sv) := by
  let whole : Settings := { s with flow := both }
  let part : Settings := { s with flow := first }
  obtain ⟨st₀, hst, hwhole⟩ := attempt_of_valid_once whole crew ⟨task, image, []⟩ st hboth hloops
  obtain ⟨su₀, hsu, hpart⟩ := attempt_of_valid_once part crew ⟨task, image, []⟩ su hfirst hloops
  have hsteps : Together (Likeness.behind []).States Eq
      (runSteps whole crew image (f.plan none) task st₀)
      (runSteps part crew image (f.plan none) task su₀) :=
    runSteps_alike_of_steady _ rfl rfl hsteady _ task st₀ su₀ (h.quiet hst hsu)
  have hplan : Flow.plan ⟨f.stages ++ g.stages⟩ none = f.plan none ++ g.plan none := List.map_append
  simp only [List.head?_nil] at hwhole hpart
  rw [hplan, runSteps_append] at hwhole
  generalize hr : runSteps whole crew image (f.plan none) task st₀ = r at hsteps
  generalize runSteps part crew image (f.plan none) task su₀ = r' at hsteps hpart
  generalize attempt { s with flow := first } crew ⟨task, image, []⟩ su = q at hpart ⊢
  cases hsteps with
  | error he hend =>
    rw [bind_of_error hr] at hwhole
    obtain _ | ⟨rfl, hafter⟩ := hpart
    exact (Together.error he hend).quiet hwhole (.error rfl hafter)
  | @ok text st₁ su₁ hend =>
    rw [bind_of_ok hr] at hwhole
    obtain ⟨hafter⟩ := hpart
    intro before sv hsv
    obtain ⟨sv₀, hquiet, hrest⟩ :=
      attempt_of_valid_once { s with flow := second } crew ⟨text, image, []⟩ sv hsecond hloops
    have hstart : (Likeness.behind before).States st₁ sv₀ :=
      ((hend.quiet (.refl st₁) hafter).trans_behind hsv).quiet (.refl st₁) hquiet
    exact (runSteps_alike_of_steady _ rfl rfl hsteady _ text st₁ sv₀ hstart).quiet hwhole hrest

/-- A flow put together from two others by an arrow is run by running the two one
after the other. -/
theorem Session.runTraced_setFlow_append (x : Session) (first second task : String)
    (image : Option String) (hloops : x.swarm.settings.loops = 1)
    (hfirst : x.swarm.roster.validate first = .ok ())
    (hsecond : x.swarm.roster.validate second = .ok ())
    (hboth : x.swarm.roster.validate (first ++ "->" ++ second) = .ok ()) :
    SameRun ((x.setFlow (first ++ "->" ++ second)).runTraced ⟨task, image, []⟩)
      (x.runInTurn first second task image) := by
  obtain ⟨f, g, hf, hg, hfg⟩ := Roster.check_append hfirst hsecond hboth
  rw [← Roster.has_crew] at hf hg hfg
  have hsteady : x.swarm.roster.crew.Steady := crewOf_steady _
  let whole := x.setFlow (first ++ "->" ++ second)
  let part := x.setFlow first
  have hstart : (Likeness.behind []).States whole.start part.start :=
    ⟨(World.Agree.refl _ x.world).quiet (World.quiet_emitAll ..) (World.quiet_emitAll ..), rfl, rfl⟩
  have hrun := attempt_append x.swarm.settings hsteady hloops hfg hf hg task image hstart
  have hpart : part.runTraced ⟨task, image, []⟩ = part.resultOf
      (attempt { x.swarm.settings with flow := first } x.swarm.roster.crew ⟨task, image, []⟩
        part.start) := part.runTraced_eq _
  generalize attempt { x.swarm.settings with flow := first } x.swarm.roster.crew
    ⟨task, image, []⟩ part.start = r at hrun hpart
  rw [whole.runTraced_eq, runInTurn, hpart]
  cases r with
  | error e su' => exact .of_together hrun
  | ok text su' =>
    -- The second run starts where the first ended, with no exchanges of its own yet.
    let next := (part.afterRun su').setFlow second
    have hnext : (Likeness.behind su'.exchanges).States su' next.start :=
      ⟨(World.Agree.refl _ su'.world).quiet (.refl _) (World.quiet_emitAll ..), rfl,
        (List.append_nil _).symm⟩
    have hlast : next.runTraced ⟨text, image, []⟩ = next.resultOf
        (attempt { x.swarm.settings with flow := second } x.swarm.roster.crew ⟨text, image, []⟩
          next.start) := next.runTraced_eq _
    change SameRun _ ((next.runTraced ⟨text, image, []⟩).1, _,
      (next.runTraced ⟨text, image, []⟩).2.2)
    rw [hlast]
    exact .of_together (hrun hnext)

/-- The first flow ends in a hyphen and the second begins with the head of an arrow. -/
theorem Session.runTraced_setFlow_append_hyphen :
    let x := Sample.session "" 1
      [Sample.agent 1 "A" 5, Sample.agent 2 "B-" 5, Sample.agent 3 ">C" 5, Sample.agent 4 "D" 0]
    x.swarm.settings.loops = 1 ∧ x.swarm.roster.validate "A->B-" = .ok () ∧
      x.swarm.roster.validate ">C, H->D" = .ok () ∧
      x.swarm.roster.validate "A->B-->>C, H->D" = .ok () ∧
      SameRun ((x.setFlow ("A->B-" ++ "->" ++ ">C, H->D")).runTraced ⟨"t", some "i", []⟩)
        (x.runInTurn "A->B-" ">C, H->D" "t" (some "i")) ∧
      (x.runInTurn "A->B-" ">C, H->D" "t" (some "i")).2.1.map Exchange.task =
        ["t", "tA", "hi", "hi>C"] ∧
      (x.runInTurn "A->B-" ">C, H->D" "t" (some "i")).1 = .error (.agent ⟨"D", "enough"⟩) := by
  intro x
  have hfirst : x.swarm.roster.validate "A->B-" = .ok () := by decide +kernel
  have hsecond : x.swarm.roster.validate ">C, H->D" = .ok () := by decide +kernel
  have hboth : x.swarm.roster.validate "A->B-->>C, H->D" = .ok () := by decide +kernel
  have hsame :=
    runTraced_setFlow_append x "A->B-" ">C, H->D" "t" (some "i") rfl hfirst hsecond hboth
  exact ⟨rfl, hfirst, hsecond, hboth, hsame, by decide +kernel, by decide +kernel⟩

end Relay
