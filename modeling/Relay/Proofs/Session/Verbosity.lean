import Relay.Proofs.Run.Prompts
import Relay.Proofs.Run.Reports
import Relay.Proofs.Session.Operation

/-!
# Verbosity only adds events of level `info`

Two swarms that differ in their verbosity alone go the same way: they are built or not
built alike, and whatever is done with them gives the same back and leaves the same behind,
but for the events. What is reported on the way follows one script for both of them, in
which what an agent reports is an entry of its own. So the events of the other levels are
the same, in the same order, and a swarm that is not verbose reports nothing of level `info`
itself: such events come from its agents, who go by their own verbosity.

## Main definitions

* `World.SameButInfo` — worlds that differ in events of level `info` alone.
* `Session.SameButVerbosity` — sessions of two swarms that differ in their verbosity alone.
* `Session.Reports` — what a session reported on the way to another one.

## Main statements

* `Builder.build_builtAlike` — builds.
* `Session.SameButVerbosity.toldAlike` — operations on a session.
* `Session.verbosity_only_adds_info` — builds, operations, and swarms that serve as agents.
-/

namespace Relay

/-- The events that are not of level `info`, the earliest first. -/
def World.warnings (w : World) : List Event := w.events.filter (·.level ≠ .info)

/-- The two worlds differ in events of level `info` alone. -/
structure World.SameButInfo (w v : World) : Prop where
  same : ∃ events, v = w.withEvents events
  warnings : w.warnings = v.warnings

theorem World.SameButInfo.refl (w : World) : w.SameButInfo w := ⟨⟨w.events, rfl⟩, rfl⟩

/-- The swarm with another verbosity. -/
def Swarm.withVerbose (s : Swarm) (verbose : Bool) : Swarm :=
  { s with settings := s.settings.withVerbose verbose }

/-- With either verbosity, a script comes to the same events, but for those of level
`info`. -/
theorem filter_script_withVerbose (s : Settings) (verbose : Bool) (script : List Report) :
    (script.flatMap (Report.events (s.withVerbose verbose))).filter (·.level ≠ .info) =
      (script.flatMap (Report.events s)).filter (·.level ≠ .info) := by
  rw [List.filter_flatMap, List.filter_flatMap]
  exact congrArg (script.flatMap ·) (funext fun r => r.filter_events_withVerbose)

namespace Session

/-- The sessions of two swarms that differ in their verbosity alone. The events of level
`info` reported so far may differ as well. -/
structure SameButVerbosity (x y : Session) : Prop where
  swarm : ∃ verbose, y.swarm = x.swarm.withVerbose verbose
  world : x.world.SameButInfo y.world

/-- What the session reported on the way to `x'` is told by the script. -/
structure Reports (x : Session) (script : List Report) (x' : Session) : Prop where
  told : Told x.swarm.roster.crew x.swarm.settings x.world script x'.world
  /-- The events are those that were there before, and then those of the script. -/
  events : x'.world.events =
    x.world.events ++ script.flatMap (Report.events x.swarm.settings)
  /-- Unless the swarm is verbose, what is of level `info` was reported by an agent that was
  asked. -/
  info : x.swarm.settings.verbose = false →
    ∀ e ∈ script.flatMap (Report.events x.swarm.settings), e.level = .info →
      ∃ call reported, Report.asked call reported ∈ script ∧ e ∈ reported

theorem Reports.of_told {x x' : Session} {script : List Report}
    (h : Told x.swarm.roster.crew x.swarm.settings x.world script x'.world) :
    x.Reports script x' where
  told := h
  events := h.events
  info := by
    intro hverbose e he hinfo
    obtain ⟨r, hr, her⟩ := List.mem_flatMap.mp he
    obtain ⟨call, reported, rfl⟩ := Report.exists_asked_of_info hverbose her hinfo
    exact ⟨call, reported, hr, her⟩

/-- From `x` to `x'` the same was done as from `y` to `y'`, by swarms that differ in their
verbosity alone, and one script tells what was reported. -/
structure ToldAlike (x y x' y' : Session) : Prop where
  swarm : ∃ verbose, y'.swarm = x'.swarm.withVerbose verbose
  world : ∃ events, y'.world = x'.world.withEvents events
  told : ∃ script, Told x.swarm.roster.crew x.swarm.settings x.world script x'.world ∧
    Told y.swarm.roster.crew y.swarm.settings y.world script y'.world

/-- Besides, the settings and the agents of the swarms are still the same. -/
structure RunToldAlike (x y x' y' : Session) : Prop extends ToldAlike x y x' y' where
  settings : x'.swarm.settings = x.swarm.settings ∧ y'.swarm.settings = y.swarm.settings
  roster : x'.swarm.roster = x.swarm.roster

variable {x y x' y' : Session}

theorem SameButVerbosity.start (h : x.SameButVerbosity y) : RunToldAlike x y x y :=
  ⟨⟨h.swarm, h.world.same, [], .start, .start⟩, ⟨rfl, rfl⟩, rfl⟩

/-- If one script tells what was reported, the two sessions are as alike as before. -/
theorem ToldAlike.sameButVerbosity (h : x.SameButVerbosity y) (h' : ToldAlike x y x' y') :
    x'.SameButVerbosity y' := by
  obtain ⟨verbose, hswarm⟩ := h.swarm
  obtain ⟨script, hleft, hright⟩ := h'.told
  refine ⟨h'.swarm, h'.world, ?_⟩
  have hsettings : y.swarm.settings = x.swarm.settings.withVerbose verbose := by
    rw [hswarm, Swarm.withVerbose]
  have hwarnings := h.world.warnings
  rw [World.warnings, World.warnings] at hwarnings ⊢
  rw [hleft.events, hright.events, List.filter_append, List.filter_append, hwarnings, hsettings,
    filter_script_withVerbose]

/-- Runs are told by the same script. -/
theorem runTraced_toldAlike (h : x.SameButVerbosity y) (h' : RunToldAlike x y x' y')
    (order : Order) :
    ∃ outcome calls x'' y'', RunToldAlike x y x'' y'' ∧
      x'.runTraced order = (outcome, calls, x'') ∧ y'.runTraced order = (outcome, calls, y'') := by
  obtain ⟨verbose, hswarm⟩ := h.swarm
  obtain ⟨verbose', hswarm'⟩ := h'.swarm
  obtain ⟨hleft, hright⟩ := h'.settings
  have hroster : y'.swarm.roster = x'.swarm.roster := by rw [hswarm', Swarm.withVerbose]
  have hverbose : y.swarm.settings = x.swarm.settings.withVerbose verbose := by
    rw [hswarm, Swarm.withVerbose]
  have hcrew : y.swarm.roster.crew = x.swarm.roster.crew := by rw [hswarm, Swarm.withVerbose]
  have hstart : RunState.ToldAlike x.swarm.roster.crew x.swarm.settings
      (x.swarm.settings.withVerbose verbose) x.world y.world x'.start y'.start := by
    obtain ⟨events, hworld⟩ := h'.world
    refine ⟨⟨events, ?_⟩, ?_⟩
    · rw [start, start, hworld, hswarm', Swarm.withVerbose]
    · rw [← hverbose]
      simpa only [hcrew] using h'.told
  have hboth := attempt_toldAlike (crewOf_unheeding x.swarm.roster.agents) order _ _ hstart
  obtain ⟨outcome, st, su, hend, hx, hy⟩ := runTraced_of_together (x := x') (y := y') (by
    rw [hleft, hright, hroster, h'.roster, hverbose]
    exact hboth)
  obtain ⟨⟨events, rfl⟩, script, hscript, hscript'⟩ := hend
  refine ⟨outcome, st.exchanges, _, _, ?_, hx, hy⟩
  refine ⟨⟨⟨verbose', ?_⟩, ⟨events, rfl⟩, script, hscript, ?_⟩, ⟨hleft, hright⟩, h'.roster⟩
  · rw [afterRun, hswarm']
    rfl
  · rw [hcrew, hverbose]
    exact hscript'

/-- A notice of both swarms is one more entry of the script. -/
theorem ToldAlike.announce (h : ToldAlike x y x' y') (notice : Notice)
    (hleft : x'.swarm.settings.eventsOf notice = x.swarm.settings.eventsOf notice)
    (hright : y'.swarm.settings.eventsOf notice = y.swarm.settings.eventsOf notice) :
    ToldAlike x y (x'.announce notice) (y'.announce notice) := by
  obtain ⟨events, hworld⟩ := h.world
  obtain ⟨script, htold, htold'⟩ := h.told
  refine ⟨h.swarm, ⟨events ++ y'.swarm.settings.eventsOf notice, ?_⟩,
    script ++ [.own notice], ?_, ?_⟩
  · rw [Session.announce, Session.announce, hworld]
    rfl
  · rw [Session.announce, hleft]
    exact htold.own notice
  · rw [Session.announce, hright]
    exact htold'.own notice

/-- Runs in all forms are told by the same script. -/
theorem SameButVerbosity.runAlike (h : x.SameButVerbosity y) : RunAlike (RunToldAlike x y) where
  name_eq := by
    intro x' y' h'
    obtain ⟨verbose, hswarm⟩ := h'.swarm
    rw [hswarm]
    rfl
  announce := by
    intro x' y' h' notice
    obtain ⟨hleft, hright⟩ := h'.settings
    refine ⟨h'.toToldAlike.announce notice ?_ ?_, h'.settings, h'.roster⟩
    · rw [hleft]
    · rw [hright]
  tryRun := by
    intro x' y' h' order
    obtain ⟨outcome, calls, x'', y'', hend, hx, hy⟩ := runTraced_toldAlike h h' order
    rw [Session.tryRun, Session.tryRun, hx, hy]
    exact ⟨rfl, hend⟩

/-- A change of the swarm without a report. -/
theorem SameButVerbosity.change (h : x.SameButVerbosity y) {s s' : Swarm}
    (hs : ∃ verbose, s' = s.withVerbose verbose) :
    ToldAlike x y { x with swarm := s } { y with swarm := s' } :=
  ⟨hs, h.world.same, [], .start, .start⟩

/-- An operation gives the same back in both sessions, and one script tells what is
reported. -/
theorem SameButVerbosity.toldAlike (h : x.SameButVerbosity y) {op : Operation}
    (hop : ∀ w, op ≠ .meanwhile w) :
    x.outcome op = y.outcome op ∧ ToldAlike x y (x.perform op) (y.perform op) := by
  by_cases hrun : op.IsRun
  · obtain ⟨houtcome, hend⟩ := h.runAlike.perform h.start hrun
    exact ⟨houtcome, hend.toToldAlike⟩
  obtain ⟨verbose, hswarm⟩ := h.swarm
  cases op with
  | setFlow flow =>
    refine ⟨rfl, (h.change ?_).announce _ rfl rfl⟩
    exact ⟨verbose, by rw [hswarm]; rfl⟩
  | addAgent a =>
    have hannounced := h.start.toToldAlike.announce (.agentAdded a.name) rfl rfl
    refine ⟨rfl, ⟨verbose, ?_⟩, hannounced.world, hannounced.told⟩
    rw [Session.perform, Session.perform, Session.addAgent, Session.addAgent]
    simp only [Session.announce, hswarm]
    rfl
  | removeAgent name =>
    have hroster : y.swarm.roster = x.swarm.roster := by rw [hswarm, Swarm.withVerbose]
    rw [outcome, outcome, perform, perform, Session.removeAgent, Session.removeAgent, hroster]
    cases x.swarm.roster.remove name with
    | error e => exact ⟨rfl, h.start.toToldAlike⟩
    | ok found =>
      refine ⟨rfl, (h.change ?_).announce _ rfl rfl⟩
      exact ⟨verbose, by rw [hswarm]; rfl⟩
  | validateFlow =>
    rw [outcome, outcome, perform, perform, Session.validateFlow, Session.validateFlow]
    simp only [hswarm, Swarm.withVerbose, Settings.withVerbose]
    obtain ⟨checked, readings⟩ :=
      x.swarm.memory.readings.check x.swarm.roster.contains x.swarm.settings.flow
    cases checked with
    | error e => exact ⟨rfl, h.change ⟨verbose, rfl⟩⟩
    | ok flow => exact ⟨rfl, (h.change ⟨verbose, rfl⟩).announce _ rfl (by rw [hswarm]; rfl)⟩
  | track agent text =>
    refine ⟨rfl, h.change ⟨verbose, ?_⟩⟩
    rw [hswarm]
    rfl
  | meanwhile w => exact absurd rfl (hop w)
  | _ => exact absurd trivial hrun

end Session

/-! ### Builds -/

/-- Two builds of swarms that differ in their verbosity alone, and how they end. -/
inductive BuiltAlike : EStateM.Result SwarmError World Swarm →
    EStateM.Result SwarmError World Swarm → Prop
  | built {s t : Swarm} {w v : World} (h : Session.SameButVerbosity ⟨w, s⟩ ⟨v, t⟩) :
    BuiltAlike (.ok s w) (.ok t v)
  | refused {e : SwarmError} {w v : World} (h : w.SameButInfo v) :
    BuiltAlike (.error e w) (.error e v)

namespace Builder

/-- On the way from one world to the other, a swarm that was built reported these notices,
all of level `info`. -/
structure Announces (b : Builder) (w : World) (notices : List Notice) (w' : World) : Prop where
  events : ∀ id, w'.events = w.events ++ notices.flatMap (b.settings id).eventsOf
  info : ∀ notice ∈ notices, notice.level = .info

/-- Unless it is verbose, that comes to nothing. -/
theorem Announces.events_of_quiet {b : Builder} {w w' : World} {notices : List Notice}
    (h : b.Announces w notices w') (hverbose : b.config.verbose = false) :
    w'.events = w.events := by
  have hnone : notices.flatMap (b.settings "").eventsOf = [] :=
    List.flatMap_eq_nil_iff.mpr fun notice hnotice => by
      simp [Settings.eventsOf, h.info notice hnotice, settings, hverbose]
  rw [h.events "", hnone, List.append_nil]

theorem Announces.warnings {b : Builder} {w w' : World} {notices : List Notice}
    (h : b.Announces w notices w') : w'.warnings = w.warnings := by
  have hnone : (notices.flatMap (b.settings "").eventsOf).filter (·.level ≠ .info) = [] := by
    refine List.filter_eq_nil_iff.mpr fun e he => ?_
    obtain ⟨notice, hnotice, henotice⟩ := List.mem_flatMap.mp he
    simp [level_of_mem_eventsOf henotice, h.info notice hnotice]
  rw [World.warnings, World.warnings, h.events "", List.filter_append, hnone, List.append_nil]

/-- One more notice is reported. -/
theorem Announces.announce {b : Builder} {w w' : World} {notices : List Notice}
    (h : b.Announces w notices w') (id : String) (notice : Notice) (hinfo : notice.level = .info) :
    b.Announces w (notices ++ [notice]) (w'.emitAll ((b.settings id).eventsOf notice)) where
  events id' := by
    rw [World.emitAll, h.events id', List.flatMap_append, List.append_assoc]
    simp [Settings.eventsOf, settings]
  info := by
    intro n hn
    obtain hn | hn := List.mem_append.mp hn
    · exact h.info n hn
    · rw [List.mem_singleton.mp hn, hinfo]

/-- The identifier is drawn in the same way with either verbosity, and nothing is reported. -/
theorem drawId_withEvents (b : Builder) (verbose : Bool) (w : World) (events : List Event) :
    ∃ id w', b.drawId w = .ok id w' ∧
      (b.verbose verbose).drawId (w.withEvents events) = .ok id (w'.withEvents events) ∧
      w'.events = w.events := by
  have hsame : (b.verbose verbose).drawId (w.withEvents events) =
    b.drawId (w.withEvents events) := rfl
  rw [hsame, drawId, drawId]
  cases b.config.id with
  | some id => exact ⟨id, w, rfl, rfl, rfl⟩
  | none => exact ⟨_, _, rfl, rfl, rfl⟩

/-- A swarm is built or not built in the same way with either verbosity, and the same
notices are reported. -/
theorem build_builtAlike (b : Builder) (verbose : Bool) {w v : World} (h : w.SameButInfo v) :
    BuiltAlike (b.build w) ((b.verbose verbose).build v) ∧
      ∃ notices, b.Announces w notices (stateOf (b.build w)) ∧
        (b.verbose verbose).Announces v notices (stateOf ((b.verbose verbose).build v)) := by
  obtain ⟨events, rfl⟩ := h.same
  obtain ⟨id, w', hid, hid', hevents⟩ := b.drawId_withEvents verbose w events
  have hdrawn : b.Announces w [] w' := ⟨fun _ => by simp [hevents], by simp⟩
  have hdrawn' : (b.verbose verbose).Announces (w.withEvents events) [] (w'.withEvents events) :=
    ⟨fun _ => by simp [World.withEvents], by simp⟩
  have hchecking := hdrawn.announce id .checking rfl
  have hchecking' := hdrawn'.announce id .checking rfl
  -- Both worlds are as alike as they were, whichever notices of level `info` were added.
  have hworlds {notices : List Notice} {left right : World} (hleft : b.Announces w notices left)
      (hright : (b.verbose verbose).Announces (w.withEvents events) notices right)
      (hsame : ∃ events, right = left.withEvents events) : left.SameButInfo right :=
    ⟨hsame, by rw [hleft.warnings, hright.warnings, h.warnings]⟩
  have hrefused := hworlds hchecking hchecking' ⟨_, rfl⟩
  rw [build_apply hid, build_apply hid']
  have hroster : Roster.ofList (b.verbose verbose).agents = Roster.ofList b.agents := rfl
  have hflow : ((b.verbose verbose).settings id).flow = (b.settings id).flow := rfl
  simp only [hroster, hflow]
  by_cases hempty : (Roster.ofList b.agents).isEmpty
  · rw [if_pos hempty, if_pos hempty]
    exact ⟨.refused hrefused, _, hchecking, hchecking'⟩
  by_cases hblank : Text.allBlank (b.settings id).flow.toList
  · rw [if_neg hempty, if_neg hempty, if_pos hblank, if_pos hblank]
    exact ⟨.refused hrefused, _, hchecking, hchecking'⟩
  rw [if_neg hempty, if_neg hempty, if_neg hblank, if_neg hblank]
  obtain ⟨checked, readings⟩ :=
    Flow.Readings.empty.check (Roster.ofList b.agents).contains (b.settings id).flow
  cases checked with
  | error e => exact ⟨.refused hrefused, _, hchecking, hchecking'⟩
  | ok flow =>
    let names := (Roster.ofList b.agents).names
    have hready := (hchecking.announce id .flowValid rfl).announce id (.initialized names) rfl
    have hready' := (hchecking'.announce id .flowValid rfl).announce id (.initialized names) rfl
    exact ⟨.built ⟨⟨verbose, rfl⟩, hworlds hready hready' ⟨_, rfl⟩⟩, _, hready, hready'⟩

end Builder

namespace Session

/-! ### Whatever is done -/

/-- Operations give the same back in both sessions, and leave them as alike as they were. -/
theorem SameButVerbosity.performAll {x y : Session} (h : x.SameButVerbosity y)
    (ops : List Operation) :
    x.outcomes ops = y.outcomes ops ∧ (x.performAll ops).SameButVerbosity (y.performAll ops) := by
  induction ops generalizing x y with
  | nil => exact ⟨rfl, h⟩
  | cons op ops ih =>
    have hstep : x.outcome op = y.outcome op ∧ (x.perform op).SameButVerbosity (y.perform op) := by
      by_cases hop : ∃ w, op = .meanwhile w
      · obtain ⟨w, rfl⟩ := hop
        exact ⟨rfl, h.swarm, .refl w⟩
      · obtain ⟨houtcome, htold⟩ := h.toldAlike fun w hw => hop ⟨w, hw⟩
        exact ⟨houtcome, htold.sameButVerbosity h⟩
    obtain ⟨houtcomes, hend⟩ := ih hstep.2
    refine ⟨?_, hend⟩
    rw [outcomes, outcomes, hstep.1, houtcomes]

/-- Let two swarms differ in their verbosity alone. Both are built or neither is, with the
same error, and the same notices of level `info` are reported on the way, which come to
nothing unless the swarm is verbose. Whatever is done with them gives the same back, with
the same exchanges, and leaves the same behind, but for events of level `info`: one script
tells what both report, in which a swarm that is not verbose has nothing of that level. And
a swarm that serves as an agent follows one script with either verbosity of its own. -/
theorem verbosity_only_adds_info :
    (∀ (b : Builder) (verbose : Bool) {w v : World}, w.SameButInfo v →
      let built := b.build w
      let built' := (b.verbose verbose).build v
      BuiltAlike built built' ∧
        (∃ notices, b.Announces w notices (stateOf built) ∧
          (b.verbose verbose).Announces v notices (stateOf built')) ∧
        (b.config.verbose = false → (stateOf built).events = w.events) ∧
        (verbose = false → (stateOf built').events = v.events)) ∧
    (∀ {x y : Session}, x.SameButVerbosity y → ∀ ops : List Operation,
      let x' := x.performAll ops
      let y' := y.performAll ops
      x.outcomes ops = y.outcomes ops ∧ x'.SameButVerbosity y' ∧
        (∀ order, (x'.runTraced order).2.1 = (y'.runTraced order).2.1) ∧
        ∀ op, (∀ w, op ≠ .meanwhile w) →
          ∃ script, x'.Reports script (x'.perform op) ∧ y'.Reports script (y'.perform op)) ∧
    ∀ (number : Nat) (s : Settings) (agents : List Agent) (verbose : Bool) (task : String)
      (image : Option String) (w : World) (before : List Event), ∃ script, Together
        (fun w' v' => (∃ events, v' = w'.withEvents events) ∧
          ToldWithin (crewOf agents) s number w script w' ∧
          ToldWithin (crewOf agents) (s.withVerbose verbose) number (w.withEvents before) script v')
        Eq ((Agent.swarm number s agents).respond task image w)
        ((Agent.swarm number (s.withVerbose verbose) agents).respond task image
          (w.withEvents before)) := by
  refine ⟨fun b verbose w v h => ?_, fun h ops => ?_,
    fun number s agents verbose task image w before => ?_⟩
  · obtain ⟨hbuilt, notices, hleft, hright⟩ := b.build_builtAlike verbose h
    exact ⟨hbuilt, ⟨notices, hleft, hright⟩, hleft.events_of_quiet, hright.events_of_quiet⟩
  · intro x' y'
    obtain ⟨houtcomes, hend⟩ := h.performAll ops
    refine ⟨houtcomes, hend, fun order => ?_, fun op hop => ?_⟩
    · obtain ⟨outcome, calls, x'', y'', -, hx, hy⟩ := runTraced_toldAlike hend hend.start order
      rw [hx, hy]
    · obtain ⟨-, htold⟩ := hend.toldAlike hop
      obtain ⟨script, hleft, hright⟩ := htold.told
      exact ⟨script, .of_told hleft, .of_told hright⟩
  · obtain ⟨script, hboth⟩ :=
      respondOf_told (crewOf_unheeding agents) number s verbose task image w before
    rw [Agent.respond, Agent.respond]
    refine ⟨script, hboth.imp fun w' v' h => ?_⟩
    exact ⟨⟨_, h.1⟩, h.2⟩

/-! ### A verbose swarm within a swarm that is not -/

namespace Sample

/-- A swarm that has yet to be built. The second of its agents is a verbose swarm, with a
member that fails when it is called a third time. -/
def reporting : Builder where
  config := { name := "S", flow := "A -> N, H", verbose := true }
  agents := [agent 1 "A" 9,
    .swarm 2 { (session "B -> C" 1 []).swarm.settings with name := "N", verbose := true }
      [agent 3 "B" 2, agent 4 "C" 9]]

/-- The session of a swarm of these agents with either verbosity. -/
def reportingSession (verbose : Bool) : Session :=
  let x := session "A -> N, H" 1 reporting.agents
  { x with swarm := x.swarm.withVerbose verbose }

/-- Three runs, the last of which breaks off, and a fourth whose flow is not valid. -/
def reportedRuns : List Operation :=
  [.addAgent (agent 5 "D" 9), .setFlow "N -> A, D", .runBatch ["t", "u"], .run "v",
    .removeAgent "N", .validateFlow, .run "w"]

/-- The events of level `info`. -/
def infosOf (x : Session) : List Event := x.world.events.filter (·.level = .info)

end Sample

/-- All events of level `info` that come with the swarm that is not verbose are those of the
verbose swarm within it. -/
theorem verbosity_only_adds_info_nested :
    let x := Sample.reportingSession true
    let y := Sample.reportingSession false
    let x' := x.performAll Sample.reportedRuns
    let y' := y.performAll Sample.reportedRuns
    x.world.SameButInfo y.world ∧ x.SameButVerbosity y ∧
      BuiltAlike (Sample.reporting.build x.world)
        ((Sample.reporting.verbose false).build y.world) ∧
      x.outcomes Sample.reportedRuns = y.outcomes Sample.reportedRuns ∧ x'.SameButVerbosity y' ∧
      y'.world.warnings.length = 2 ∧ (Sample.infosOf x').length = 29 ∧
      (Sample.infosOf y').length = 12 := by
  intro x y x' y'
  have hworld : x.world.SameButInfo y.world := .refl _
  have hsame : x.SameButVerbosity y := ⟨⟨false, rfl⟩, hworld⟩
  obtain ⟨hbuilt, -⟩ := verbosity_only_adds_info.1 Sample.reporting false hworld
  obtain ⟨houtcomes, hend, -⟩ := verbosity_only_adds_info.2.1 hsame Sample.reportedRuns
  exact ⟨hworld, hsame, hbuilt, houtcomes, hend, by decide +kernel, by decide +kernel,
    by decide +kernel⟩

end Session

end Relay
