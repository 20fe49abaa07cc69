import Relay.Proofs.Flow.Leads
import Relay.Proofs.Run.Steady
import Relay.Proofs.Run.Trace

/-!
# Swarms in place of their stages

A swarm that serves as an agent and stands alone in a stage of a flow can be
replaced by the stages of its own flow: the run of the flat swarm deals with the
same agents and humans, in the same order and on the same tasks, and comes to the
same text. Only the two logs of the outer swarm tell the difference, and the memory
of the inner swarm.

The inner swarm hands on the text of its run, whatever it is, so an answer without
a text inside it is never seen outside. If its run fails, the failure is wrapped
up in its name; the flat swarm fails there as well, with the failure as it was.

## Main definitions

* `Inlines` — the flat session has the stages of the inner swarm in its place.

## Main statements

* `Inlines.check_flat` — the flow of the flat session is valid.
* `Inlines.stage_alike` — the stage of the inner swarm goes like its stages.
* `Session.tryRun_inlined` — the runs of the two sessions.
-/

namespace Relay

/-- In the flow of the outer session `x` the inner swarm stands alone in a stage.
The flat session `y` has the stages of its flow there. Both find the other agents
of the outer flow and have the same loops and humans, and `y` finds the agents of
the inner flow as the inner swarm does. -/
structure Inlines (x y : Session) (number : Nat) (inner : Settings) (agents : List Agent)
    (before after : List Stage) (flow : Flow) : Prop where
  nested : x.swarm.roster.find? inner.name = some (.swarm number inner agents)
  outerFlow : Flow.check x.swarm.roster.contains x.swarm.settings.flow =
    .ok ⟨before ++ ⟨.agent inner.name, []⟩ :: after⟩
  innerFlow : Flow.check (crewOf agents).has inner.flow = .ok flow
  innerLoops : inner.loops = 1
  noHuman : .human ∉ flow.members
  apart : ∀ name ∈ flow.agentNames,
    name ∉ Flow.agentNames ⟨before ++ ⟨.agent inner.name, []⟩ :: after⟩
  flatFlow : Flow.parse y.swarm.settings.flow = .ok ⟨before ++ flow.stages ++ after⟩
  outerAgents : ∀ name ∈ Flow.agentNames ⟨before ++ ⟨.agent inner.name, []⟩ :: after⟩,
    name ≠ inner.name → y.swarm.roster.find? name = x.swarm.roster.find? name
  innerAgents : ∀ name ∈ flow.agentNames,
    y.swarm.roster.find? name = agents.find? (·.name == name)
  loops : y.swarm.settings.loops = x.swarm.settings.loops
  human : y.swarm.settings.human = x.swarm.settings.human
  humanInTheLoop : y.swarm.settings.humanInTheLoop = x.swarm.settings.humanInTheLoop
  world : y.world = x.world

/-! ### Members and agents -/

theorem members_plan (flow : Flow) : (flow.plan none).flatMap Step.members = flow.members := by
  rw [Flow.plan_none, List.flatMap_map]
  rfl

/-! ### The flat flow -/

/-- The worlds agree, but not about the journal under the number. What the two runs
themselves note and exchange may differ. -/
def Likeness.outside (number : Nat) : Likeness where
  kept := (· ≠ number)
  journal _ _ := True
  exchanges _ _ := True
  journal_record _ _ _ _ := trivial
  exchanges_append _ _ := trivial

namespace Inlines

variable {x y : Session} {number : Nat} {inner : Settings} {agents : List Agent}
  {before after : List Stage} {flow : Flow}

/-- The agents of the stages that stay are agents of the outer flow. -/
theorem mem_outer {name alone : String} (hname : name ∈ Flow.agentNames ⟨before ++ after⟩) :
    name ∈ Flow.agentNames ⟨before ++ ⟨.agent alone, []⟩ :: after⟩ := by
  rw [Flow.agentNames_append, List.mem_append] at hname ⊢
  exact hname.imp_right (List.mem_cons_of_mem _)

/-- An agent of the flat flow is one of the inner flow or of the stages that stay. -/
theorem mem_flat {name : String} : name ∈ Flow.agentNames ⟨before ++ flow.stages ++ after⟩ ↔
    name ∈ flow.agentNames ∨ name ∈ Flow.agentNames ⟨before ++ after⟩ := by
  rw [Flow.agentNames_append, Flow.agentNames_append, Flow.agentNames_append]
  simp only [List.mem_append]
  tauto

variable (h : Inlines x y number inner agents before after flow)

include h

/-- The inner swarm occurs nowhere else in the outer flow. -/
theorem ne_inner {name : String} (hname : name ∈ Flow.agentNames ⟨before ++ after⟩) :
    name ≠ inner.name := by
  obtain ⟨-, -, hnodup⟩ := Flow.check_eq_ok_iff.mp h.outerFlow
  have hnames := Flow.nodup_agentNames hnodup
  rw [Flow.agentNames_append, Flow.agentNames_alone] at hnames
  rw [Flow.agentNames_append] at hname
  have hnotMem := List.nodup_middle.mp hnames |>.notMem
  rintro rfl
  exact hnotMem hname

/-- Both sessions find the same agents for the stages of the outer flow that stay. -/
theorem lookup_outer {name : String} (hname : name ∈ Flow.agentNames ⟨before ++ after⟩) :
    Table.lookup name x.swarm.roster.crew = Table.lookup name y.swarm.roster.crew := by
  rw [Roster.lookup_crew, Roster.lookup_crew]
  rw [h.outerAgents name (mem_outer hname) (h.ne_inner hname)]

/-- The flat session finds the agents of the inner flow as the inner swarm does. -/
theorem lookup_inner {name : String} (hname : name ∈ flow.agentNames) :
    Table.lookup name (crewOf agents) = Table.lookup name y.swarm.roster.crew := by
  rw [lookup_crewOf_eq_find?, Roster.lookup_crew, h.innerAgents name hname]

/-- No member of the inner flow occurs in the outer one. -/
theorem disjoint_members : flow.members.Disjoint (Flow.members ⟨before ++ after⟩) := by
  intro m hinner houter
  cases m with
  | human => exact h.noHuman hinner
  | agent name =>
    have hname : name ∈ Flow.agentNames ⟨before ++ after⟩ := Flow.mem_agentNames_iff.mpr houter
    exact h.apart name (Flow.mem_agentNames_iff.mpr hinner) (mem_outer hname)

/-- The flow of the flat session is valid. -/
theorem check_flat : Flow.check y.swarm.roster.contains y.swarm.settings.flow =
    .ok ⟨before ++ flow.stages ++ after⟩ := by
  obtain ⟨-, houter, hnodup⟩ := Flow.check_eq_ok_iff.mp h.outerFlow
  obtain ⟨-, hinner, hnodup'⟩ := Flow.check_eq_ok_iff.mp h.innerFlow
  rw [← Roster.has_crew] at houter ⊢
  refine Flow.check_eq_ok_iff.mpr ⟨h.flatFlow, fun name hname => ?_, ?_⟩
  · rcases mem_flat.mp hname with hname | hname
    · have hhas := hinner name hname
      rwa [Crew.has, h.lookup_inner hname] at hhas
    · have hhas := houter name (mem_outer hname)
      rwa [Crew.has, h.lookup_outer hname] at hhas
  · rw [Flow.members_append, Flow.members_alone] at hnodup
    have hrest : (Flow.members ⟨before ++ after⟩).Nodup := by
      rw [Flow.members_append]
      exact (List.nodup_middle.mp hnodup).of_cons
    have hall : (flow.members ++ Flow.members ⟨before ++ after⟩).Nodup :=
      List.nodup_append'.mpr ⟨hnodup', hrest, h.disjoint_members⟩
    rw [Flow.members_append] at hall
    rw [Flow.members_append, Flow.members_append, List.append_assoc]
    exact (List.perm_append_comm_assoc ..).nodup hall

/-! ### The stages side by side -/

/-- The stages that stay go alike. -/
theorem stay_alike {stages : List Stage} {image : Option String}
    (hstay : ∀ name ∈ Flow.agentNames ⟨stages⟩, name ∈ Flow.agentNames ⟨before ++ after⟩)
    (task : String) :
    Alike (Likeness.outside number).States (fun _ _ => True)
      (runSteps x.swarm.settings x.swarm.roster.crew image (Flow.plan ⟨stages⟩ none) task)
      (runSteps y.swarm.settings y.swarm.roster.crew image (Flow.plan ⟨stages⟩ none) task) := by
  refine .mono (fun _ _ _ => trivial) (runSteps_congr (report_alike _ · _)
    (fun _ => askHuman_alike _ h.human.symm h.humanInTheLoop.symm) (fun name hname task => ?_) task)
  rw [agentNames_plan] at hname
  exact callAgent_alike _ (h.lookup_outer (hstay name hname)) (crewOf_steady _ name) task

/-- The inner swarm answers with the text that its stages come to, and fails if
they fail. -/
theorem respond_alike (task : String) (image : Option String) {w : World} {su : RunState}
    (hworld : w.Agree (· ≠ number) su.world) :
    match runSteps y.swarm.settings y.swarm.roster.crew image (flow.plan none) task su with
    | .ok text su' => ∃ v,
        respondOf number inner (crewOf agents) task image w = .ok (.text text) v ∧
          v.Agree (· ≠ number) su'.world
    | .error _ su' => ∃ e v,
        respondOf number inner (crewOf agents) task image w = .error e v ∧
          v.Agree (· ≠ number) su'.world := by
  obtain ⟨st, hst, hrun⟩ := attempt_of_valid_once inner (crewOf agents) ⟨task, image, []⟩
    ⟨w, w.memoryOf number, []⟩ h.innerFlow h.innerLoops
  have hstart : (Likeness.outside number).States ⟨w, w.memoryOf number, []⟩ su :=
    ⟨hworld, trivial, trivial⟩
  have hsteps : Together (Likeness.outside number).States Eq
      (runSteps inner (crewOf agents) image (flow.plan none) task st)
      (runSteps y.swarm.settings y.swarm.roster.crew image (flow.plan none) task su) := by
    refine runSteps_congr (fun _ => report_alike _ _ _) (fun hhuman => ?_) (fun name hname => ?_)
      task st su (hstart.quiet hst (.refl su))
    · rw [members_plan] at hhuman
      exact absurd hhuman h.noHuman
    · rw [agentNames_plan] at hname
      exact callAgent_alike _ (h.lookup_inner hname) (crewOf_steady _ name)
  have hboth := hsteps.quiet hrun (.quiet_refl _)
  rw [respondOf]
  generalize attempt inner (crewOf agents) ⟨task, image, []⟩ ⟨w, w.memoryOf number, []⟩ = r
    at hboth ⊢
  generalize runSteps y.swarm.settings y.swarm.roster.crew image (flow.plan none) task su = r'
    at hboth ⊢
  cases hboth with
  | ok hend => exact ⟨_, rfl, hend.world.setMemory_left (· rfl) _⟩
  | error _ hend => exact ⟨_, _, rfl, hend.world.setMemory_left (· rfl) _⟩

/-- The stage of the inner swarm goes like its stages. -/
theorem stage_alike (task : String) (image : Option String) :
    Alike (Likeness.outside number).States (fun _ _ => True)
      (runSteps x.swarm.settings x.swarm.roster.crew image [.stage ⟨.agent inner.name, []⟩] task)
      (runSteps y.swarm.settings y.swarm.roster.crew image (flow.plan none) task) := by
  intro st su hstates
  have hfind : Table.lookup inner.name x.swarm.roster.crew =
      some (respondOf number inner (crewOf agents)) := by
    rw [Roster.lookup_crew, h.nested, Option.map_some, Agent.respond]
  let w := st.world.emitAll (x.swarm.settings.eventsOf (.sequential ⟨.agent inner.name, []⟩))
  have hworld : w.Agree (· ≠ number) su.world :=
    hstates.world.quiet (World.quiet_emitAll ..) (.refl su.world)
  have hcalled := h.respond_alike task image hworld
  rw [runSteps_alone]
  generalize runSteps y.swarm.settings y.swarm.roster.crew image (flow.plan none) task su = r
    at hcalled ⊢
  cases r with
  | ok text su' =>
    obtain ⟨v, hanswer, hworld⟩ := hcalled
    rw [bind_of_ok (callAgent_of_ok hfind hanswer)]
    exact .ok ⟨hworld.quiet (World.quiet_emitAll ..) (.refl su'.world), trivial, trivial⟩
  | error e su' =>
    obtain ⟨e', v, hfailure, hworld⟩ := hcalled
    rw [bind_of_error (callAgent_of_error hfind hfailure)]
    exact .error trivial ⟨hworld, trivial, trivial⟩

/-- Loop after loop, the outer flow goes like the flat one. -/
theorem loops_alike (task : String) (image : Option String) (loops : Nat) :
    Alike (Likeness.outside number).States (fun _ _ => True)
      (runLoops x.swarm.settings x.swarm.roster.crew image
        (Flow.plan ⟨before ++ ⟨.agent inner.name, []⟩ :: after⟩ none) 0 task loops)
      (runLoops y.swarm.settings y.swarm.roster.crew image
        (Flow.plan ⟨before ++ flow.stages ++ after⟩ none) 0 task loops) := by
  have houter : Flow.plan ⟨before ++ ⟨.agent inner.name, []⟩ :: after⟩ none =
      Flow.plan ⟨before⟩ none ++ ([.stage ⟨.agent inner.name, []⟩] ++ Flow.plan ⟨after⟩ none) :=
    List.map_append
  have hflat : Flow.plan ⟨before ++ flow.stages ++ after⟩ none =
      Flow.plan ⟨before⟩ none ++ (flow.plan none ++ Flow.plan ⟨after⟩ none) := by
    simp only [Flow.plan_none, List.map_append, List.append_assoc]
  refine runLoops_congr (fun _ => .mono (fun _ _ _ => trivial) (report_alike _ _ _)) h.loops.symm
    (fun task => ?_) 0 task loops
  rw [houter, hflat, runSteps_append, runSteps_append]
  refine .bind (h.stay_alike (fun name hname => ?_) task) fun task => ?_
  · rw [Flow.agentNames_append]
    exact List.mem_append_left _ hname
  · rw [runSteps_append, runSteps_append]
    refine .bind (h.stage_alike task image) fun task => h.stay_alike (fun name hname => ?_) task
    rw [Flow.agentNames_append]
    exact List.mem_append_right _ hname

end Inlines

/-! ### The runs of the two sessions -/

/-- The flat flow is valid, and the two runs have the same dealings with agents and
humans. One succeeds exactly when the other does, and then with the same text. -/
theorem Session.tryRun_inlined {x y : Session} {number : Nat} {inner : Settings}
    {agents : List Agent} {before after : List Stage} {flow : Flow}
    (h : Inlines x y number inner agents before after flow) (task : String)
    (image : Option String) :
    Flow.check y.swarm.roster.contains y.swarm.settings.flow =
        .ok ⟨before ++ flow.stages ++ after⟩ ∧
      (x.tryRun ⟨task, image, []⟩).2.world.Agree (· ≠ number)
        (y.tryRun ⟨task, image, []⟩).2.world ∧
      ∀ text, (x.tryRun ⟨task, image, []⟩).1 = .ok text ↔
        (y.tryRun ⟨task, image, []⟩).1 = .ok text := by
  have houter := h.outerFlow
  have hflat := h.check_flat
  refine ⟨hflat, ?_⟩
  rw [← Roster.has_crew] at houter hflat
  obtain ⟨st, hst, hrun⟩ :=
    attempt_of_valid x.swarm.settings x.swarm.roster.crew ⟨task, image, []⟩ x.start houter
  obtain ⟨su, hsu, hrun'⟩ :=
    attempt_of_valid y.swarm.settings y.swarm.roster.crew ⟨task, image, []⟩ y.start hflat
  have hworld : x.world.Agree (· ≠ number) y.world := h.world ▸ .refl _ y.world
  have hstart : (Likeness.outside number).States x.start y.start := ⟨hworld, trivial, trivial⟩
  have hloops := h.loops_alike task image x.swarm.settings.loops st su (hstart.quiet hst hsu)
  rw [h.loops] at hrun'
  have hboth := hloops.quiet hrun hrun'
  rw [tryRun, tryRun, runTraced_eq, runTraced_eq]
  generalize attempt x.swarm.settings x.swarm.roster.crew ⟨task, image, []⟩ x.start = r at hboth ⊢
  generalize attempt y.swarm.settings y.swarm.roster.crew ⟨task, image, []⟩ y.start = r' at hboth ⊢
  cases hboth with
  | ok hend => exact ⟨hend.world, fun text => Iff.rfl⟩
  | error _ hend => exact ⟨hend.world, fun text => by simp [resultOf]⟩

/-! ### An inner swarm in the middle of a flow -/

namespace Session

namespace Sample

/-- The agents of an inner swarm with the flow `B, C -> D`. -/
def innerAgents : List Agent := [agent 2 "B" 5, agent 3 "C" 5, agent 4 "D" 1]

/-- The settings of the inner swarm. -/
def inner : Settings := (session "B, C -> D" 1 []).swarm.settings

/-- A swarm with the inner swarm in the middle of its flow. -/
def outer : Session :=
  session "A -> S -> H, E" 2 [agent 1 "A" 5, .swarm 9 inner innerAgents, agent 5 "E" 5]

/-- The same swarm with the stages of the inner one in its place. -/
def flat : Session :=
  session "A -> B, C -> D -> H, E" 2 ([agent 1 "A" 5, agent 5 "E" 5] ++ innerAgents)

theorem inlines : Inlines outer flat 9 inner innerAgents [⟨.agent "A", []⟩]
    [⟨.human, [.agent "E"]⟩] ⟨[⟨.agent "B", [.agent "C"]⟩, ⟨.agent "D", []⟩]⟩ where
  nested := rfl
  outerFlow := by decide +kernel
  innerFlow := by decide +kernel
  innerLoops := rfl
  noHuman := by decide
  apart := by decide +kernel
  flatFlow := by decide +kernel
  outerAgents name hname hne := by
    have hnames : name = "A" ∨ name = "S" ∨ "E" = name := by
      simpa [Flow.agentNames, Flow.members, Stage.members, Member.agent?, inner, session]
        using hname
    rcases hnames with rfl | rfl | rfl
    · rfl
    · exact absurd rfl hne
    · rfl
  innerAgents name hname := by
    have hnames : name = "B" ∨ name = "C" ∨ name = "D" := by
      simpa [Flow.agentNames, Flow.members, Stage.members, Member.agent?] using hname
    rcases hnames with rfl | rfl | rfl <;> rfl
  loops := rfl
  human := rfl
  humanInTheLoop := rfl
  world := rfl

end Sample

/-- In their second loop both runs fail, at the last agent of the inner swarm. -/
theorem tryRun_inlined_second_loop :
    Inlines Sample.outer Sample.flat 9 Sample.inner Sample.innerAgents [⟨.agent "A", []⟩]
        [⟨.human, [.agent "E"]⟩] ⟨[⟨.agent "B", [.agent "C"]⟩, ⟨.agent "D", []⟩]⟩ ∧
      (Sample.outer.tryRun ⟨"t", some "i", []⟩).2.world.Agree (· ≠ 9)
        (Sample.flat.tryRun ⟨"t", some "i", []⟩).2.world ∧
      (Sample.flat.tryRun ⟨"t", some "i", []⟩).2.world.requests.map Request.task =
        ["t", "tA", "tA", "tAB; tAC", "hi", "hiE", "hiEA", "hiEA", "hiEAB; hiEAC"] ∧
      (Sample.flat.tryRun ⟨"t", some "i", []⟩).1 = .error (.agent ⟨"D", "enough"⟩) ∧
      (Sample.outer.tryRun ⟨"t", some "i", []⟩).1 =
        .error (.agent ⟨"S", (AgentError.mk "D" "enough").message⟩) := by
  obtain ⟨-, hagree, -⟩ := tryRun_inlined Sample.inlines "t" (some "i")
  exact ⟨Sample.inlines, hagree, by decide +kernel, by decide +kernel, by decide +kernel⟩

end Session

end Relay
