import Relay.Proofs.Flow.Leads
import Relay.Proofs.Run.Barrier
import Relay.Proofs.Run.Composition
import Relay.Proofs.Run.Wording

/-!
# A human among members side by side

A human who stands among agents side by side is asked before them, and the agents are given
the answer. So a stage of the human alone, right before the stage of the agents, does the
same: the answer goes on to the next stage, and all agents there are given it. Only the
prompt at the terminal is worded otherwise. This holds in every loop, whoever the human is
and whatever fails. It also follows that it makes no difference where among the agents the
human stands.

## Main definitions

* `Stage.HumanWithin` — the human stands among the other members of a stage.
* `SameRunUnworded` — runs that are the same but for the wording of prompts.

## Main statements

* `Flow.WellFormed.of_members`, `Flow.check_of_perm` — flows of the same members.
* `Stage.HumanWithin.hoisted_alike` — the one stage and the two.
* `Session.runTraced_hoisted` — flows with the human put in front of the stage or elsewhere
  in it.
-/

namespace Relay

/-! ### Stages and their members -/

namespace Stage

theorem isParallel_iff {stage : Stage} : stage.isParallel ↔ 2 ≤ stage.members.length := by
  obtain ⟨lead, others⟩ := stage
  cases others <;> simp [isParallel, members]

theorem exists_of_ne_nil {ms : List Member} (h : ms ≠ []) : ∃ stage : Stage, stage.members = ms := by
  obtain ⟨m, rest, rfl⟩ := List.exists_cons_of_ne_nil h
  exact ⟨⟨m, rest⟩, rfl⟩

/-- The human stands once in the stage, among agents, of which there are two or more and
which make up a stage without the human. -/
structure HumanWithin (stage : Stage) (front back : List Member) (rest : Stage) : Prop where
  members : stage.members = front ++ .human :: back
  rest : rest.members = front ++ back
  once : Member.human ∉ front ++ back
  two : 2 ≤ (front ++ back).length

namespace HumanWithin

variable {stage stage' rest : Stage} {front back front' back' : List Member}

theorem rest_isParallel (h : stage.HumanWithin front back rest) : rest.isParallel := by
  rw [isParallel_iff, h.rest]
  exact h.two

theorem isParallel (h : stage.HumanWithin front back rest) : stage.isParallel := by
  have htwo := h.two
  rw [List.length_append] at htwo
  rw [isParallel_iff, h.members, List.length_append, List.length_cons]
  omega

theorem count_human (h : stage.HumanWithin front back rest) :
    stage.members.count .human = 1 := by
  rw [h.members, List.perm_middle.count_eq, List.count_cons_self,
    List.count_eq_zero_of_not_mem h.once]

theorem rest_count_human (h : stage.HumanWithin front back rest) :
    rest.members.count .human = 0 := by
  rw [h.rest, List.count_eq_zero_of_not_mem h.once]

theorem agentNames_eq (h : stage.HumanWithin front back rest) :
    stage.agentNames = rest.agentNames := by
  rw [agentNames, agentNames, h.members, h.rest, List.filterMap_append, List.filterMap_append,
    List.filterMap_cons_none rfl]

end HumanWithin

end Stage

/-! ### Flows of the same members -/

namespace Flow

theorem members_cons (stage : Stage) (after : List Stage) :
    members ⟨stage :: after⟩ = stage.members ++ members ⟨after⟩ := rfl

/-- A flow of no fewer stages with the same agents has a written form as well. -/
theorem WellFormed.of_members {f g : Flow} (h : f.WellFormed)
    (hlength : f.stages.length ≤ g.stages.length) (hmembers : g.members.Perm f.members) :
    g.WellFormed where
  two_stages := h.two_stages.trans hlength
  names m hm := h.names m (hmembers.mem_iff.mp hm)

/-- A flow of the same members as a valid one is valid. -/
theorem check_of_perm {registered : String → Bool} {text written : String} {f g : Flow}
    (h : check registered text = .ok f) (hwritten : parse written = .ok g)
    (hmembers : g.members.Perm f.members) : check registered written = .ok g := by
  obtain ⟨-, hregistered, hnodup⟩ := check_eq_ok_iff.mp h
  refine check_eq_ok_iff.mpr ⟨hwritten, fun name hname => hregistered name ?_, ?_⟩
  · rw [mem_agentNames_iff] at hname ⊢
    exact hmembers.mem_iff.mp hname
  · exact hmembers.nodup_iff.mpr hnodup

end Flow

/-! ### One stage and two -/

section Stages

variable {s t : Settings} {crew : Crew} {image : Option String} {stage stage' rest : Stage}
  {front back front' back' : List Member}

theorem briefing_zero (s : Settings) (task : String) : briefing s 0 task = pure task := rfl

theorem briefing_one (s : Settings) (task : String) :
    briefing s 1 task = askHuman s .response task := bind_pure _

theorem runSteps_singleton (s : Settings) (crew : Crew) (image : Option String) (stage : Stage)
    (task : String) : runSteps s crew image [.stage stage] task = runStage s crew image stage task := by
  rw [runSteps, List.foldlM_cons]
  exact bind_pure _

/-- A stage of the human alone. -/
theorem runStage_human (s : Settings) (crew : Crew) (image : Option String) (task : String) :
    runStage s crew image ⟨.human, []⟩ task =
      report s (.sequential ⟨.human, []⟩) >>= fun _ => askHuman s .nextTask task := rfl

namespace Stage.HumanWithin

/-- The human is asked, and then the agents are given the answer. -/
theorem runStage_eq (h : stage.HumanWithin front back rest) (task : String) :
    runStage s crew image stage task = (do
      report s (.parallel stage)
      let task ← askHuman s .response task
      let texts ← rest.agentNames.mapM (callAgent s crew image task)
      return joinTexts texts) := by
  rw [runStage_parallel h.isParallel, h.count_human, h.agentNames_eq]
  simp only [briefing_one]

/-- Without the human, the agents are given the task. -/
theorem runStage_rest_eq (h : stage.HumanWithin front back rest) (task : String) :
    runStage s crew image rest task = (do
      report s (.parallel rest)
      let texts ← rest.agentNames.mapM (callAgent s crew image task)
      return joinTexts texts) := by
  rw [runStage_parallel h.rest_isParallel, h.rest_count_human]
  simp only [briefing_zero, pure_bind]

variable (l : Likeness)

/-- The stage goes like a stage of the human alone and then the stage without the human. -/
theorem hoisted_alike (h : stage.HumanWithin front back rest) (hcrew : crew.Unswerving)
    (hhuman : s.human = t.human) (henabled : s.humanInTheLoop = t.humanInTheLoop)
    (task : String) :
    Alike l.Unworded Eq (runSteps s crew image [.stage stage] task)
      (runSteps t crew image [.stage ⟨.human, []⟩, .stage rest] task) := by
  have htwo : runSteps t crew image [.stage ⟨.human, []⟩, .stage rest] task =
      runStage t crew image ⟨.human, []⟩ task >>= runStage t crew image rest := by
    have happend := runSteps_append t crew image [.stage ⟨.human, []⟩] [.stage rest] task
    rw [runSteps_singleton] at happend
    exact happend.trans (congrArg _ (funext (runSteps_singleton t crew image rest)))
  rw [runSteps_singleton, htwo, h.runStage_eq, runStage_human, bind_assoc]
  refine .bind (report_unworded l _ _) fun _ => ?_
  refine .bind (askHuman_unworded l hhuman henabled .response .nextTask task) fun task => ?_
  rw [h.runStage_rest_eq]
  -- The second stage is reported once more, which does not show.
  intro st su hstates
  rw [bind_of_ok (report_apply ..)]
  have hagents : Alike l.Unworded Eq
      (rest.agentNames.mapM (callAgent s crew image task) >>= fun texts => pure (joinTexts texts))
      (rest.agentNames.mapM (callAgent t crew image task) >>= fun texts => pure (joinTexts texts)) :=
    .bind (Congruence.mapM fun name _ => callAgent_unworded l hcrew name task) fun texts => .pure _
  exact hagents _ _ (hstates.quiet (.refl st) (.of_world (World.quiet_emitAll ..)))

/-- The stage goes like one in which the human stands elsewhere. -/
theorem moved_alike (h : stage.HumanWithin front back rest)
    (h' : stage'.HumanWithin front' back' rest) (hcrew : crew.Steady)
    (hhuman : s.human = t.human) (henabled : s.humanInTheLoop = t.humanInTheLoop)
    (task : String) :
    Alike l.States Eq (runSteps s crew image [.stage stage] task)
      (runSteps t crew image [.stage stage'] task) := by
  rw [runSteps_singleton, runSteps_singleton, h.runStage_eq, h'.runStage_eq]
  refine .bind (report_alike l _ _) fun _ => ?_
  refine .bind (askHuman_alike l hhuman henabled .response task) fun task => ?_
  exact .bind (Congruence.mapM fun name _ => callAgent_alike l rfl (hcrew name) task)
    fun texts => .pure _

end Stage.HumanWithin

/-- Some stages of a flow may be replaced by others that go alike. -/
theorem replaced_alike {R : RunState → RunState → Prop} {before after : List Stage}
    (stages stages' : List Stage) (hsame : ∀ steps task, Alike R Eq
      (runSteps s crew image steps task) (runSteps t crew image steps task))
    (hstages : ∀ task, Alike R Eq (runSteps s crew image (stages.map .stage) task)
      (runSteps t crew image (stages'.map .stage) task)) (task : String) :
    Alike R Eq (runSteps s crew image (Flow.plan ⟨before ++ (stages ++ after)⟩ none) task)
      (runSteps t crew image (Flow.plan ⟨before ++ (stages' ++ after)⟩ none) task) := by
  have hplan (between : List Stage) : Flow.plan ⟨before ++ (between ++ after)⟩ none =
      before.map .stage ++ (between.map .stage ++ after.map .stage) := by
    rw [Flow.plan_none, List.map_append, List.map_append]
  rw [hplan, hplan, runSteps_append, runSteps_append]
  refine .bind (hsame _ task) fun task => ?_
  rw [runSteps_append, runSteps_append]
  exact .bind (hstages task) fun task => hsame _ task

end Stages

/-! ### Flows with the human put elsewhere -/

/-- Two runs have the same outcome and make the same calls. The sessions that they leave
behind have the same journals and, but for the wording of prompts, the same dealings with
agents and humans and the same terminal. -/
structure SameRunUnworded (r r' : Except SwarmError String × List Exchange × Session) : Prop where
  outcome : r.1 = r'.1
  calls : r.2.1 = r'.2.1
  world : r.2.2.world.unworded.Agree (fun _ => True) r'.2.2.world.unworded
  journal : r.2.2.swarm.journal = r'.2.2.swarm.journal

/-- Runs that end alike but for the wording are the same but for it. -/
theorem SameRunUnworded.of_together {x y : Session} {r r' : EStateM.Result SwarmError RunState String}
    (h : Together (Likeness.behind []).Unworded Eq r r') :
    SameRunUnworded (x.resultOf r) (y.resultOf r') := by
  cases h with
  | ok hend => exact ⟨rfl, hend.exchanges, hend.world, hend.journal⟩
  | error he hend => exact ⟨congrArg Except.error he, hend.exchanges, hend.world, hend.journal⟩

namespace Stage.HumanWithin

variable {stage stage' rest : Stage} {front back front' back' : List Member}

theorem members_hoisted (h : stage.HumanWithin front back rest) (before after : List Stage) :
    (Flow.members ⟨before ++ ⟨.human, []⟩ :: rest :: after⟩).Perm
      (Flow.members ⟨before ++ stage :: after⟩) := by
  have hsame : (Flow.members ⟨⟨.human, []⟩ :: rest :: after⟩).Perm
      (Flow.members ⟨stage :: after⟩) := by
    rw [Flow.members_cons, Flow.members_cons, Flow.members_cons, h.rest, h.members]
    exact List.perm_middle.symm.append_right (Flow.members ⟨after⟩)
  rw [Flow.members_append, Flow.members_append]
  exact hsame.append_left _

theorem members_moved (h : stage.HumanWithin front back rest)
    (h' : stage'.HumanWithin front' back' rest) (before after : List Stage) :
    (Flow.members ⟨before ++ stage' :: after⟩).Perm (Flow.members ⟨before ++ stage :: after⟩) := by
  have hsame : stage'.members.Perm stage.members := by
    rw [h.members, h'.members]
    refine List.perm_middle.trans (List.Perm.trans ?_ List.perm_middle.symm)
    rw [← h.rest, ← h'.rest]
  rw [Flow.members_append, Flow.members_append, Flow.members_cons, Flow.members_cons]
  exact (hsame.append_right _).append_left _

end Stage.HumanWithin

/-- In a valid flow, a human among two agents or more stands once in their stage. -/
theorem Stage.exists_humanWithin {registered : String → Bool} {text : String}
    {before after : List Stage} {stage : Stage}
    (h : Flow.check registered text = .ok ⟨before ++ stage :: after⟩)
    (hhuman : .human ∈ stage.members) (htwo : 2 ≤ stage.agentNames.length) :
    ∃ front back rest, stage.HumanWithin front back rest := by
  obtain ⟨front, back, hmembers⟩ := List.append_of_mem hhuman
  have htwo' : 2 ≤ (front ++ back).length := by
    refine htwo.trans ?_
    rw [agentNames, hmembers, List.filterMap_append, List.filterMap_cons_none rfl,
      ← List.filterMap_append]
    exact List.length_filterMap_le ..
  obtain ⟨rest, hrest⟩ := exists_of_ne_nil (List.ne_nil_of_length_pos (Nat.lt_of_lt_of_le
    Nat.zero_lt_two htwo'))
  refine ⟨front, back, rest, hmembers, hrest, ?_, htwo'⟩
  obtain ⟨-, -, hnodup⟩ := Flow.check_eq_ok_iff.mp h
  have hstage : stage.members.Nodup := by
    rw [Flow.members_append, Flow.members_cons] at hnodup
    exact hnodup.of_append_right.of_append_left
  rw [hmembers, List.nodup_middle] at hstage
  exact (List.nodup_cons.mp hstage).1

namespace Session

variable {x : Session} {before after : List Stage} {stage stage' rest : Stage}
  {front back front' back' : List Member}

/-- Runs along two flows that are valid for the agents of the session, if their steps go
alike. -/
theorem setFlow_together {R : RunState → RunState → Prop}
    (hR : ∀ {st su st' su'}, R st su → st.Quiet st' → su.Quiet su' → R st' su')
    {flow flow' : Flow} {written : String} {order : Order}
    (hflow : Flow.check x.swarm.roster.contains x.swarm.settings.flow = .ok flow)
    (hflow' : Flow.check x.swarm.roster.contains written = .ok flow')
    (hsteps : ∀ task, Alike R Eq
      (runSteps x.swarm.settings x.swarm.roster.crew order.image (flow.plan order.custom.head?) task)
      (runSteps (x.setFlow written).swarm.settings x.swarm.roster.crew order.image
        (flow'.plan order.custom.head?) task))
    (hstart : R x.start x.start) :
    Together R Eq (attempt x.swarm.settings x.swarm.roster.crew order x.start)
      (attempt (x.setFlow written).swarm.settings (x.setFlow written).swarm.roster.crew order
        (x.setFlow written).start) := by
  rw [← Roster.has_crew] at hflow hflow'
  have hruns : Alike R Eq (attempt x.swarm.settings x.swarm.roster.crew order)
      (attempt (x.setFlow written).swarm.settings x.swarm.roster.crew order) :=
    attempts_alike hR hflow hflow' rfl hsteps
  exact hruns _ _ (hR hstart (.refl _) ⟨World.quiet_emitAll .., rfl, rfl⟩)

/-- The flow in which the human stands in front of the stage. -/
theorem runTraced_hoisted_of_within (hwithin : stage.HumanWithin front back rest)
    (h : Flow.check x.swarm.roster.contains x.swarm.settings.flow = .ok ⟨before ++ stage :: after⟩)
    {written : String} (hwritten : Flow.check x.swarm.roster.contains written =
      .ok ⟨before ++ ⟨.human, []⟩ :: rest :: after⟩) {order : Order} (hcustom : order.custom = []) :
    SameRunUnworded (x.runTraced order) ((x.setFlow written).runTraced order) := by
  have hcrew : x.swarm.roster.crew.Unswerving := crewOf_unswerving _
  have hstart : (Likeness.behind []).Unworded x.start x.start :=
    ⟨.refl _ x.world.unworded, rfl, rfl⟩
  rw [runTraced_eq, runTraced_eq]
  refine .of_together (setFlow_together Likeness.Unworded.quiet h hwritten (fun task => ?_) hstart)
  rw [hcustom]
  exact replaced_alike [stage] [⟨.human, []⟩, rest] (runSteps_unworded _ hcrew rfl rfl)
    (hwithin.hoisted_alike _ hcrew rfl rfl) task

/-- The flow in which the human stands elsewhere in the stage. -/
theorem runTraced_moved_of_within (hwithin : stage.HumanWithin front back rest)
    (hwithin' : stage'.HumanWithin front' back' rest)
    (h : Flow.check x.swarm.roster.contains x.swarm.settings.flow = .ok ⟨before ++ stage :: after⟩)
    {written : String} (hwritten : Flow.check x.swarm.roster.contains written =
      .ok ⟨before ++ stage' :: after⟩) {order : Order} (hcustom : order.custom = []) :
    SameRun (x.runTraced order) ((x.setFlow written).runTraced order) := by
  have hcrew : x.swarm.roster.crew.Steady := crewOf_steady _
  have hstart : (Likeness.behind []).States x.start x.start := ⟨.refl _ x.world, rfl, rfl⟩
  rw [runTraced_eq, runTraced_eq]
  refine .of_together (setFlow_together Likeness.States.quiet h hwritten (fun task => ?_) hstart)
  rw [hcustom]
  exact replaced_alike [stage] [stage'] (runSteps_alike_of_steady _ rfl rfl hcrew)
    (hwithin.moved_alike _ hwithin' hcrew rfl rfl) task

/-- In a valid flow, let a human stand in one stage with two agents or more. Then the flow is
valid as well in which the human stands alone in a stage in front of them. Without custom
tasks, both flows are run in the same way, but for the wording of prompts. If the human stands
elsewhere among those agents, the flow is run in the same way altogether. -/
theorem runTraced_hoisted (x : Session) {before after : List Stage} {stage : Stage}
    (h : Flow.check x.swarm.roster.contains x.swarm.settings.flow = .ok ⟨before ++ stage :: after⟩)
    (hhuman : .human ∈ stage.members) (htwo : 2 ≤ stage.agentNames.length) :
    (∃ front back rest, stage.HumanWithin front back rest) ∧
    ∀ front back rest, stage.HumanWithin front back rest →
      let hoisted : Flow := ⟨before ++ ⟨.human, []⟩ :: rest :: after⟩
      (Flow.parse hoisted.text = .ok hoisted ∧
        ∀ written, Flow.parse written = .ok hoisted →
          let y := x.setFlow written
          Flow.check y.swarm.roster.contains y.swarm.settings.flow = .ok hoisted ∧
            ∀ order, order.custom = [] →
              SameRunUnworded (x.runTraced order) (y.runTraced order)) ∧
      ∀ stage' front' back', stage'.HumanWithin front' back' rest →
        let moved : Flow := ⟨before ++ stage' :: after⟩
        Flow.parse moved.text = .ok moved ∧
          ∀ written, Flow.parse written = .ok moved →
            let y := x.setFlow written
            Flow.check y.swarm.roster.contains y.swarm.settings.flow = .ok moved ∧
              ∀ order, order.custom = [] → SameRun (x.runTraced order) (y.runTraced order) := by
  have hwellFormed := Flow.wellFormed_of_parse (Flow.check_eq_ok_iff.mp h).1
  refine ⟨Stage.exists_humanWithin h hhuman htwo, fun front back rest hwithin => ⟨⟨?_, ?_⟩, ?_⟩⟩
  · exact (hwellFormed.of_members (by simp) (hwithin.members_hoisted before after)).parse_text
  · intro written hwritten
    have hcheck := Flow.check_of_perm h hwritten (hwithin.members_hoisted before after)
    exact ⟨hcheck, fun order hcustom => runTraced_hoisted_of_within hwithin h hcheck hcustom⟩
  · intro stage' front' back' hwithin'
    have hmembers := hwithin.members_moved hwithin' before after
    refine ⟨(hwellFormed.of_members (by simp) hmembers).parse_text, fun written hwritten => ?_⟩
    have hcheck := Flow.check_of_perm h hwritten hmembers
    exact ⟨hcheck, fun order hcustom => runTraced_moved_of_within hwithin hwithin' h hcheck hcustom⟩

/-- In the second loop, the input is at its end, so the human answers with nothing, and then
an agent fails. -/
theorem runTraced_hoisted_second_loop :
    let x := Sample.session "A -> B, H, C" 2
      [Sample.agent 1 "A" 5, Sample.agent 2 "B" 5, Sample.agent 3 "C" 1]
    let order : Order := ⟨"t", some "i", []⟩
    let stage : Stage := ⟨.agent "B", [.human, .agent "C"]⟩
    Flow.check x.swarm.roster.contains x.swarm.settings.flow = .ok ⟨[⟨.agent "A", []⟩, stage]⟩ ∧
      .human ∈ stage.members ∧ 2 ≤ stage.agentNames.length ∧
      stage.HumanWithin [.agent "B"] [.agent "C"] ⟨.agent "B", [.agent "C"]⟩ ∧
      SameRunUnworded (x.runTraced order) ((x.setFlow "A -> H -> B, C").runTraced order) ∧
      SameRun (x.runTraced order) ((x.setFlow "A -> H, B, C").runTraced order) ∧
      (x.runTraced order).2.1.map Exchange.task = ["t", "hi", "hi", "hiB; hiC", "", ""] ∧
      (x.runTraced order).2.2.world.terminal.prompts = [.response, .response] ∧
      ((x.setFlow "A -> H -> B, C").runTraced order).2.2.world.terminal.prompts =
        [.nextTask, .nextTask] ∧
      (x.runTraced order).1 = .error (.agent ⟨"C", "enough"⟩) := by
  intro x order stage
  have h : Flow.check x.swarm.roster.contains x.swarm.settings.flow =
      .ok ⟨[⟨.agent "A", []⟩] ++ stage :: []⟩ := by decide +kernel
  have hhuman : .human ∈ stage.members := by decide +kernel
  have htwo : 2 ≤ stage.agentNames.length := by decide +kernel
  have hwithin : stage.HumanWithin [.agent "B"] [.agent "C"] ⟨.agent "B", [.agent "C"]⟩ :=
    ⟨rfl, rfl, by decide +kernel, by decide +kernel⟩
  have hfront : Stage.HumanWithin ⟨.human, [.agent "B", .agent "C"]⟩ []
      [.agent "B", .agent "C"] ⟨.agent "B", [.agent "C"]⟩ :=
    ⟨rfl, rfl, by decide +kernel, by decide +kernel⟩
  obtain ⟨-, hall⟩ := runTraced_hoisted x h hhuman htwo
  obtain ⟨⟨-, hhoisted⟩, hmoved⟩ := hall _ _ _ hwithin
  obtain ⟨-, hhoisted⟩ := hhoisted "A -> H -> B, C" (by decide +kernel)
  obtain ⟨-, hmoved⟩ := hmoved _ _ _ hfront
  obtain ⟨-, hmoved⟩ := hmoved "A -> H, B, C" (by decide +kernel)
  exact ⟨h, hhuman, htwo, hwithin, hhoisted order rfl, hmoved order rfl, by decide +kernel,
    by decide +kernel, by decide +kernel, by decide +kernel⟩

end Session

end Relay
