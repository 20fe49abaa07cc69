import Relay.Flow.Plan
import Relay.Proofs.Flow.RoundTrip
import Relay.Proofs.Flow.Valid

/-!
# The stage that a custom task is addressed to

The members of a flow that was read are told apart by their names, and in a valid
flow none occurs twice. So at most one stage is led by a member of a given name, and
the plan of a custom task splices its text in at one place at most: right before that
stage.

## Main definitions

* `Step.added?` — what a step appends to the running task.
* `Flow.Led` — the one stage that is led by a member of the name.

## Main statements

* `Flow.added_plan` — what a plan splices in.
* `Flow.exists_led`, `Flow.Led.plan` — the stage a custom task is addressed to.
* `Flow.WellFormed.insert` — a stage that is put in.
-/

namespace Relay

/-- The text that a step appends to the running task. -/
def Step.added? : Step → Option String
  | .stage _ => none
  | .inject text => some text

namespace Flow

/-! ### Members and agents of a flow put together -/

@[simp] theorem members_append (l r : List Stage) :
    members ⟨l ++ r⟩ = members ⟨l⟩ ++ members ⟨r⟩ := List.flatMap_append

@[simp] theorem agentNames_append (l r : List Stage) :
    agentNames ⟨l ++ r⟩ = agentNames ⟨l⟩ ++ agentNames ⟨r⟩ := by
  rw [agentNames, members_append, List.filterMap_append]
  rfl

@[simp] theorem members_alone (name : String) (rest : List Stage) :
    members ⟨⟨.agent name, []⟩ :: rest⟩ = .agent name :: members ⟨rest⟩ := rfl

@[simp] theorem agentNames_alone (name : String) (rest : List Stage) :
    agentNames ⟨⟨.agent name, []⟩ :: rest⟩ = name :: agentNames ⟨rest⟩ := rfl

/-! ### What a plan splices in -/

theorem added_map_stage (stages : List Stage) :
    (stages.map Step.stage).filterMap Step.added? = [] :=
  List.filterMap_eq_nil_iff.mpr fun step hstep => by
    obtain ⟨s, -, rfl⟩ := List.mem_map.mp hstep
    rfl

/-- A plan splices in the text of the custom task, once, if its target leads a stage. -/
theorem added_plan (flow : Flow) (custom : Option CustomTask) :
    (flow.plan custom).filterMap Step.added? =
      (custom.filter fun c => flow.isLed c.target).toList.map CustomTask.text := by
  obtain ⟨stages⟩ := flow
  cases custom with
  | none => exact added_map_stage stages
  | some c =>
    change (stepsWith c stages).filterMap Step.added? = _
    induction stages with
    | nil => rfl
    | cons s rest ih =>
      rw [stepsWith]
      split
      · next hlead =>
        rw [List.filterMap_cons_some (by rfl), List.filterMap_cons_none (by rfl), added_map_stage]
        simp [Option.filter, isLed, hlead]
      · next hlead =>
        rw [List.filterMap_cons_none (by rfl), ih]
        simp [Option.filter, isLed, hlead]

/-! ### The stage that is led by a name -/

/-- Between some stages of the flow and others stands one that is led by a member of
the name, and it is the only one. -/
structure Led (f : Flow) (target : String) (before : List Stage) (stage : Stage)
    (after : List Stage) : Prop where
  stages : f.stages = before ++ stage :: after
  lead : stage.lead.name = target
  others : ∀ s ∈ before ++ after, s.lead.name ≠ target

/-- The members of a flow that was read are told apart by their names. -/
theorem eq_of_name_eq {text : String} {f : Flow} (h : parse text = .ok f) {m m' : Member}
    (hm : m ∈ f.members) (hm' : m' ∈ f.members) (hname : m.name = m'.name) : m = m' := by
  cases m with
  | agent name =>
    cases m' with
    | agent name' => exact congrArg Member.agent hname
    | human => exact absurd hname (ne_human_of_parse h (mem_agentNames_iff.mpr hm))
  | human =>
    cases m' with
    | agent name' => exact absurd hname.symm (ne_human_of_parse h (mem_agentNames_iff.mpr hm'))
    | human => rfl

theorem lead_mem_members {stages : List Stage} {s : Stage} (h : s ∈ stages) :
    s.lead ∈ members ⟨stages⟩ :=
  List.mem_flatMap.mpr ⟨s, h, List.mem_cons_self⟩

/-- In a valid flow, no two stages are led by members of one name. -/
theorem exists_led {registered : String → Bool} {text : String} {f : Flow}
    (h : check registered text = .ok f) {target : String} (hled : f.isLed target) :
    ∃ before stage after, f.Led target before stage after := by
  obtain ⟨hparse, -, hnodup⟩ := check_eq_ok_iff.mp h
  obtain ⟨stage, hstage, hlead⟩ := List.any_eq_true.mp hled
  have hlead : stage.lead.name = target := beq_iff_eq.mp hlead
  obtain ⟨before, after, hstages⟩ := List.append_of_mem hstage
  refine ⟨before, stage, after, hstages, hlead, fun s hs hname => ?_⟩
  obtain ⟨stages⟩ := f
  obtain rfl : stages = before ++ stage :: after := hstages
  have hmem : s ∈ before ++ stage :: after := by
    rw [List.mem_append] at hs ⊢
    exact hs.imp_right (List.mem_cons_of_mem stage)
  have hsame : s.lead = stage.lead :=
    eq_of_name_eq hparse (lead_mem_members hmem) (lead_mem_members (by simp))
      (hname.trans hlead.symm)
  -- Both occurrences of that member are in the flow, one in the stage and one outside.
  rw [members_append] at hnodup
  have hcons : members ⟨stage :: after⟩ = stage.lead :: (stage.others ++ members ⟨after⟩) := rfl
  rw [hcons] at hnodup
  have hout := List.nodup_middle.mp hnodup |>.notMem
  rw [← hsame, List.mem_append, List.mem_append] at hout
  rcases List.mem_append.mp hs with hs | hs
  · exact hout (.inl (lead_mem_members hs))
  · exact hout (.inr (.inr (lead_mem_members hs)))

theorem Led.eq {f : Flow} {target : String} {before after : List Stage} {stage : Stage}
    (h : f.Led target before stage after) : f = ⟨before ++ stage :: after⟩ :=
  congrArg Flow.mk h.stages

/-- The text is spliced in right before the stage. -/
theorem Led.plan {f : Flow} {c : CustomTask} {before after : List Stage} {stage : Stage}
    (h : f.Led c.target before stage after) :
    f.plan (some c) =
      before.map Step.stage ++ .inject c.text :: .stage stage :: after.map Step.stage := by
  obtain ⟨hstages, hlead, hothers⟩ := h
  rw [Flow.plan, hstages]
  clear hstages
  induction before with
  | nil => rw [List.nil_append, stepsWith, if_pos hlead]; rfl
  | cons s before ih =>
    have hs : s.lead.name ≠ c.target := hothers s (by simp)
    rw [List.cons_append, stepsWith, if_neg hs,
      ih fun s' hs' => hothers s' (List.mem_cons_of_mem s hs'), List.map_cons, List.cons_append]

/-- A stage of a name that can stand in a flow may be put anywhere. -/
theorem WellFormed.insert {before after : List Stage} (h : WellFormed ⟨before ++ after⟩)
    {name : String} (hname : IsName name) :
    WellFormed ⟨before ++ ⟨.agent name, []⟩ :: after⟩ where
  two_stages := by
    have htwo : 2 ≤ (before ++ after).length := h.two_stages
    rw [List.length_append] at htwo
    rw [List.length_append, List.length_cons]
    omega
  names m hm other hother := by
    rw [members_append, members_alone, List.mem_append, List.mem_cons] at hm
    by_cases hsame : m = .agent name
    · subst hsame
      exact Option.some.inj hother ▸ hname
    · refine h.names m ?_ other hother
      rw [members_append, List.mem_append]
      tauto

end Flow

end Relay
