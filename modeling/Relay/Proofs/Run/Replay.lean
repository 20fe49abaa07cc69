import Relay.Proofs.Run.Course

/-!
# Runs played again from their records

The record of a run keeps what its agents put out. If no human took part and no custom
task was spliced in, that is all that is needed to play the run again: the outputs are
threaded through the stages, loop after loop, without calling anybody. The tasks that
come up on the way are those that were handed over, and the text at the end is the one
that the run came to.

## Main definitions

* `Replay` — how far a run was played again.
* `Replay.stage`, `Replay.flow`, `Replay.loops` — the parts of a run, played again.
* `RunRecord.replay` — a whole run, played again from its record.

## Main statements

* `runStage_replayed`, `runLoops_replayed` — the parts of a run.
* `attempt_replayed` — a whole run.
-/

namespace Relay

/-- How far a run was played again. -/
structure Replay where
  /-- The tasks that were handed over. -/
  tasks : List String
  /-- The running task. -/
  text : String
  /-- The outputs that were not used yet. -/
  outputs : List (Option String)
  deriving DecidableEq

namespace Replay

/-- The agents of the stage put out what comes next. -/
def stage (r : Replay) (s : Stage) : Replay :=
  let own := r.outputs.take s.agentNames.length
  { tasks := r.tasks ++ own.map fun _ => r.text
    text := if s.isParallel then joinTexts own else (own.head?.join).getD r.text
    outputs := r.outputs.drop s.agentNames.length }

/-- All stages of the flow, once. -/
def flow (r : Replay) (f : Flow) : Replay := f.stages.foldl stage r

/-- The stages of the flow, loop after loop. -/
def loops (r : Replay) (f : Flow) : Nat → Replay
  | 0 => r
  | left + 1 => (r.flow f).loops f left

end Replay

/-- The run is played again from its task, its flow, its loops and the outputs recorded. -/
def RunRecord.replay (r : RunRecord) (f : Flow) : Replay :=
  Replay.loops ⟨[], r.task, r.entries.map RecordEntry.output⟩ f r.loops

/-! ### The parts of a run -/

/-- What is recorded of the calls up to a state of a run. -/
def RunState.entries (st : RunState) : List RecordEntry := st.exchanges.filterMap Exchange.entry?

/-- If the part of a run is done, playing it again comes to the same text, and the tasks
are those that were handed over. -/
def Replayed (task : String) (st : RunState) (play : Replay → Replay) :
    EStateM.Result SwarmError RunState String → Prop
  | .ok text st' => ∃ entries, st'.entries = st.entries ++ entries ∧
      ∀ tasks outputs, play ⟨tasks, task, entries.map RecordEntry.output ++ outputs⟩ =
        ⟨tasks ++ entries.map RecordEntry.task, text, outputs⟩
  | .error _ _ => True

namespace Replayed

variable {task : String} {st st' : RunState} {play : Replay → Replay}

/-- What is quiet does not show. -/
theorem of_quiet {r : EStateM.Result SwarmError RunState String} (hquiet : st.Quiet st')
    (h : Replayed task st' play r) : Replayed task st play r := by
  cases r with
  | ok text su =>
    obtain ⟨entries, hentries, hplay⟩ := h
    have hsame : st'.entries = st.entries := congrArg (List.filterMap _) hquiet.exchanges
    exact ⟨entries, hsame ▸ hentries, hplay⟩
  | error e su => trivial

/-- What is quiet comes behind without being seen. -/
theorem quiet {r r' : EStateM.Result SwarmError RunState String} (h : Replayed task st play r)
    (hquiet : Together RunState.Quiet Eq r r') : Replayed task st play r' := by
  cases hquiet with
  | ok hafter =>
    obtain ⟨entries, hentries, hplay⟩ := h
    exact ⟨entries, (congrArg (List.filterMap _) hafter.exchanges).trans hentries, hplay⟩
  | error => trivial

/-- Nothing is done, and nobody is called. -/
theorem pure : Replayed task st id (.ok task st) :=
  ⟨[], (List.append_nil _).symm, fun tasks outputs => by simp⟩

/-- Parts in sequence are played again in sequence. -/
theorem bind {p : Run String} {f : String → Run String} {next : Replay → Replay}
    (h : Replayed task st play (p st))
    (hnext : ∀ text st', Replayed text st' next (f text st')) :
    Replayed task st (next ∘ play) ((p >>= f) st) := by
  cases hp : p st with
  | error e su =>
    rw [bind_of_error hp]
    trivial
  | ok text su =>
    rw [hp] at h
    obtain ⟨entries, hentries, hplay⟩ := h
    have hafter := hnext text su
    rw [bind_of_ok hp]
    cases hf : f text su with
    | error e sv => trivial
    | ok last sv =>
      rw [hf] at hafter
      obtain ⟨more, hmore, hplay'⟩ := hafter
      refine ⟨entries ++ more, ?_, fun tasks outputs => ?_⟩
      · rw [hmore, hentries, List.append_assoc]
      · rw [List.map_append, List.append_assoc, Function.comp_apply, hplay, hplay', List.map_append,
          List.append_assoc]

end Replayed

section Parts

variable {s : Settings} {crew : Crew} {image : Option String} {task : String} {st st' : RunState}

/-- A call that is answered is recorded. -/
theorem entries_of_callAgent {name : String} {text : Option String}
    (h : callAgent s crew image task name st = .ok text st') :
    st'.entries = st.entries ++ [⟨name, task, text⟩] := by
  cases hfind : Table.lookup name crew with
  | none =>
    rw [callAgent, hfind] at h
    cases h
  | some respond =>
    cases hanswer : respond task image st.world with
    | ok answer w =>
      rw [callAgent_of_ok hfind hanswer] at h
      cases h
      rw [RunState.entries, List.filterMap_append]
      rfl
    | error e w =>
      rw [callAgent_of_error hfind hanswer] at h
      cases h

/-- Calls on one task, one after the other, are recorded one after the other. -/
theorem entries_of_callAgents {names : List String} {texts : List (Option String)}
    (h : names.mapM (callAgent s crew image task) st = .ok texts st') :
    ∃ entries, st'.entries = st.entries ++ entries ∧ entries.map RecordEntry.output = texts ∧
      entries.map RecordEntry.task = texts.map (fun _ => task) ∧ texts.length = names.length := by
  induction names generalizing st texts with
  | nil =>
    cases h
    exact ⟨[], (List.append_nil _).symm, rfl, rfl, rfl⟩
  | cons name names ih =>
    rw [List.mapM_cons] at h
    obtain ⟨text, su, hcall, hrest⟩ := exists_of_bind_eq_ok h
    obtain ⟨more, sv, hmore, hend⟩ := exists_of_bind_eq_ok hrest
    cases hend
    obtain ⟨entries, hentries, houtputs, htasks, hlength⟩ := ih hmore
    refine ⟨⟨name, task, text⟩ :: entries, ?_, ?_, ?_, ?_⟩
    · rw [hentries, entries_of_callAgent hcall, List.append_assoc]
      rfl
    · rw [List.map_cons, houtputs]
    · rw [List.map_cons, htasks, List.map_cons]
    · rw [List.length_cons, hlength, List.length_cons]

/-- Without a human nobody puts anything in place of the task. -/
theorem replaceTasks_of_no_human {members : List Member} (h : .human ∉ members) :
    members.foldlM (replaceTask s) task st = .ok task st := by
  induction members with
  | nil => rfl
  | cons m members ih =>
    rw [List.mem_cons, not_or] at h
    cases m with
    | human => exact absurd rfl h.1
    | agent name => exact ih h.2

/-- A stage without a human is played again. -/
theorem runStage_replayed {stage : Stage} (h : .human ∉ stage.members) :
    Replayed task st (·.stage stage) (runStage s crew image stage task st) := by
  cases hrun : runStage s crew image stage task st with
  | error e su => trivial
  | ok text su =>
    rw [runStage] at hrun
    split at hrun
    · next hparallel =>
      rw [bind_of_ok (report_apply ..), bind_of_ok (replaceTasks_of_no_human h)] at hrun
      obtain ⟨texts, sv, hcalls, hend⟩ := exists_of_bind_eq_ok hrun
      cases hend
      obtain ⟨entries, hentries, houtputs, htasks, hlength⟩ := entries_of_callAgents hcalls
      refine ⟨entries, hentries, fun tasks outputs => ?_⟩
      have hown : stage.agentNames.length = texts.length := hlength.symm
      simp only [Replay.stage, if_pos hparallel, houtputs, htasks, hown, List.take_left,
        List.drop_left]
    · next halone =>
      rw [bind_of_ok (report_apply ..)] at hrun
      obtain ⟨lead, others⟩ := stage
      obtain rfl : others = [] := by simpa [Stage.isParallel] using halone
      cases lead with
      | human => exact absurd List.mem_cons_self h
      | agent name =>
        obtain ⟨output, sv, hcall, hend⟩ := exists_of_bind_eq_ok hrun
        cases hend
        have hentries := entries_of_callAgent hcall
        exact ⟨_, hentries, fun tasks outputs => rfl⟩

/-- The stages of a flow without humans are played again. -/
theorem runSteps_replayed {stages : List Stage} (h : .human ∉ Flow.members ⟨stages⟩) :
    Replayed task st (stages.foldl Replay.stage ·)
      (runSteps s crew image (stages.map .stage) task st) := by
  induction stages generalizing task st with
  | nil => exact .pure
  | cons stage rest ih =>
    rw [Flow.members, List.flatMap_cons, List.mem_append, not_or] at h
    rw [List.map_cons, runSteps, List.foldlM_cons]
    exact .bind (runStage_replayed h.1) fun text su => ih h.2

/-- All loops are played again. -/
theorem runLoops_replayed {flow : Flow} (h : .human ∉ flow.members) (done : Nat) (left : Nat) :
    Replayed task st (·.loops flow left)
      (runLoops s crew image (flow.plan none) done task left st) := by
  induction left generalizing task st done with
  | zero => exact .pure
  | succ left ih =>
    rw [runLoops, bind_of_ok (report_apply ..)]
    exact .of_quiet (.of_world (st.world.quiet_emitAll _))
      (.bind (runSteps_replayed h) fun text su => ih (done + 1))

end Parts

/-- A whole run along a flow without humans, and without a custom task, is played again. -/
theorem attempt_replayed {s : Settings} {crew : Crew} {flow : Flow}
    (hcheck : Flow.check crew.has s.flow = .ok flow) (hhuman : .human ∉ flow.members)
    {order : Order} (hcustom : order.custom = []) (st : RunState) :
    Replayed order.task st (·.loops flow s.loops) (attempt s crew order st) := by
  obtain ⟨st₀, hquiet, hrun⟩ := attempt_of_valid s crew order st hcheck
  rw [hcustom] at hrun
  exact .of_quiet hquiet ((runLoops_replayed hhuman 0 s.loops).quiet hrun)

end Relay
