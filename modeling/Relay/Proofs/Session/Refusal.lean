import Relay.Proofs.Run.Trace

/-!
# Runs that are refused

A run is refused when the flow is not valid for the agents that are registered when
it starts, and for no other reason. Then nothing has happened: nobody was called, and
the world, the journal and the agents are as they were. A run that is not refused
succeeds, or breaks off because an agent that it called or a human failed. It finds
every agent that it is to call.

## Main definitions

* `Ended` — how a run ends that was not refused.
* `Session.Untouched` — a session in which nothing has happened.

## Main statements

* `Session.runTraced_of_invalid`, `Session.runTraced_of_valid` — the two kinds of runs.
* `Session.tryRun_refuses_first` — when runs are refused, and how they end otherwise.
-/

namespace Relay

/-- How a run with these calls ends that was not refused: it succeeds, or the error
is that of an agent that was called, or that of a human. -/
inductive Ended (calls : List Exchange) : Except SwarmError String → Prop
  | done (text : String) : Ended calls (.ok text)
  | agentFailed {call : Exchange} {e : AgentError} (hcall : call ∈ calls)
      (houtcome : call.outcome = .error e) : Ended calls (.error (.agent e))
  | humanFailed (e : IoError) : Ended calls (.error (.human e))

namespace Session

/-- From one session to the other nothing has happened, though a flow may have been
read. -/
structure Untouched (x y : Session) : Prop where
  world : y.world = x.world
  settings : y.swarm.settings = x.swarm.settings
  roster : y.swarm.roster = x.swarm.roster
  journal : y.swarm.journal = x.swarm.journal

variable (x : Session) (order : Order)

/-- If the flow is not valid, the run is refused before anybody is called. -/
theorem runTraced_of_invalid {e : FlowError}
    (h : Flow.check x.swarm.roster.contains x.swarm.settings.flow = .error e) :
    (x.runTraced order).1 = .error (.flow e) ∧ (x.runTraced order).2.1 = [] ∧
      x.Untouched (x.runTraced order).2.2 := by
  rw [← Roster.has_crew] at h
  obtain ⟨st, hquiet, hworld, hrun⟩ :=
    attempt_of_invalid x.swarm.settings x.swarm.roster.crew order x.start h
  rw [runTraced_eq, hrun]
  exact ⟨rfl, hquiet.exchanges, hworld, rfl, rfl, hquiet.journal⟩

/-- If the flow is valid, the run is not refused, and its calls are what happened to
the agents. -/
theorem runTraced_of_valid {f : Flow}
    (h : Flow.check x.swarm.roster.contains x.swarm.settings.flow = .ok f) :
    Calls x.swarm.roster.crew x.world (x.runTraced order).2.1 (x.runTraced order).2.2.world ∧
      Ended (x.runTraced order).2.1 (x.runTraced order).1 := by
  rw [← Roster.has_crew] at h
  have htraced := attempt_traced h order x.start
  rw [runTraced_eq]
  generalize attempt x.swarm.settings x.swarm.roster.crew order x.start = r at htraced
  have hcalls {due : List String} {calls : List Exchange} {st : RunState}
      (hcourse : Course x.swarm.roster.crew order.image due x.start calls st) :
      Calls x.swarm.roster.crew x.world st.exchanges st.world := by
    have hall : st.exchanges = calls := hcourse.exchanges
    exact hall ▸ hcourse.world
  cases htraced with
  | done hcourse => exact ⟨hcalls hcourse, .done _⟩
  | @agentFailed e st calls last hcourse _ hlast =>
    have hall : st.exchanges = calls ++ [last] := hcourse.exchanges
    have hmem : last ∈ st.exchanges :=
      hall ▸ List.mem_append_right calls (List.mem_singleton_self _)
    exact ⟨hcalls hcourse, .agentFailed hmem hlast⟩
  | humanFailed hcourse => exact ⟨hcalls hcourse, .humanFailed _⟩

/-- A run is refused exactly when the flow is not valid, with the same error, and then
nothing has happened. Otherwise it succeeds, or fails with the error of an agent that
it called or of a human. It takes the leader of a stage and looks up an agent only
where there is one. -/
theorem tryRun_refuses_first :
    (∀ e, (x.tryRun order).1 = .error (.flow e) ↔
      x.swarm.roster.validate x.swarm.settings.flow = .error e) ∧
    (∀ e, x.swarm.roster.validate x.swarm.settings.flow = .error e →
      (x.runTraced order).2.1 = [] ∧ x.Untouched (x.tryRun order).2) ∧
    (x.swarm.roster.validate x.swarm.settings.flow = .ok () →
      Calls x.swarm.roster.crew x.world (x.runTraced order).2.1 (x.tryRun order).2.world ∧
        Ended (x.runTraced order).2.1 (x.tryRun order).1) ∧
    ∀ f, Flow.check x.swarm.roster.contains x.swarm.settings.flow = .ok f →
      (∀ s ∈ f.stages, s.members[0]? = some s.lead) ∧
        ∀ name ∈ f.agentNames, ∃ a, x.swarm.roster.find? name = some a := by
  refine ⟨fun e => ?_, fun e he => ?_, fun hvalid => ?_, fun f hf => ⟨fun s _ => rfl, ?_⟩⟩
  · rw [Roster.validate_eq_error_iff]
    cases hcheck : Flow.check x.swarm.roster.contains x.swarm.settings.flow with
    | error e' =>
      obtain ⟨houtcome, -, -⟩ := x.runTraced_of_invalid order hcheck
      rw [tryRun, houtcome]
      simp
    | ok f =>
      obtain ⟨-, hended⟩ := x.runTraced_of_valid order hcheck
      have hnot : (x.tryRun order).1 ≠ .error (.flow e) := by
        intro hrefused
        have hended : Ended (x.runTraced order).2.1 (.error (.flow e)) := hrefused ▸ hended
        cases hended
      simp [hnot]
  · exact (x.runTraced_of_invalid order (Roster.validate_eq_error_iff.mp he)).2
  · obtain ⟨f, hf⟩ := Roster.validate_eq_ok_iff.mp hvalid
    exact x.runTraced_of_valid order hf
  · obtain ⟨-, hregistered, -⟩ := Flow.check_eq_ok_iff.mp hf
    intro name hname
    exact Option.isSome_iff_exists.mp (hregistered name hname)

end Session

end Relay
