import Relay.Proofs.Run.Faults
import Relay.Proofs.Run.Steady
import Relay.Proofs.Run.Trace

/-!
# Failures in nested swarms

A swarm that serves as an agent runs on an *errand* of its own: with what it is set to,
its own agents, and the task that it was handed. Errands are nested. If the innermost
one fails, so do all around it, one after the other, and nothing else happens: nobody
is dealt with any more, nothing is reported and no file is written. The message that
comes out names the swarms on the way, the outermost first.

What a swarm on the way had noted before stays, and the call that failed is not noted.

## Main definitions

* `Errand` — a swarm that is sent on a run.
* `Errand.Enters`, `Errand.Descends` — errands in errands.
* `Errand.BreaksOff` — what an errand leaves behind when one in it fails.

## Main statements

* `Errand.Enters.fails` — an errand fails if one that it enters does.
* `Errand.Descends.breaksOff` — the same through all levels.
* `Session.tryRun_breaks_off` — how a failure comes out at the top.
-/

namespace Relay

/-- A swarm that is sent on a run: what it is set to, its agents, what is asked of it,
and where it starts. -/
structure Errand where
  settings : Settings
  agents : List Agent
  order : Order
  start : RunState

/-- What comes in front of the message of a swarm that fails where it serves as an agent. -/
def blame (name : String) : String := "Agent '" ++ name ++ "' failed: "

namespace Errand

/-- The agents as the run sees them. -/
def crew (v : Errand) : Crew := crewOf v.agents

/-- The run. -/
def run (v : Errand) : Run String := attempt v.settings v.crew v.order

/-- What the run comes to. -/
def result (v : Errand) : EStateM.Result SwarmError RunState String := v.run v.start

/-- In the course of the first errand, an agent is called that is a swarm, and is sent on
the second one. Its memory is kept under the number. -/
structure Enters (v : Errand) (number : Nat) (w : Errand) : Prop where
  serves : v.agents.find? (·.name == w.settings.name) = some (.swarm number w.settings w.agents)
  order : w.order = ⟨w.order.task, v.order.image, []⟩
  comes : ∃ su, w.start = ⟨su.world, su.world.memoryOf number, []⟩ ∧
    Comes (callAgent v.settings v.crew v.order.image w.order.task w.settings.name) su v.run v.start

/-- The errands, each with the number of its swarm, are entered one in the other. The
last is at the bottom. -/
inductive Descends : Errand → List (Nat × Errand) → Errand → Prop
  | here (v : Errand) : Descends v [] v
  | enter {v w bottom : Errand} {number : Nat} {levels : List (Nat × Errand)}
      (h : v.Enters number w) (hrest : Descends w levels bottom) :
      Descends v ((number, w) :: levels) bottom

/-- The errand fails with `d` and leaves `su` behind, because at the bottom of the
`levels` in it one failed with `e` and left `sv` behind. -/
structure BreaksOff (v : Errand) (levels : List (Nat × Errand)) (e : SwarmError) (sv : RunState)
    (d : SwarmError) (su : RunState) : Prop where
  result : v.result = .error d su
  /-- The message names the swarms on the way. -/
  message : d.message = String.join (levels.map fun l => blame l.2.settings.name) ++ e.message
  /-- The call of the swarm on the way failed, and it is the last. -/
  called : ∀ l ∈ levels.head?, ∃ a, d = .agent a ∧
    su.exchanges.getLast? = some ⟨l.2.settings.name, l.2.order.task, l.2.order.image, .error a⟩
  /-- Both logs gain the calls that were answered before, and nothing else. -/
  journal : ∃ answered, ∃ failed : Option Exchange,
    su.exchanges = v.start.exchanges ++ (answered ++ failed.toList) ∧
      (∀ c ∈ answered, c.IsAnswered) ∧ (∀ c ∈ failed, ∃ a, d = .agent a ∧ c.outcome = .error a) ∧
      v.start.memory.journal.Grows (notesOf answered) su.memory.journal
  /-- No record is saved. -/
  unsaved : attempt { v.settings with autosave := false } v.crew v.order v.start = .error d su
  /-- After the failure at the bottom nothing happens. -/
  world : { su.world with memories := sv.world.memories } = sv.world
  /-- What each of the swarms had noted is kept under its number. -/
  kept : (levels.map Prod.fst).Nodup → ∀ l ∈ levels, ∀ d' su',
    l.2.result = .error d' su' → su.world.memoryOf l.1 = su'.memory

variable {v w : Errand} {number : Nat}

/-! ### One level -/

/-- If an errand fails, so does the one that it was entered from, and it leaves behind
what the inner one did. -/
theorem Enters.fails (h : v.Enters number w) {e : SwarmError} {sw : RunState}
    (hfail : w.result = .error e sw) : ∃ su : RunState,
      v.result = .error (.agent ⟨w.settings.name, e.message⟩)
        ⟨sw.world.setMemory number sw.memory, su.memory, su.exchanges ++
          [⟨w.settings.name, w.order.task, w.order.image,
            .error ⟨w.settings.name, e.message⟩⟩]⟩ := by
  obtain ⟨su, hstart, hcomes⟩ := h.comes
  have hfind : Table.lookup w.settings.name v.crew =
      some (respondOf number w.settings w.crew) := by
    rw [crew, lookup_crewOf_eq_find?, h.serves, Option.map_some, Agent.respond, crew]
  have hrespond : respondOf number w.settings w.crew w.order.task v.order.image su.world =
      .error ⟨w.settings.name, e.message⟩ (sw.world.setMemory number sw.memory) := by
    rw [result, run, hstart, h.order] at hfail
    rw [respondOf, hfail]
  have himage : v.order.image = w.order.image := by rw [h.order]
  refine ⟨su, ?_⟩
  rw [← himage]
  exact hcomes.fails (callAgent_of_error hfind hrespond)

/-- Whatever it fails for, an errand has noted the calls that were answered. -/
theorem calls_of_fails {d : SwarmError} {su : RunState} (h : v.result = .error d su) :
    ∃ answered, ∃ failed : Option Exchange,
      su.exchanges = v.start.exchanges ++ (answered ++ failed.toList) ∧
        (∀ c ∈ answered, c.IsAnswered) ∧ (∀ c ∈ failed, ∃ a, d = .agent a ∧ c.outcome = .error a) ∧
        v.start.memory.journal.Grows (notesOf answered) su.memory.journal := by
  rw [result, run] at h
  cases hcheck : Flow.check v.crew.has v.settings.flow with
  | error e =>
    obtain ⟨st, hquiet, -, hrun⟩ := attempt_of_invalid v.settings v.crew v.order v.start hcheck
    cases hrun.symm.trans h
    refine ⟨[], none, ?_, by simp, by simp, hquiet.journal ▸ .nil _⟩
    rw [hquiet.exchanges]
    exact (List.append_nil _).symm
  | ok flow =>
    have htraced := attempt_traced hcheck v.order v.start
    rw [h] at htraced
    cases htraced with
    | @agentFailed a _ calls last hcourse hanswered hlast =>
      have hnote : notesOf [last] = [] := by
        simp [notesOf, Exchange.note?, Exchange.answer?, hlast]
      have hjournal := hcourse.journal
      rw [notesOf, List.filterMap_append] at hjournal
      change Journal.Grows _ (notesOf calls ++ notesOf [last]) _ at hjournal
      rw [hnote, List.append_nil] at hjournal
      refine ⟨calls, some last, hcourse.exchanges, hanswered, ?_, hjournal⟩
      rintro c ⟨⟩
      exact ⟨a, rfl, hlast⟩
    | @humanFailed a _ calls hcourse hanswered =>
      refine ⟨calls, none, ?_, hanswered, by simp, hcourse.journal⟩
      rw [hcourse.exchanges, Option.toList_none, List.append_nil]

/-! ### All levels -/

/-- If the errand at the bottom fails, so does every one around it. -/
theorem Descends.breaksOff {levels : List (Nat × Errand)} {bottom : Errand} {e : SwarmError}
    {sv : RunState} (h : v.Descends levels bottom) (hfail : bottom.result = .error e sv) :
    ∃ d su, v.BreaksOff levels e sv d su := by
  induction h with
  | here v =>
    refine ⟨e, sv, hfail, by simp, by simp, calls_of_fails hfail, attempt_of_error hfail, rfl, ?_⟩
    exact fun _ l hl => absurd hl List.not_mem_nil
  | @enter v w bottom number levels henter hrest ih =>
    obtain ⟨d, sw, hw⟩ := ih hfail
    obtain ⟨su, hv⟩ := henter.fails hw.result
    refine ⟨_, _, hv, ?_, ?_, calls_of_fails hv, attempt_of_error hv, hw.world, ?_⟩
    · have hmessage : (SwarmError.agent ⟨w.settings.name, d.message⟩).message =
          blame w.settings.name ++ d.message := rfl
      rw [hmessage, hw.message, List.map_cons, String.join_cons, String.append_assoc]
    · intro l hl
      rw [List.head?_cons, Option.mem_some_iff] at hl
      subst hl
      exact ⟨_, rfl, List.getLast?_concat⟩
    · intro hnodup l hl d' su' hl'
      rw [List.map_cons, List.nodup_cons] at hnodup
      rcases List.mem_cons.mp hl with rfl | hl
      · cases hw.result.symm.trans hl'
        exact World.memoryOf_setMemory ..
      · have hmem : l.1 ∈ levels.map Prod.fst := List.mem_map_of_mem hl
        have hne : l.1 ≠ number := fun heq => hnodup.1 (heq ▸ hmem)
        rw [World.memoryOf_setMemory_ne _ hne]
        exact hw.kept hnodup.2 l hl d' su' hl'

/-- From each of the levels, those below it lead down to the bottom. -/
theorem Descends.exists_lower {levels : List (Nat × Errand)} {bottom : Errand}
    (h : v.Descends levels bottom) :
    ∀ l ∈ levels, ∃ lower, l :: lower <:+ levels ∧ l.2.Descends lower bottom := by
  induction h with
  | here v => exact fun l hl => absurd hl List.not_mem_nil
  | @enter v w bottom number levels henter hrest ih =>
    intro l hl
    rcases List.mem_cons.mp hl with rfl | hl
    · exact ⟨levels, List.suffix_rfl, hrest⟩
    · obtain ⟨lower, hsuffix, hlower⟩ := ih l hl
      exact ⟨lower, hsuffix.trans (List.suffix_cons _ _), hlower⟩

end Errand

/-! ### What comes out at the top -/

/-- A text with a beginning that is not the beginning of the other is not the other. -/
theorem ne_of_head?_ne {start rest text : String} {c d : Char} (hc : start.toList.head? = some c)
    (hd : text.toList.head? = some d) (h : c ≠ d) : start ++ rest ≠ text := by
  rintro rfl
  rw [String.toList_append, List.head?_append, hc, Option.some_or] at hd
  exact h (Option.some.inj hd)

theorem AgentError.message_ne (e : AgentError) : e.message ≠ invalidFlowText := by
  rw [message, String.append_assoc, String.append_assoc]
  exact ne_of_head?_ne (by decide +kernel) (by decide +kernel) (by decide : 'A' ≠ 'I')

theorem SwarmError.message_human_ne (e : IoError) :
    (SwarmError.human e).message ≠ invalidFlowText :=
  ne_of_head?_ne (by decide +kernel) (by decide +kernel) (by decide : 'F' ≠ 'I')

namespace Session

/-- The errand on which a run of the session is. -/
def errand (x : Session) (order : Order) : Errand :=
  ⟨x.swarm.settings, x.swarm.roster.agents, order, x.start⟩

variable {x : Session} {order : Order}

theorem tryRun_of_fails {d : SwarmError} {su : RunState}
    (h : (x.errand order).result = .error d su) : x.tryRun order = (.error d, x.afterRun su) := by
  have hrun : attempt x.swarm.settings x.swarm.roster.crew order x.start = .error d su := h
  rw [tryRun, runTraced_eq, hrun]
  rfl

/-- The text of a run that fails is its message, unless its own flow is not valid. -/
theorem runWith_of_fails {d : SwarmError} {su : RunState}
    (h : (x.errand order).result = .error d su) :
    ((x.runWith order).1 = invalidFlowText ↔ ∃ e, d = .flow e) ∧
      ((x.runWith order).1 ≠ invalidFlowText → (x.runWith order).1 = d.message) := by
  have htry := tryRun_of_fails h
  cases attempt_eq_error_iff.mp h with
  | @flow e =>
    have htext : (x.runWith order).1 = invalidFlowText := by rw [runWith, htry]
    exact ⟨iff_of_true htext ⟨e, rfl⟩, fun hne => absurd htext hne⟩
  | @agent _ _ _ e =>
    have htext : (x.runWith order).1 = e.message := by
      rw [runWith, htry]
      rfl
    exact ⟨iff_of_false (htext ▸ e.message_ne) (by simp), fun _ => htext⟩
  | @human _ e =>
    have htext : (x.runWith order).1 = (SwarmError.human e).message := by rw [runWith, htry]
    exact ⟨iff_of_false (htext ▸ SwarmError.message_human_ne e) (by simp), fun _ => htext⟩

/-- If a run comes, through any levels of swarms that serve as agents, to a run that
fails, it fails. Its message names the levels on the way, the outermost first. As a text
it is the same, unless the run that failed is this one itself and its flow is not valid.
The run breaks off at every level. -/
theorem tryRun_breaks_off (x : Session) (order : Order) {levels : List (Nat × Errand)}
    {bottom : Errand} {e : SwarmError} {sv : RunState}
    (h : (x.errand order).Descends levels bottom) (hfail : bottom.result = .error e sv) :
    Fault bottom.settings bottom.crew bottom.order.image bottom.run bottom.start e sv ∧
    (∃ d su, (x.errand order).BreaksOff levels e sv d su ∧
      x.tryRun order = (.error d, x.afterRun su)) ∧
    ((x.runWith order).1 = invalidFlowText ↔ levels = [] ∧ ∃ fe, e = .flow fe) ∧
    ((x.runWith order).1 ≠ invalidFlowText → (x.runWith order).1 =
      String.join (levels.map fun l => blame l.2.settings.name) ++ e.message) ∧
    ∀ l ∈ levels, ∃ lower, l :: lower <:+ levels ∧ l.2.Descends lower bottom ∧
      ∃ d su, l.2.BreaksOff lower e sv d su := by
  obtain ⟨d, su, hbreaks⟩ := h.breaksOff hfail
  obtain ⟨hinvalid, htext⟩ := runWith_of_fails hbreaks.result
  refine ⟨attempt_eq_error_iff.mp hfail, ⟨d, su, hbreaks, tryRun_of_fails hbreaks.result⟩, ?_,
    fun hne => hbreaks.message ▸ htext hne, fun l hl => ?_⟩
  · rw [hinvalid]
    cases h with
    | here =>
      cases hbreaks.result.symm.trans hfail
      simp
    | @enter _ w _ number lower _ _ =>
      obtain ⟨a, rfl, -⟩ := hbreaks.called (number, w) rfl
      simp
  · obtain ⟨lower, hsuffix, hlower⟩ := h.exists_lower l hl
    exact ⟨lower, hsuffix, hlower, hlower.breaksOff hfail⟩

/-! ### A flow that is not valid, two levels down -/

namespace Sample

/-- A swarm whose flow is not valid, in a world in which two agents were called. -/
def broken : Errand where
  settings := { (session "X" 1 []).swarm.settings with name := "N" }
  agents := [agent 2 "X" 5]
  order := ⟨"tA", some "i", []⟩
  start :=
    let w : World := { (session "" 1 []).world with
      supply := 2
      dealings := [
        .request ⟨3, .agent "C", "t", some "i"⟩, .request ⟨1, .agent "A", "t", some "i"⟩] }
    ⟨w, w.memoryOf 8, []⟩

/-- A swarm that has it for an agent, in a world in which one agent was called. -/
def around : Errand where
  settings := { (session "A -> N" 1 []).swarm.settings with name := "M" }
  agents := [agent 1 "A" 5, .swarm 8 broken.settings broken.agents]
  order := ⟨"t", some "i", []⟩
  start :=
    let w : World := { (session "" 1 []).world with
      supply := 1
      dealings := [.request ⟨3, .agent "C", "t", some "i"⟩] }
    ⟨w, w.memoryOf 9, []⟩

/-- A swarm that has the second one for an agent. -/
def outermost : Session :=
  session "C, M -> D" 1
    [agent 3 "C" 5, .swarm 9 around.settings around.agents, agent 4 "D" 5]

theorem around_enters : around.Enters 8 broken where
  serves := rfl
  order := rfl
  comes := by
    obtain ⟨⟨w, memory, exchanges⟩, -, hworld, hcheck⟩ :=
      checkFlow_quiet around.settings around.crew around.start
    obtain rfl : w = around.start.world := hworld
    have hflow : Flow.check around.crew.has around.settings.flow =
        .ok ⟨[⟨.agent "A", []⟩, ⟨.agent "N", []⟩]⟩ := by decide +kernel
    rw [hflow] at hcheck
    refine ⟨_, ?_, .right hcheck (.right (emitEvents_apply ..) (.right (drawNumber_apply _)
      (.left (.right (report_apply ..) (.left (.right rfl (.left
        (.right (report_apply ..) (.left .here)))))))))⟩
    rfl

theorem outermost_enters : (outermost.errand ⟨"t", some "i", []⟩).Enters 9 around where
  serves := rfl
  order := rfl
  comes := by
    let v := outermost.errand ⟨"t", some "i", []⟩
    obtain ⟨⟨w, memory, exchanges⟩, -, hworld, hcheck⟩ :=
      checkFlow_quiet v.settings v.crew v.start
    obtain rfl : w = v.start.world := hworld
    have hflow : Flow.check v.crew.has v.settings.flow =
        .ok ⟨[⟨.agent "C", [.agent "M"]⟩, ⟨.agent "D", []⟩]⟩ := by decide +kernel
    rw [hflow] at hcheck
    refine ⟨_, ?_, .right hcheck (.right (emitEvents_apply ..) (.right (drawNumber_apply _)
      (.left (.right (report_apply ..) (.left (.left
        (.right (report_apply ..) (.right rfl (.left (.right rfl (.left .here)))))))))))⟩
    rfl

end Sample

/-- The flow of the innermost swarm has no arrow. Its error comes out as a text, not as
that of a flow that is not valid. -/
theorem tryRun_breaks_off_two_levels :
    let order : Order := ⟨"t", some "i", []⟩
    let levels := [(9, Sample.around), (8, Sample.broken)]
    (Sample.outermost.errand order).Descends levels Sample.broken ∧
      (∃ d su sv, (Sample.outermost.errand order).BreaksOff levels
        (.flow .missingSeparator) sv d su) ∧
      (Sample.outermost.runWith order).1 = "Agent 'M' failed: Agent 'N' failed: " ++
        "Flow must include '->' to denote the direction of the task." := by
  intro order levels
  have hdescends : (Sample.outermost.errand order).Descends levels Sample.broken :=
    .enter Sample.outermost_enters (.enter Sample.around_enters (.here Sample.broken))
  have hflow : Flow.check Sample.broken.crew.has Sample.broken.settings.flow =
      .error .missingSeparator := by decide +kernel
  obtain ⟨sv, -, -, hfail⟩ := attempt_of_invalid Sample.broken.settings Sample.broken.crew
    Sample.broken.order Sample.broken.start hflow
  obtain ⟨-, ⟨d, su, hbreaks, -⟩, hinvalid, htext, -⟩ :=
    tryRun_breaks_off Sample.outermost order hdescends hfail
  have hnotInvalid : (Sample.outermost.runWith order).1 ≠ invalidFlowText :=
    fun heq => absurd (hinvalid.mp heq).1 (List.cons_ne_nil _ _)
  refine ⟨hdescends, ⟨d, su, sv, hbreaks⟩, (htext hnotInvalid).trans ?_⟩
  decide +kernel

end Session

end Relay
