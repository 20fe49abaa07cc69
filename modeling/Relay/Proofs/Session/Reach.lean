import Relay.Proofs.Run.Reach
import Relay.Proofs.Session.Building
import Relay.Proofs.Session.Humans

/-!
# Agents that a flow can reach

An agent is registered under its name. If a flow can say the name, there is a valid flow that
has the agent called in every run. If not, the agent is never called, whatever flow is set:
every run is the same as if the agent were not registered. Among the names that no flow can
say is `H`. Where this word stands in a flow a human is asked, even if an agent has the name.

## Main definitions

* `Session.CallsAgent` — the agent is called in a run.
* `Session.CallsByName` — whom a run calls and deals with.
* `Session.withRoster` — the session with other agents.

## Main statements

* `Session.callsByName` — every run calls agents that a flow can name, and no others.
* `Session.runTraced_withRoster` — agents that no flow can name make no difference.
* `Session.exists_runHears_own` — how often humans are asked.
* `Session.called_iff_isName` — which agents are called.
-/

namespace Relay

/-- Each of the calls was answered, or failed, by the agent of the crew. -/
theorem Calls.exists_gives {crew : Crew} {w v : World} {es : List Exchange}
    (h : Calls crew w es v) {e : Exchange} (he : e ∈ es) : ∃ u z, crew.Gives e u z := by
  induction h with
  | nil _ => exact absurd he List.not_mem_nil
  | cons _ hgives _ ih =>
    rcases List.mem_cons.mp he with rfl | he
    · exact ⟨_, _, hgives⟩
    · exact ih he

namespace Flow

/-- The word stands for a human. -/
def saysHuman (w : Text.Word) : Bool := String.ofList w.name = humanName

/-- Each word `H` of a flow is a human in it, and there are no other humans in it. -/
theorem count_human_eq {text : String} {f : Flow} (h : parse text = .ok f)
    {words : List (List Text.Word)} (hwords : Spells words text.toList) :
    f.members.count .human = words.flatten.countP saysHuman := by
  obtain ⟨words', hwords', hmembers⟩ := parse_eq_ok_iff_spells.mp h
  obtain rfl := hwords.unique hwords'
  have hflat : f.members = words.flatten.map Text.Word.member := by
    rw [List.map_flatten, hmembers]
    rfl
  rw [hflat, List.count, List.countP_map]
  refine List.countP_congr fun w _ => ?_
  by_cases hw : String.ofList w.name = humanName <;>
    simp [saysHuman, Text.Word.member, Member.ofName, hw]

/-- A flow in which the agent of a name is called before the human. -/
def calling (name : String) : Flow := ⟨[⟨.agent name, []⟩, ⟨.human, []⟩]⟩

theorem members_calling (name : String) : (calling name).members = [.agent name, .human] := rfl

theorem agentNames_calling (name : String) : (calling name).agentNames = [name] := rfl

/-- If a flow can say the name at all, this one does. -/
theorem check_calling {registered : String → Bool} {name : String} (hname : IsName name)
    (hregistered : registered name) :
    check registered (calling name).text = .ok (calling name) := by
  have hwell : (calling name).WellFormed := by
    refine ⟨Nat.le_refl 2, fun m hm n hn => ?_⟩
    rw [members_calling] at hm
    rcases List.mem_pair.mp hm with rfl | rfl
    · exact Option.some.inj hn ▸ hname
    · exact nomatch hn
  refine check_eq_ok_iff.mpr ⟨hwell.parse_text, fun n hn => ?_, ?_⟩
  · rw [agentNames_calling] at hn
    exact List.mem_singleton.mp hn ▸ hregistered
  · simp [members_calling]

end Flow

namespace Session

/-- In the run, the agent is called: it is handed a task under its name, and the run goes by
what it gives back. -/
def CallsAgent (x : Session) (order : Order) (a : Agent) : Prop :=
  ∃ e ∈ (x.runTraced order).2.1, ∃ w v, Crew.Gives (crewOf [a]) e w v

/-- The run calls registered agents whose names can stand in a flow, and nobody else but
humans is dealt with besides, not even by the swarms among the agents. -/
structure CallsByName (x : Session) (order : Order) : Prop where
  made : Calls x.swarm.roster.crew x.world (x.runTraced order).2.1 (x.runTraced order).2.2.world
  names : ∀ e ∈ (x.runTraced order).2.1, Flow.IsName e.agent
  dealt : x.world.DealsByName (x.runTraced order).2.2.world

/-- The session with other agents. -/
def withRoster (x : Session) (r : Roster) : Session :=
  { x with swarm := { x.swarm with roster := r } }

theorem runTraced_exchanges (x : Session) (order : Order) : (x.runTraced order).2.1 =
    (stateOf (attempt x.swarm.settings x.swarm.roster.crew order x.start)).exchanges := by
  rw [runTraced_eq]
  cases attempt x.swarm.settings x.swarm.roster.crew order x.start <;> rfl

theorem exists_attempt_of_tryRun {x : Session} {order : Order} {text : String}
    (h : (x.tryRun order).1 = .ok text) :
    ∃ st, attempt x.swarm.settings x.swarm.roster.crew order x.start = .ok text st := by
  rw [tryRun, runTraced_eq] at h
  cases hrun : attempt x.swarm.settings x.swarm.roster.crew order x.start with
  | ok output st =>
    rw [hrun] at h
    exact ⟨st, by rw [Except.ok.inj h]⟩
  | error e st =>
    rw [hrun] at h
    cases h

/-- Every run calls agents that a flow can name, and no others. -/
theorem callsByName (x : Session) (order : Order) : x.CallsByName order := by
  obtain ⟨due, st, hnames, hcourse, hend⟩ := x.runTraced_course order
  refine ⟨by rw [hend]; exact hcourse.world, fun e he => ?_, ?_⟩
  · exact hnames e.agent (hcourse.due.subset (List.mem_map_of_mem he))
  · have hworld : (x.runTraced order).2.2.world = _ := x.tryRun_world order
    rw [hworld]
    refine attempt_dealsByName (fun name respond hname hfind => ?_) order x.start
    rw [Roster.lookup_crew] at hfind
    obtain ⟨a, ha, rfl⟩ := Option.map_eq_some_iff.mp hfind
    exact a.respond_dealsByName ((Roster.name_of_find? ha).symm ▸ hname)

/-- The agent of a name is called if a call is made under the name. -/
theorem callsAgent_iff {x : Session} {order : Order} {name : String} {a : Agent}
    (h : x.swarm.roster.find? name = some a) :
    x.CallsAgent order a ↔ ∃ e ∈ (x.runTraced order).2.1, e.agent = name := by
  have hname := Roster.name_of_find? h
  constructor
  · rintro ⟨e, he, -, -, respond, hfind, -⟩
    refine ⟨e, he, ?_⟩
    rw [crewOf, Table.lookup] at hfind
    split at hfind
    · next heq => rw [← heq, hname]
    · exact nomatch hfind
  · rintro ⟨e, he, rfl⟩
    obtain ⟨w, v, respond, hfind, hgives⟩ := (x.callsByName order).made.exists_gives he
    rw [Roster.lookup_crew, h] at hfind
    refine ⟨e, he, w, v, respond, ?_, hgives⟩
    rw [crewOf, Table.lookup, if_pos hname]
    exact hfind

/-- Agents that no flow can name make no difference to a run. -/
theorem runTraced_withRoster (x : Session) {r : Roster}
    (h : ∀ name, Flow.IsName name → r.find? name = x.swarm.roster.find? name) (order : Order) :
    (x.withRoster r).runTraced order =
      ((x.runTraced order).1, (x.runTraced order).2.1, (x.runTraced order).2.2.withRoster r) := by
  have hrun : attempt x.swarm.settings r.crew order =
      attempt x.swarm.settings x.swarm.roster.crew order :=
    attempt_eq_of_names fun name hname => by
      rw [Roster.lookup_crew, Roster.lookup_crew, h name hname]
  rw [runTraced_eq, runTraced_eq]
  change (x.withRoster r).resultOf (attempt x.swarm.settings r.crew order x.start) = _
  rw [hrun]
  cases attempt x.swarm.settings x.swarm.roster.crew order x.start <;> rfl

/-- In each loop a human replies to the run for each word `H` of its flow, until the run
fails. Other humans reply only to swarms that serve as agents. -/
theorem exists_runHears_own (x : Session) (order : Order) {words : List (List Text.Word)}
    (hwords : Flow.Spells words x.swarm.settings.flow.toList) :
    let due := x.swarm.settings.loops * words.flatten.countP Flow.saysHuman
    ∃ replies, RunHears (x, order) replies ∧ replies.countP Reply.isOwn ≤ due ∧
      ∀ text, (x.tryRun order).1 = .ok text → replies.countP Reply.isOwn = due := by
  intro due
  cases hcheck : Flow.check x.swarm.roster.crew.has x.swarm.settings.flow with
  | error e =>
    obtain ⟨st, hquiet, -, hrun⟩ := attempt_of_invalid x.swarm.settings _ order x.start hcheck
    refine ⟨[], runHears_of_hears (.silent ?_), Nat.zero_le due, fun text htext => ?_⟩
    · rw [hrun]
      exact hquiet.world.unasked
    · obtain ⟨st', hdone⟩ := exists_attempt_of_tryRun htext
      cases hrun.symm.trans hdone
  | ok flow =>
    obtain ⟨hparse, -, -⟩ := Flow.check_eq_ok_iff.mp hcheck
    obtain ⟨replies, hreplies, hle, hdone⟩ :=
      @attempt_asks x.swarm.settings x.swarm.roster.agents flow hcheck order x.start
    rw [Flow.count_human_eq hparse hwords] at hle hdone
    refine ⟨replies, runHears_of_hears hreplies, hle, fun text htext => ?_⟩
    obtain ⟨st, hrun⟩ := exists_attempt_of_tryRun htext
    exact hdone text st hrun

/-- If a flow can say the name of an agent, there is one with which the agent is called in
every run with a loop. -/
theorem callsAgent_calling {x : Session} {name : String} {a : Agent} (hname : Flow.IsName name)
    (ha : x.swarm.roster.find? name = some a) (hloops : 0 < x.swarm.settings.loops)
    (order : Order) : (x.setFlow (Flow.calling name).text).CallsAgent order a := by
  have hcontains : x.swarm.roster.crew.has name := by
    rw [Roster.has_crew, Roster.contains, Table.contains]
    exact Option.isSome_iff_exists.mpr ⟨a, ha⟩
  let y := x.setFlow (Flow.calling name).text
  have hcheck : Flow.check y.swarm.roster.crew.has y.swarm.settings.flow = _ :=
    Flow.check_calling hname hcontains
  refine (callsAgent_iff (x := y) ha).mpr ?_
  rw [runTraced_exchanges]
  exact exists_exchange_of_first hcheck hloops order y.start

/-- A flow that is valid for the agents can have a registered agent called exactly if its name
is not empty, has no white space at its ends, no comma and no arrow, and is not `H`; then there
is a flow with which every run with a loop calls it. Any other agent is never called, whatever
flow is set, and every run is what it is without the agent. All calls are made under names of
the one kind, also those of swarms that serve as agents. For the word `H` in the flow a human is
asked in each loop, until the run fails, whether there is an agent of this name or not. -/
theorem called_iff_isName {r : Roster} {name : String} {a : Agent} (ha : r.find? name = some a) :
    ((∃ flow, r.validate flow = .ok () ∧ ∃ (x : Session) (order : Order),
      x.swarm.roster = r ∧ (x.setFlow flow).CallsAgent order a) ↔ Flow.IsName name) ∧
    ((∃ flow, r.validate flow = .ok () ∧ ∀ (x : Session) (order : Order), x.swarm.roster = r →
      0 < x.swarm.settings.loops → (x.setFlow flow).CallsAgent order a) ↔ Flow.IsName name) ∧
    (¬ Flow.IsName name → ∀ (x : Session) (order : Order), x.swarm.roster = r →
      ¬ x.CallsAgent order a ∧
      let y := x.withRoster (r.erase name)
      y.runTraced order = ((x.runTraced order).1, (x.runTraced order).2.1,
        (x.runTraced order).2.2.withRoster (r.erase name))) ∧
    (∀ (x : Session) (order : Order), x.CallsByName order) ∧
    ¬ Flow.IsName humanName ∧
    ∀ (x : Session) (order : Order) (words : List (List Text.Word)),
      Flow.Spells words x.swarm.settings.flow.toList →
      let due := x.swarm.settings.loops * words.flatten.countP Flow.saysHuman
      ∃ replies, RunHears (x, order) replies ∧ replies.countP Reply.isOwn ≤ due ∧
        ∀ text, (x.tryRun order).1 = .ok text → replies.countP Reply.isOwn = due := by
  have hname_of {x : Session} {order : Order} (hr : x.swarm.roster = r)
      (hcalls : x.CallsAgent order a) : Flow.IsName name := by
    subst hr
    obtain ⟨e, he, hagent⟩ := (callsAgent_iff ha).mp hcalls
    exact hagent ▸ (x.callsByName order).names e he
  have hvalid (hname : Flow.IsName name) : r.validate (Flow.calling name).text = .ok () :=
    Roster.validate_eq_ok_iff.mpr
      ⟨_, Flow.check_calling hname (Option.isSome_iff_exists.mpr ⟨a, ha⟩)⟩
  have hcalled (hname : Flow.IsName name) (x : Session) (order : Order) (hr : x.swarm.roster = r)
      (hloops : 0 < x.swarm.settings.loops) :
      (x.setFlow (Flow.calling name).text).CallsAgent order a := by
    subst hr
    exact callsAgent_calling hname ha hloops order
  let x₁ : Session := (Sample.session "" 1 []).withRoster r
  refine ⟨⟨?_, fun hname => ?_⟩, ⟨?_, fun hname => ?_⟩, fun hname x order hr => ⟨?_, ?_⟩,
    callsByName, fun h => h.ne_human rfl, fun x order _ => x.exists_runHears_own order⟩
  · rintro ⟨flow, -, x, order, hr, hcalls⟩
    exact hname_of (x := x.setFlow flow) hr hcalls
  · exact ⟨_, hvalid hname, x₁, ⟨"", none, []⟩, rfl,
      hcalled hname x₁ _ rfl Nat.one_pos⟩
  · rintro ⟨flow, -, hcalls⟩
    exact hname_of (x := x₁.setFlow flow) rfl (hcalls x₁ ⟨"", none, []⟩ rfl Nat.one_pos)
  · exact ⟨_, hvalid hname, hcalled hname⟩
  · exact fun hcalls => hname (hname_of hr hcalls)
  · -- Under a name that a flow can say, there is the same agent without this one.
    refine x.runTraced_withRoster (fun other hother => ?_) order
    have hne : name ≠ other := fun heq => hname (heq ▸ hother)
    rw [Roster.find?_erase, if_neg hne, hr]

/-- One name starts like the end of an arrow and ends like the start of one, and there is a
blank in it. Its agent can be called. The agent with the name of the human cannot, and where
the flow says `H` a line is read. -/
theorem called_iff_isName_of_marks :
    let a := Sample.agent 1 "> -" 5
    let b := Sample.agent 2 "H" 5
    let r := Roster.ofList [a, b]
    let y := Sample.session "> - -> H" 1 [a, b]
    r.find? "> -" = some a ∧ r.find? "H" = some b ∧
      (∃ flow, r.validate flow = .ok () ∧ ∀ (x : Session) (order : Order), x.swarm.roster = r →
        0 < x.swarm.settings.loops → (x.setFlow flow).CallsAgent order a) ∧
      (∀ (x : Session) (order : Order), x.swarm.roster = r → ¬ x.CallsAgent order b) ∧
      ∃ replies, RunHears (y, { task := "t" }) replies ∧ replies.countP Reply.isOwn = 1 := by
  intro a b r y
  have ha : r.find? "> -" = some a := Roster.find?_ofList ..
  have hb : r.find? "H" = some b := Roster.find?_ofList ..
  have hname : Flow.IsName "> -" :=
    ⟨by decide, by rintro c ⟨⟩; decide, by rintro c ⟨⟩; decide, by decide, by decide, by decide⟩
  have hparse : Flow.parse y.swarm.settings.flow = .ok (Flow.calling "> -") := by decide
  obtain ⟨words, hwords, -⟩ := Flow.parse_eq_ok_iff_spells.mp hparse
  obtain ⟨-, hcan, -⟩ := called_iff_isName ha
  obtain ⟨-, -, hnever, -, hhuman, hasked⟩ := called_iff_isName hb
  obtain ⟨replies, hreplies, -, hdone⟩ := hasked y { task := "t" } words hwords
  rw [← Flow.count_human_eq hparse hwords, Flow.members_calling] at hdone
  exact ⟨ha, hb, hcan.mpr hname, fun x order hr => (hnever hhuman x order hr).1, replies, hreplies,
    hdone "hi" (by decide +kernel)⟩

end Session

end Relay
