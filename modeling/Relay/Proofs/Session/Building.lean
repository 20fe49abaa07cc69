import Relay.Proofs.Journal.Growth
import Relay.Proofs.Session.Operation
import Relay.Proofs.Session.Refusal

/-!
# What a build comes to

A build fails if there is no agent, or else if the flow is blank, or else if the flow is
not valid for the agents, and for no other reason. Otherwise the swarm has what was
configured, the agents that were added last under their names, and empty logs.

Agents may be added to a swarm, also in place of others, and the swarm may be run in any
form: its flow stays valid. So no run of it is refused, until the flow is replaced or an
agent is removed.

## Main definitions

* `Builder.Built` — the swarm that a successful build gives.
* `Builder.Ends` — how a build ends.
* `Operation.KeepsFlow` — the flow is not replaced and no agent is removed.

## Main statements

* `Roster.find?_ofList`, `Roster.mem_names_ofList` — the agents of a list under their names.
* `Flow.check_mono` — a flow stays valid if more agents are registered.
* `Session.perform_of_keepsFlow` — what such operations do to a swarm.
* `Builder.build_exact` — builds, and what is never refused after them.
-/

namespace Relay

/-! ### Agents added one after the other -/

namespace Roster

/-- Of several agents with one name, the one that was added last is found. -/
theorem find?_addAll (r : Roster) (agents : List Agent) (name : String) :
    (r.addAll agents).find? name = (agents.reverse.find? (·.name = name)).or (r.find? name) := by
  induction agents generalizing r with
  | nil => simp [addAll]
  | cons a rest ih =>
    have hcons : r.addAll (a :: rest) = (r.add a).addAll rest := rfl
    rw [hcons, ih, find?_add, List.reverse_cons, List.find?_append]
    by_cases ha : a.name = name
    · simp [ha]
    · simp [ha]

theorem find?_ofList (agents : List Agent) (name : String) :
    (ofList agents).find? name = agents.reverse.find? (·.name = name) := by
  rw [ofList, find?_addAll]
  exact Option.or_none

/-- The names listed are those of the agents. -/
theorem mem_names_ofList (agents : List Agent) (name : String) :
    name ∈ (ofList agents).names ↔ ∃ a ∈ agents, a.name = name := by
  have hcontains : name ∈ (ofList agents).names ↔ ((ofList agents).find? name).isSome :=
    Table.contains_iff.symm
  rw [hcontains, find?_ofList, List.find?_isSome]
  simp

theorem isEmpty_ofList (agents : List Agent) : (ofList agents).isEmpty ↔ agents = [] := by
  have hnames : (ofList agents).isEmpty ↔ (ofList agents).names = [] := by
    rw [isEmpty, Table.isEmpty, List.isEmpty_iff]
    exact List.map_eq_nil_iff.symm
  rw [hnames, List.eq_nil_iff_forall_not_mem, List.eq_nil_iff_forall_not_mem]
  constructor
  · intro h a ha
    exact h a.name ((mem_names_ofList agents a.name).mpr ⟨a, ha, rfl⟩)
  · intro h name hname
    obtain ⟨a, ha, -⟩ := (mem_names_ofList agents name).mp hname
    exact h a ha

end Roster

/-! ### How a build ends -/

/-- The outcome of a computation. -/
def outcomeOf {ε σ α : Type} : EStateM.Result ε σ α → Except ε α
  | .ok a _ => .ok a
  | .error e _ => .error e

namespace Builder

/-- The flow is empty, or nothing but white space. -/
def FlowBlank (b : Builder) : Prop := ∀ c ∈ b.config.flow.toList, Text.isBlank c

/-- What a validation of the configured flow against the added agents comes to. -/
def verdict (b : Builder) : Except FlowError Unit :=
  (Roster.ofList b.agents).validate b.config.flow

/-- The swarm that a successful build gives. -/
structure Built (b : Builder) (swarm : Swarm) : Prop where
  /-- The settings are those configured, with the configured identifier if there is one. -/
  settings : ∃ id, (∀ i ∈ b.config.id, i = id) ∧ swarm.settings = b.settings id
  /-- The flow is run as often as configured, and once if that is not positive. -/
  loops : swarm.settings.loops =
    if 0 < b.config.maxLoops then b.config.maxLoops.toInt.toNat else 1
  /-- The names are in strict order, and they are those of the agents added. -/
  names_sorted : swarm.roster.names.Pairwise (· < ·)
  mem_names : ∀ name, name ∈ swarm.roster.names ↔ ∃ a ∈ b.agents, a.name = name
  /-- Under each name is the agent that was added last with it. -/
  find? : ∀ name, swarm.roster.find? name = b.agents.reverse.find? (·.name = name)
  history : ∀ name, swarm.journal.history.get name = []
  conversation : swarm.journal.conversation.messages = []

/-- How a build ends. -/
inductive Ends (b : Builder) : Except SwarmError Swarm → Prop
  | noAgents (hagents : b.agents = []) : b.Ends (.error .noAgents)
  | noFlow (hagents : b.agents ≠ []) (hblank : b.FlowBlank) : b.Ends (.error .noFlow)
  | invalid {e : FlowError} (hagents : b.agents ≠ []) (hblank : ¬ b.FlowBlank)
      (h : b.verdict = .error e) : b.Ends (.error (.flow e))
  | built {swarm : Swarm} (hagents : b.agents ≠ []) (hblank : ¬ b.FlowBlank)
      (h : b.verdict = .ok ()) (hbuilt : b.Built swarm) : b.Ends (.ok swarm)

theorem loops_eq (c : Config) :
    c.loops = if 0 < c.maxLoops then c.maxLoops.toInt.toNat else 1 := by
  rw [Config.loops]
  split
  · next h =>
    have hpos : 0 < c.maxLoops.toInt := Int32.lt_iff_toInt_lt.mp h
    omega
  · next h =>
    have hle : c.maxLoops.toInt ≤ 0 := by
      have hnot : ¬ (0 : Int32).toInt < c.maxLoops.toInt := fun hlt => h (Int32.lt_iff_toInt_lt.mpr hlt)
      simpa using hnot
    omega

theorem flowBlank_iff (b : Builder) : b.FlowBlank ↔ Text.allBlank b.config.flow.toList := by
  rw [FlowBlank, Text.allBlank_iff, Text.trim_eq_nil_iff]

/-- A swarm that was built with these settings has empty logs. -/
theorem built_of_settings {b : Builder} {id : String} (hconfigured : ∀ i ∈ b.config.id, i = id)
    (readings : Flow.Readings) :
    let s := b.settings id
    let roster := Roster.ofList b.agents
    b.Built ⟨s, roster, ⟨.new s.name roster.names, readings⟩⟩ where
  settings := ⟨id, hconfigured, rfl⟩
  loops := loops_eq b.config
  names_sorted := Table.keys_sorted _
  mem_names := Roster.mem_names_ofList b.agents
  find? := Roster.find?_ofList b.agents
  history := History.get_ofNames _
  conversation := rfl

/-- A build ends in one of four ways. -/
theorem build_ends (b : Builder) (w : World) : b.Ends (outcomeOf (b.build w)) := by
  obtain ⟨id, w', hid, hconfigured⟩ :
      ∃ id w', b.drawId w = .ok id w' ∧ ∀ i ∈ b.config.id, i = id := by
    rw [drawId]
    cases b.config.id with
    | none => exact ⟨_, _, rfl, by simp⟩
    | some id => exact ⟨id, w, rfl, by simp⟩
  have hsettings : (b.settings id).flow = b.config.flow := rfl
  rw [build_apply hid]
  simp only [hsettings]
  by_cases hagents : b.agents = []
  · rw [if_pos ((Roster.isEmpty_ofList b.agents).mpr hagents)]
    exact .noAgents hagents
  rw [if_neg fun h => hagents ((Roster.isEmpty_ofList b.agents).mp h)]
  by_cases hblank : b.FlowBlank
  · rw [if_pos (b.flowBlank_iff.mp hblank)]
    exact .noFlow hagents hblank
  rw [if_neg fun h => hblank (b.flowBlank_iff.mpr h)]
  have hcheck := Flow.Readings.check_fst (Roster.ofList b.agents).contains .empty b.config.flow
  generalize Flow.Readings.empty.check (Roster.ofList b.agents).contains b.config.flow = r at hcheck ⊢
  obtain ⟨checked, readings⟩ := r
  cases checked with
  | error e => exact .invalid hagents hblank (Roster.validate_eq_error_iff.mpr hcheck.symm)
  | ok flow =>
    exact .built hagents hblank (Roster.validate_eq_ok_iff.mpr ⟨flow, hcheck.symm⟩)
      (built_of_settings hconfigured readings)

namespace Ends

variable {b : Builder} {outcome : Except SwarmError Swarm}

/-- Which of the ways it is depends on the agents, then on the flow, and then on the
verdict. -/
theorem outcome_iff (h : b.Ends outcome) :
    (outcome = .error .noAgents ↔ b.agents = []) ∧
      (b.agents ≠ [] → (outcome = .error .noFlow ↔ b.FlowBlank)) ∧
      (b.agents ≠ [] → ¬ b.FlowBlank →
        ∀ e, outcome = .error (.flow e) ↔ b.verdict = .error e) ∧
      (b.agents ≠ [] → ¬ b.FlowBlank → b.verdict = .ok () →
        ∃ swarm, outcome = .ok swarm ∧ b.Built swarm) := by
  cases h with
  | noAgents hagents => simp [hagents]
  | noFlow hagents hblank => simp [hagents, hblank]
  | invalid hagents hblank h => simp [hagents, hblank, h]
  | built hagents hblank h hbuilt => simp [hagents, hblank, h, hbuilt]

end Ends

end Builder

/-! ### Flows that stay valid -/

/-- A flow stays valid if more agents are registered. -/
theorem Flow.check_mono {registered registered' : String → Bool} {text : String} {f : Flow}
    (hmore : ∀ name, registered name → registered' name) (h : check registered text = .ok f) :
    check registered' text = .ok f := by
  obtain ⟨hparse, hregistered, hnodup⟩ := check_eq_ok_iff.mp h
  exact check_eq_ok_iff.mpr
    ⟨hparse, fun name hname => hmore name (hregistered name hname), hnodup⟩

/-- The operation neither replaces the flow nor removes an agent. -/
def Operation.KeepsFlow : Operation → Prop
  | .setFlow _ => False
  | .removeAgent _ => False
  | _ => True

namespace Session

/-- The two sessions are one, of a swarm with these settings and agents. -/
def IsOf (s : Settings) (r : Roster) (x y : Session) : Prop :=
  x = y ∧ x.swarm.settings = s ∧ x.swarm.roster = r

/-- Runs in all forms leave the settings and the agents as they are. -/
theorem isOf_runAlike (s : Settings) (r : Roster) : RunAlike (IsOf s r) where
  name_eq h := by rw [h.1]
  announce := by
    rintro x _ ⟨rfl, hsettings, hroster⟩ notice
    exact ⟨rfl, hsettings, hroster⟩
  tryRun := by
    rintro x _ ⟨rfl, hsettings, hroster⟩ order
    refine ⟨rfl, rfl, ?_⟩
    rw [Session.tryRun, runTraced_eq]
    cases attempt x.swarm.settings x.swarm.roster.crew order x.start <;>
      exact ⟨hsettings, hroster⟩

/-- Such an operation keeps the settings, and no agent is gone after it. -/
theorem perform_of_keepsFlow (x : Session) {op : Operation} (h : op.KeepsFlow) :
    (x.perform op).swarm.settings = x.swarm.settings ∧
      ∀ name, x.swarm.roster.contains name → (x.perform op).swarm.roster.contains name := by
  by_cases hrun : op.IsRun
  · have hstart : IsOf x.swarm.settings x.swarm.roster x x := ⟨rfl, rfl, rfl⟩
    obtain ⟨-, -, hsettings, hroster⟩ := (isOf_runAlike _ _).perform hstart hrun
    exact ⟨hsettings, fun name hname => hroster ▸ hname⟩
  cases op with
  | setFlow flow => exact h.elim
  | addAgent a =>
    refine ⟨rfl, fun name hname => ?_⟩
    have hfind : (x.perform (.addAgent a)).swarm.roster.contains name =
        ((x.swarm.roster.add a).find? name).isSome := rfl
    rw [hfind, Roster.find?_add]
    split
    · rfl
    · exact hname
  | removeAgent name => exact h.elim
  | validateFlow =>
    obtain ⟨-, hsettings, hroster, -⟩ := x.validateFlow_snd
    exact ⟨hsettings, fun name hname => hroster ▸ hname⟩
  | track agent text => exact ⟨rfl, fun name hname => hname⟩
  | meanwhile w => exact ⟨rfl, fun name hname => hname⟩
  | _ => exact absurd trivial hrun

/-- So a valid flow stays valid. -/
theorem check_performAll {x : Session} {f : Flow} {ops : List Operation}
    (hops : ∀ op ∈ ops, op.KeepsFlow)
    (h : Flow.check x.swarm.roster.contains x.swarm.settings.flow = .ok f) :
    Flow.check (x.performAll ops).swarm.roster.contains (x.performAll ops).swarm.settings.flow =
      .ok f := by
  induction ops generalizing x with
  | nil => exact h
  | cons op ops ih =>
    obtain ⟨hop, hops⟩ := List.forall_mem_cons.mp hops
    obtain ⟨hsettings, hmore⟩ := x.perform_of_keepsFlow hop
    refine ih hops ?_
    rw [hsettings]
    exact Flow.check_mono hmore h

/-- A run along a valid flow is not refused. -/
theorem tryRun_ne_flow {x : Session} {f : Flow}
    (h : Flow.check x.swarm.roster.contains x.swarm.settings.flow = .ok f) (order : Order)
    (e : FlowError) : (x.tryRun order).1 ≠ .error (.flow e) := by
  obtain ⟨-, hended⟩ := x.runTraced_of_valid order h
  intro hrefused
  have hended : Ended (x.runTraced order).2.1 (.error (.flow e)) := hrefused ▸ hended
  exact nomatch hended

end Session

/-! ### Builds and what comes after them -/

/-- The flow of a swarm that was built is valid for its agents. -/
theorem Builder.Built.check {b : Builder} {swarm : Swarm} (h : b.Built swarm)
    (hverdict : b.verdict = .ok ()) :
    ∃ f, Flow.check swarm.roster.contains swarm.settings.flow = .ok f := by
  obtain ⟨f, hf⟩ := Roster.validate_eq_ok_iff.mp hverdict
  obtain ⟨id, -, hsettings⟩ := h.settings
  have hcontains : swarm.roster.contains = (Roster.ofList b.agents).contains := by
    funext name
    have hfind : swarm.roster.find? name = (Roster.ofList b.agents).find? name := by
      rw [h.find?, Roster.find?_ofList]
    exact congrArg Option.isSome hfind
  rw [hcontains, hsettings]
  exact ⟨f, hf⟩

/-- A build fails without agents, and only then with that error; otherwise it fails with a
blank flow; otherwise with the error of the flow, if the flow is not valid for the agents;
and otherwise it gives a swarm as it was configured, with empty logs. Whatever is done then,
no run is refused because of the flow, unless the flow is replaced or an agent is removed. -/
theorem Builder.build_exact (b : Builder) (w : World) :
    let outcome := outcomeOf (b.build w)
    (outcome = .error .noAgents ↔ b.agents = []) ∧
    (b.agents ≠ [] → (outcome = .error .noFlow ↔ b.FlowBlank)) ∧
    (b.agents ≠ [] → ¬ b.FlowBlank →
      ∀ e, outcome = .error (.flow e) ↔ b.verdict = .error e) ∧
    (b.agents ≠ [] → ¬ b.FlowBlank → b.verdict = .ok () →
      ∃ swarm, outcome = .ok swarm ∧ b.Built swarm) ∧
    ∀ swarm v, b.build w = .ok swarm v → b.Built swarm ∧
      ∀ ops : List Operation, (∀ op ∈ ops, op.KeepsFlow) → ∀ order e,
        ((Session.performAll ⟨v, swarm⟩ ops).tryRun order).1 ≠ .error (.flow e) := by
  intro outcome
  have hends := b.build_ends w
  obtain ⟨hnoAgents, hnoFlow, hinvalid, hbuilt⟩ := hends.outcome_iff
  refine ⟨hnoAgents, hnoFlow, hinvalid, hbuilt, fun swarm v hbuild => ?_⟩
  rw [hbuild] at hends
  obtain _ | _ | _ | ⟨-, -, hverdict, hswarm⟩ := hends
  obtain ⟨f, hf⟩ := hswarm.check hverdict
  refine ⟨hswarm, fun ops hops order e => ?_⟩
  exact Session.tryRun_ne_flow (Session.check_performAll (x := ⟨v, swarm⟩) hops hf) order e

namespace Session

namespace Sample

/-- Two of the three agents have one name, and the number of loops is negative. -/
def replacing : Builder where
  config := { flow := "A -> B", maxLoops := -3 }
  agents := [agent 1 "B" 5, agent 2 "A" 5, agent 3 "B" 1]

/-- Runs of the swarm, and agents that are added, one of them in place of another. -/
def replacements : List Operation :=
  [.runBatch ["s", "t"], .addAgent (agent 4 "A" 0), .addAgent (agent 5 "C" 5), .run "u"]

/-- The names and the loops of the swarm as it is built, and the outcome of a run after all
that. -/
def replaced : Option (List String × Nat × Except SwarmError String) :=
  match replacing.build {} with
  | .error .. => none
  | .ok swarm v =>
    some (swarm.roster.names, swarm.settings.loops,
      ((performAll ⟨v, swarm⟩ replacements).tryRun { task := "v" }).1)

end Sample

/-- The agent that was added in place of another one always fails, but its flow is valid. -/
theorem build_exact_replacing :
    let b := Sample.replacing
    b.agents ≠ [] ∧ ¬ b.FlowBlank ∧ b.verdict = .ok () ∧
      (∀ op ∈ Sample.replacements, op.KeepsFlow) ∧
      (∃ swarm v, b.build {} = .ok swarm v ∧ b.Built swarm ∧
        ∀ e, ((performAll ⟨v, swarm⟩ Sample.replacements).tryRun { task := "v" }).1 ≠
          .error (.flow e)) ∧
      Sample.replaced = some (["A", "B"], 1, .error (.agent ⟨"A", "enough"⟩)) := by
  intro b
  have hagents : b.agents ≠ [] := by simp [b, Sample.replacing]
  have hblank : ¬ b.FlowBlank := by
    intro h
    have hmem : 'A' ∈ b.config.flow.toList := by simp [b, Sample.replacing]
    exact absurd (h 'A' hmem) (by decide)
  have hverdict : b.verdict = .ok () := by decide +kernel
  have hops : ∀ op ∈ Sample.replacements, op.KeepsFlow := by
    simp [Sample.replacements, Operation.KeepsFlow]
  obtain ⟨-, -, -, hsucceeds, hafter⟩ := b.build_exact {}
  obtain ⟨swarm, hswarm, -⟩ := hsucceeds hagents hblank hverdict
  refine ⟨hagents, hblank, hverdict, hops, ?_, by decide +kernel⟩
  cases hbuild : b.build {} with
  | error e v => exact absurd hswarm (by simp [hbuild, outcomeOf])
  | ok swarm v =>
    obtain ⟨hbuilt, hnever⟩ := hafter swarm v hbuild
    exact ⟨swarm, v, rfl, hbuilt, hnever _ hops _⟩

end Session

end Relay
