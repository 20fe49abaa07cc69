import Relay.Proofs.Run.Apart
import Relay.Proofs.Session.Operation

/-!
# Sessions that differ in what nobody goes by

Two sessions may be apart by a difference, in their worlds, settings and agents. If the
same is done with both, or what the difference does not tell apart, then they give the
same back all along, and stay apart by no more than that. This holds from the building
of the swarms on.

## Main definitions

* `Roster.Apart`, `Session.Apart`, `Builder.Apart` — what is apart by a difference and
  no more.
* `Operation.Apart`, `Outcome.Apart` — what is done, and what is given back.

## Main statements

* `Session.Apart.perform`, `Session.Apart.performAll` — operations on both sessions.
* `Builder.Apart.build` — both swarms are built, or neither.
-/

namespace Relay

/-! ### Rosters -/

/-- The rosters have agents of the same names, which the difference does not tell apart. -/
def Roster.Apart (d : Difference) (r r' : Roster) : Prop :=
  ∀ name, Option.Rel (Agent.Apart d) (r.find? name) (r'.find? name)

/-- Tables that have the same names list them in the same order. -/
theorem Table.keys_eq {α β : Type} {t : Table α} {u : Table β}
    (h : ∀ name, t.contains name = u.contains name) : t.keys = u.keys := by
  have hmem (name : String) : name ∈ t.keys ↔ name ∈ u.keys := by
    rw [← contains_iff, ← contains_iff, h]
  have hperm : t.keys.Perm u.keys :=
    (List.perm_ext_iff_of_nodup (t.keys_sorted.imp String.ne_of_lt)
      (u.keys_sorted.imp String.ne_of_lt)).mpr hmem
  exact hperm.eq_of_pairwise (fun a b _ _ hab hba => absurd hba (String.lt_asymm hab))
    t.keys_sorted u.keys_sorted

namespace Roster.Apart

variable {d : Difference} {r r' : Roster}

theorem refl (d : Difference) (r : Roster) : r.Apart d r := fun name => by
  cases r.find? name with
  | none => exact .none
  | some a => exact .some (.refl d a)

theorem contains_eq (h : r.Apart d r') : r.contains = r'.contains := by
  funext name
  have hfound := h name
  change (r.find? name).isSome = (r'.find? name).isSome
  generalize r.find? name = found at hfound
  generalize r'.find? name = found' at hfound
  cases hfound <;> rfl

theorem names_eq (h : r.Apart d r') : r.names = r'.names :=
  Table.keys_eq fun name => congrFun h.contains_eq name

theorem isEmpty_eq (h : r.Apart d r') : r.isEmpty = r'.isEmpty := by
  have hnames (r : Roster) : r.isEmpty = r.names.isEmpty := List.isEmpty_map.symm
  rw [hnames, hnames, h.names_eq]

theorem crew (h : r.Apart d r') : r.crew.Apart d r'.crew := fun name => by
  have hfound := h name
  rw [Roster.lookup_crew, Roster.lookup_crew]
  generalize r.find? name = found at hfound
  generalize r'.find? name = found' at hfound
  cases hfound with
  | none => exact .none
  | some ha => exact .some ha.respond

theorem add (h : r.Apart d r') {a b : Agent} (hab : a.Apart d b) :
    (r.add a).Apart d (r'.add b) := fun name => by
  rw [Roster.find?_add, Roster.find?_add, hab.name_eq]
  split
  · exact .some hab
  · exact h name

theorem erase (h : r.Apart d r') (name : String) : (r.erase name).Apart d (r'.erase name) :=
  fun other => by
    rw [Roster.find?_erase, Roster.find?_erase]
    split
    · exact .none
    · exact h other

theorem addAll (h : r.Apart d r') {agents agents' : List Agent}
    (hagents : List.Forall₂ (Agent.Apart d) agents agents') :
    (r.addAll agents).Apart d (r'.addAll agents') := by
  induction hagents generalizing r r' with
  | nil => exact h
  | cons hab _ ih => exact ih (h.add hab)

end Roster.Apart

/-! ### Sessions -/

/-- What is done is the same, but for agents that are added, which the difference does
not tell apart, and for worlds that others leave behind, which are apart. -/
inductive Operation.Apart (d : Difference) : Operation → Operation → Prop
  | same (op : Operation) : Operation.Apart d op op
  | addAgent {a b : Agent} (h : a.Apart d b) : Operation.Apart d (.addAgent a) (.addAgent b)
  | meanwhile {w v : World} (h : w.Apart d v) : Operation.Apart d (.meanwhile w) (.meanwhile v)

/-- The same is given back, but for an agent that is, which the difference does not tell
apart. -/
inductive Outcome.Apart (d : Difference) : Outcome → Outcome → Prop
  | same (outcome : Outcome) : Outcome.Apart d outcome outcome
  | removed {a b : Agent} (h : a.Apart d b) :
      Outcome.Apart d (.removed (.ok a)) (.removed (.ok b))

/-- The sessions are the same, but for what the difference does not tell apart. -/
structure Session.Apart (d : Difference) (x y : Session) : Prop where
  world : x.world.Apart d y.world
  settings : d.settings x.swarm.settings y.swarm.settings
  roster : x.swarm.roster.Apart d y.swarm.roster
  memory : x.swarm.memory = y.swarm.memory

namespace Session.Apart

variable {d : Difference} {x y : Session}

theorem announce (h : x.Apart d y) (notice : Notice) :
    (x.announce notice).Apart d (y.announce notice) :=
  { h with world := h.world.emitAll (d.events_notice h.settings h.world.events notice) }

theorem runTraced (h : x.Apart d y) (order : Order) :
    (x.runTraced order).1 = (y.runTraced order).1 ∧
      List.Forall₂ (Exchange.Apart d) (x.runTraced order).2.1 (y.runTraced order).2.1 ∧
      (x.runTraced order).2.2.Apart d (y.runTraced order).2.2 := by
  obtain ⟨outcome, st, su, hend, hx, hy⟩ := runTraced_of_together
    (attempt_apart h.settings h.roster.crew order x.start y.start ⟨h.world, h.memory, .nil⟩)
  rw [hx, hy]
  exact ⟨rfl, hend.exchanges, hend.world, h.settings, h.roster, hend.memory⟩

theorem runAlike (d : Difference) : RunAlike (Session.Apart d) where
  name_eq h := (d.akin h.settings).name
  announce h := h.announce
  tryRun h order :=
    have ⟨houtcome, _, hend⟩ := h.runTraced order
    ⟨houtcome, hend⟩

theorem setFlow (h : x.Apart d y) (flow : String) : (x.setFlow flow).Apart d (y.setFlow flow) := by
  have hset : Session.Apart d
      { x with swarm := { x.swarm with settings := { x.swarm.settings with flow := flow } } }
      { y with swarm := { y.swarm with settings := { y.swarm.settings with flow := flow } } } :=
    { h with settings := d.settings_flow h.settings flow }
  exact hset.announce (.flowSet flow)

theorem addAgent (h : x.Apart d y) {a b : Agent} (hab : a.Apart d b) :
    (x.addAgent a).Apart d (y.addAgent b) := by
  rw [Session.addAgent, Session.addAgent, hab.name_eq]
  have hannounced := h.announce (.agentAdded b.name)
  exact { hannounced with roster := hannounced.roster.add hab }

theorem removeAgent (h : x.Apart d y) (name : String) :
    Outcome.Apart d (.removed (x.removeAgent name).1) (.removed (y.removeAgent name).1) ∧
      (x.removeAgent name).2.Apart d (y.removeAgent name).2 := by
  have hfound := h.roster name
  rw [Session.removeAgent, Session.removeAgent, Roster.remove, Roster.remove]
  generalize x.swarm.roster.find? name = found at hfound
  generalize y.swarm.roster.find? name = found' at hfound
  cases hfound with
  | none => exact ⟨.same _, h⟩
  | some hab =>
    have hremoved : Session.Apart d
        { x with swarm := { x.swarm with roster := x.swarm.roster.erase name } }
        { y with swarm := { y.swarm with roster := y.swarm.roster.erase name } } :=
      { h with roster := h.roster.erase name }
    exact ⟨.removed hab, hremoved.announce (.agentRemoved name)⟩

theorem validateFlow (h : x.Apart d y) :
    EndAlike (Session.Apart d) x.validateFlow y.validateFlow := by
  rw [Session.validateFlow, Session.validateFlow, h.memory, h.roster.contains_eq,
    (d.akin h.settings).flow]
  obtain ⟨checked, readings⟩ :=
    y.swarm.memory.readings.check y.swarm.roster.contains y.swarm.settings.flow
  have hread : Session.Apart d
      { x with swarm := { x.swarm with memory := { y.swarm.memory with readings := readings } } }
      { y with swarm := { y.swarm with memory := { y.swarm.memory with readings := readings } } } :=
    { h with memory := rfl }
  cases checked with
  | error e => exact ⟨rfl, hread⟩
  | ok flow => exact ⟨rfl, hread.announce .flowValid⟩

/-- What is done with both sessions gives the same back, and they stay apart by no more
than before. -/
theorem perform (h : x.Apart d y) {op op' : Operation} (hop : op.Apart d op') :
    (x.outcome op).Apart d (y.outcome op') ∧ (x.perform op).Apart d (y.perform op') := by
  cases hop with
  | addAgent hab => exact ⟨.same _, h.addAgent hab⟩
  | meanwhile hw => exact ⟨.same _, hw, h.settings, h.roster, h.memory⟩
  | same =>
    by_cases hop : op.IsRun
    · obtain ⟨houtcome, hend⟩ := (runAlike d).perform h hop
      exact ⟨houtcome ▸ .same _, hend⟩
    cases op with
    | setFlow flow => exact ⟨.same _, h.setFlow flow⟩
    | addAgent a => exact ⟨.same _, h.addAgent (.refl d a)⟩
    | removeAgent name => exact h.removeAgent name
    | validateFlow =>
      obtain ⟨hchecked, hend⟩ := h.validateFlow
      have houtcome : x.outcome .validateFlow = y.outcome .validateFlow :=
        congrArg Outcome.checked hchecked
      exact ⟨houtcome ▸ .same _, hend⟩
    | track agent text =>
      exact ⟨.same _, { h with memory := congrArg (Memory.track · agent text) h.memory }⟩
    | meanwhile w => exact ⟨.same _, .refl d w, h.settings, h.roster, h.memory⟩
    | _ => exact absurd trivial hop

theorem performAll (h : x.Apart d y) {ops ops' : List Operation}
    (hops : List.Forall₂ (Operation.Apart d) ops ops') :
    List.Forall₂ (Outcome.Apart d) (x.outcomes ops) (y.outcomes ops') ∧
      (x.performAll ops).Apart d (y.performAll ops') := by
  induction hops generalizing x y with
  | nil => exact ⟨.nil, h⟩
  | cons hop _ ih =>
    obtain ⟨houtcome, hend⟩ := h.perform hop
    obtain ⟨houtcomes, hlast⟩ := ih hend
    exact ⟨.cons houtcome houtcomes, hlast⟩

end Session.Apart

/-! ### Building -/

/-- The swarms that are to be built are the same, but for what the difference does not
tell apart. -/
structure Builder.Apart (d : Difference) (b b' : Builder) : Prop where
  id : b.config.id = b'.config.id
  settings : ∀ id, d.settings (b.settings id) (b'.settings id)
  agents : List.Forall₂ (Agent.Apart d) b.agents b'.agents

/-- Both swarms were built, or the same stood in the way of both. -/
inductive Difference.Built (d : Difference) :
    EStateM.Result SwarmError World Swarm → EStateM.Result SwarmError World Swarm → Prop
  | ok {w v : World} {swarm swarm' : Swarm} (h : Session.Apart d ⟨w, swarm⟩ ⟨v, swarm'⟩) :
      Built d (.ok swarm w) (.ok swarm' v)
  | error {e : SwarmError} {w v : World} (h : w.Apart d v) : Built d (.error e w) (.error e v)

namespace Builder.Apart

variable {d : Difference} {b b' : Builder} {w v : World}

theorem drawId (h : b.Apart d b') (hworld : w.Apart d v) :
    ∃ id w' v', b.drawId w = .ok id w' ∧ b'.drawId v = .ok id v' ∧ w'.Apart d v' := by
  rw [Builder.drawId, Builder.drawId, h.id]
  cases b'.config.id with
  | some id => exact ⟨id, w, v, rfl, rfl, hworld⟩
  | none =>
    refine ⟨identifier v.supply, w.draw.2, v.draw.2, ?_, rfl, hworld.draw_snd⟩
    rw [← hworld.supply]
    rfl

theorem build (h : b.Apart d b') (hworld : w.Apart d v) : d.Built (b.build w) (b'.build v) := by
  obtain ⟨id, w₁, v₁, hid, hid', hdrawn⟩ := h.drawId hworld
  have hsettings := h.settings id
  have hroster : (Roster.ofList b.agents).Apart d (Roster.ofList b'.agents) :=
    (Roster.Apart.refl d .empty).addAll h.agents
  have hreport {w v : World} (hworld : w.Apart d v) (notice : Notice) :
      World.Apart d (w.emitAll ((b.settings id).eventsOf notice))
        (v.emitAll ((b'.settings id).eventsOf notice)) :=
    hworld.emitAll (d.events_notice hsettings hworld.events notice)
  have hchecking := hreport hdrawn .checking
  have hname : (b.settings id).name = (b'.settings id).name := (d.akin hsettings).name
  rw [Builder.build_apply hid, Builder.build_apply hid']
  simp only [hroster.isEmpty_eq, hroster.contains_eq, hroster.names_eq, hname,
    (d.akin hsettings).flow]
  split
  · exact .error hchecking
  split
  · exact .error hchecking
  obtain ⟨checked, readings⟩ :=
    Flow.Readings.empty.check (Roster.ofList b'.agents).contains (b'.settings id).flow
  cases checked with
  | error e => exact .error hchecking
  | ok flow =>
    exact .ok ⟨hreport (hreport hchecking .flowValid) (.initialized _), hsettings, hroster, rfl⟩

end Builder.Apart

end Relay
