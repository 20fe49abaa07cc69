import Relay.Proofs.Json.Configurations
import Relay.Swarm

/-!
# Swarms built from a configuration

A swarm is built from a configuration and agents, or by a builder whose methods set one
field after the other and add agents in between. A configuration that is read from an
object holds what the members give, and so does that of a builder whose methods set the
same fields to the same values, in whatever order. Fields that are not given have the same
defaults in both. As a configuration is known by what it holds, the two builds are one.

## Main definitions

* `Builder.Call` — a call of a builder's method.

## Main statements

* `Builder.performAll_eq` — the configuration and the agents of a builder after calls.
* `Builder.ofConfig_eq_build` — the two ways to a swarm come to the same.
-/

namespace Relay.Builder

open Config (Setting)

/-! ### Calls of a builder's methods -/

/-- Sets a field to a value. -/
def set (b : Builder) : Setting → Builder
  | .id s => b.id s
  | .name s => b.name s
  | .description s => b.description s
  | .flow s => b.flow s
  | .maxLoops n => b.maxLoops n
  | .verbose enabled => b.verbose enabled
  | .humanInTheLoop enabled => b.humanInTheLoop enabled
  | .autosave enabled => b.autosave enabled
  | .directory s => b.directory s

theorem set_eq (b : Builder) (s : Setting) : b.set s = { b with config := s.put b.config } := by
  cases s <;> rfl

/-- A call of a builder's method. -/
inductive Call where
  | set (s : Setting)
  | addAgent (a : Agent)
  | addAgents (agents : List Agent)

namespace Call

/-- The field that is set, with its value. -/
def setting? : Call → Option Setting
  | .set s => some s
  | _ => none

/-- The agents that are added. -/
def agents : Call → List Agent
  | .set _ => []
  | .addAgent a => [a]
  | .addAgents agents => agents

end Call

/-- The builder after a call. -/
def perform (b : Builder) : Call → Builder
  | .set s => b.set s
  | .addAgent a => b.addAgent a
  | .addAgents agents => b.addAgents agents

/-- The builder after calls one after the other. -/
def performAll (b : Builder) (calls : List Call) : Builder := calls.foldl perform b

/-- The members of an object that give what the calls set. -/
def entriesOf (calls : List Call) : List Config.Entry :=
  (calls.filterMap Call.setting?).map .setting

theorem performAll_eq (b : Builder) (calls : List Call) :
    b.performAll calls =
      { b with
        config := (entriesOf calls).foldl (fun c e => e.put c) b.config
        agents := b.agents ++ calls.flatMap Call.agents } := by
  induction calls generalizing b with
  | nil => simp [performAll, entriesOf]
  | cons call calls ih =>
    have hcons : b.performAll (call :: calls) = (b.perform call).performAll calls := rfl
    rw [hcons, ih]
    cases call with
    | set s => simp [perform, set_eq, entriesOf, Call.setting?, Call.agents, Config.Entry.put]
    | addAgent a =>
      simp [perform, addAgent, entriesOf, List.filterMap_cons, Call.setting?, Call.agents]
    | addAgents agents =>
      simp [perform, addAgents_eq, entriesOf, List.filterMap_cons, Call.setting?, Call.agents]

theorem setting_mem_entriesOf {calls : List Call} {s : Setting} :
    Config.Entry.setting s ∈ entriesOf calls ↔ s ∈ calls.filterMap Call.setting? := by
  simp [entriesOf]

/-! ### The two ways to a swarm -/

variable {entries : List Config.Entry} {calls : List Call}

/-- What is read from the members of an object is what the calls set. -/
theorem ofEntries_entriesOf (honce : Config.Once entries)
    (hcalls : (calls.filterMap Call.setting?).Perm (entries.filterMap Config.Entry.setting?)) :
    Config.ofEntries (entriesOf calls) = Config.ofEntries entries := by
  have honce' : Config.Once (entriesOf calls) := by
    have hkeys : (entriesOf calls).filterMap Config.Entry.key? =
        (calls.filterMap Call.setting?).map Setting.key := by
      rw [entriesOf, List.filterMap_map, ← List.filterMap_eq_map]
      rfl
    rw [Config.Once, hkeys]
    exact (hcalls.map Setting.key).nodup_iff.mpr honce.settings
  refine Config.ofEntries_eq honce' honce fun s => ?_
  rw [setting_mem_entriesOf, hcalls.mem_iff, Config.mem_filterMap_setting?]

/-- Let the members of an object give some fields of a configuration, in any order and
however they are spelled, with any members besides that are no field's. Then the object is
read as a configuration that holds what is given, and the default in every other field. And
the swarm that is built from it and agents, or the error if it cannot be built, is the one of
a builder whose methods set the same fields, in whatever order, and add the same agents. -/
theorem ofConfig_eq_build {text : String} (htext : Config.IsText entries text.toList)
    (honce : Config.Once entries)
    (hcalls : (calls.filterMap Call.setting?).Perm (entries.filterMap Config.Entry.setting?))
    (w : World) :
    ∃ c, Config.ofJson text = .ok c ∧
      (∀ s : Setting, s.IsIn c ↔
        .setting s ∈ entries ∨ (∀ t, .setting t ∈ entries → t.key ≠ s.key) ∧ s.IsIn {}) ∧
      Swarm.ofConfig c (calls.flatMap Call.agents) w = (performAll {} calls).build w := by
  refine ⟨_, Config.ofJson_of_isText htext honce, Config.isIn_ofEntries honce, ?_⟩
  have hbuilder : (({} : Builder).withConfig (Config.ofEntries entries)).addAgents
      (calls.flatMap Call.agents) = performAll {} calls := by
    rw [addAgents_eq, performAll_eq, ← ofEntries_entriesOf honce hcalls]
    rfl
  rw [Swarm.ofConfig, hbuilder]

/-! #### An object with an escape -/

namespace Sample

open Json

/-- A name is escaped in part, there is no identifier, and a value is passed over. -/
def escaped : String :=
  " \x7b\"f\\u006cow\":\"A -> B\" ,\"id\" : null,\"x\":[\x7b\x7d,\"\\ud800\"],\"max_loops\":-2\x7d"

/-- The members of the object. -/
def members : List Config.Entry :=
  [.setting (.flow "A -> B"), .noId, .other "x" (by decide), .setting (.maxLoops (-2))]

/-- An agent that gives back its task. -/
def echo : Agent := .simple 0 "A" "" fun _ r => .ok (.text r.task)

/-- The same fields are set in another order. -/
def setters : List Call := [.addAgent echo, .set (.maxLoops (-2)), .set (.flow "A -> B")]

theorem isText_escaped : Config.IsText members escaped.toList := by
  have hblank : Spaces [' '] := by decide
  have hname : Spells ['f', '\\', 'u', '0', '0', '6', 'c', 'o', 'w'] ['f', 'l', 'o', 'w'] := by
    have hcode : IsHexQuad ['0', '0', '6', 'c'] 'l'.toNat :=
      isHexQuad_hexPair (show 108 < 256 by decide)
    have hrest : Spells ['o', 'w'] ['o', 'w'] := .plain (by decide) (.plain (by decide) .nil)
    exact .plain (by decide) (.long hcode hrest)
  have hflow : (Config.Entry.setting (.flow "A -> B")).IsText _ :=
    .mk hname spaces_nil spaces_nil (isLiteral_quote "A -> B")
  have hid : Config.Entry.noId.IsText _ := .mk (spells_escape _) hblank hblank rfl
  have hhalf : IsHexQuad ['d', '8', '0', '0'] (((13 * 16 + 8) * 16 + 0) * 16 + 0) :=
    .mk (by decide) (by decide) (by decide) (by decide)
  have hvalue : IsValue _ := .filled .list <|
    .cons spaces_nil .item (.empty .object spaces_nil) spaces_nil <|
      .last spaces_nil .item (.scalar (.literal (.long hhalf .nil))) spaces_nil
  have hother : (Config.Entry.other "x" (by decide)).IsText _ := isMember_quote hvalue
  have hloops : (Config.Entry.setting (.maxLoops (-2))).IsText _ := isMember_quote rfl
  have htext : Config.IsText members _ := .mk hblank
    (.filled <| .cons spaces_nil hflow hblank <| .cons spaces_nil hid spaces_nil <|
      .cons spaces_nil hother spaces_nil <| .last spaces_nil hloops spaces_nil) spaces_nil
  refine (congrArg (Config.IsText members) ?_).mp htext
  decide

end Sample

theorem ofConfig_eq_build_escaped :
    ∃ c, Config.ofJson Sample.escaped = .ok c ∧
      (∀ s : Setting, s.IsIn c ↔ .setting s ∈ Sample.members ∨
        (∀ t, .setting t ∈ Sample.members → t.key ≠ s.key) ∧ s.IsIn {}) ∧
      Swarm.ofConfig c [Sample.echo] {} =
        (((({} : Builder).addAgent Sample.echo).maxLoops (-2)).flow "A -> B").build {} := by
  have honce : Config.Once Sample.members := by decide
  have hcalls : (Sample.setters.filterMap Call.setting?).Perm
      (Sample.members.filterMap Config.Entry.setting?) := .swap ..
  exact ofConfig_eq_build Sample.isText_escaped honce hcalls {}

end Relay.Builder
