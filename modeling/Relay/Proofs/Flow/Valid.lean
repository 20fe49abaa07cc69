import Mathlib.Data.List.Find
import Mathlib.Data.List.Nodup
import Relay.Proofs.Flow.Joined
import Relay.Flow.Validity

/-!
# What a valid flow is

A flow is valid when every agent that it names is registered and no member
occurs in it twice. So no agent is named twice either.

## Main statements

* `Flow.validate_eq_ok_iff`, `Flow.check_eq_ok_iff` — which flows are valid.
* `Flow.nodup_agentNames` — a valid flow names every agent once.
* `Flow.check_congr` — only the names in the flow are looked up.
-/

namespace Relay

theorem firstRepeat?_eq_none_iff {seen ms : List Member} :
    firstRepeat? seen ms = none ↔ ms.Nodup ∧ ∀ m ∈ ms, m ∉ seen := by
  induction ms generalizing seen with
  | nil => simp [firstRepeat?]
  | cons m rest ih =>
    rw [firstRepeat?]
    split
    · next hm => simp [hm]
    · next hm =>
      rw [ih, List.nodup_cons, List.forall_mem_cons]
      constructor
      · rintro ⟨hnodup, hfresh⟩
        refine ⟨⟨fun hrest => hfresh m hrest List.mem_cons_self, hnodup⟩, hm, fun x hx hseen => ?_⟩
        exact hfresh x hx (List.mem_cons_of_mem m hseen)
      · rintro ⟨⟨hrest, hnodup⟩, -, hfresh⟩
        refine ⟨hnodup, fun x hx hmem => ?_⟩
        rcases List.mem_cons.mp hmem with rfl | hseen
        · exact hrest hx
        · exact hfresh x hx hseen

namespace Flow

variable {registered : String → Bool} {f : Flow}

theorem mem_agentNames_iff {name : String} :
    name ∈ f.agentNames ↔ Member.agent name ∈ f.members := by
  rw [agentNames, List.mem_filterMap]
  constructor
  · rintro ⟨m, hm, hagent⟩
    cases m with
    | agent n => exact Option.some.inj hagent ▸ hm
    | human => exact nomatch hagent
  · exact fun h => ⟨_, h, rfl⟩

theorem find?_isUnknown_eq_none_iff :
    f.members.find? (isUnknown registered) = none ↔ ∀ name ∈ f.agentNames, registered name := by
  rw [List.find?_eq_none]
  constructor
  · intro h name hname
    simpa [isUnknown] using h _ (mem_agentNames_iff.mp hname)
  · intro h m hm
    cases m with
    | agent name => simpa [isUnknown] using h name (mem_agentNames_iff.mpr hm)
    | human => simp [isUnknown]

/-- A flow is valid exactly when its agents are registered and no member is repeated. -/
theorem validate_eq_ok_iff :
    f.validate registered = .ok () ↔
      (∀ name ∈ f.agentNames, registered name) ∧ f.members.Nodup := by
  rw [validate, ← find?_isUnknown_eq_none_iff]
  have hrepeat : firstRepeat? [] f.members = none ↔ f.members.Nodup := by
    simp [firstRepeat?_eq_none_iff]
  cases hunknown : f.members.find? (isUnknown registered) with
  | some m => simp
  | none =>
    rw [← hrepeat]
    cases firstRepeat? [] f.members <;> simp

/-- A text writes down a valid flow exactly when it writes down the flow, the
agents are registered, and no member is repeated. -/
theorem check_eq_ok_iff {text : String} :
    check registered text = .ok f ↔
      parse text = .ok f ∧ (∀ name ∈ f.agentNames, registered name) ∧ f.members.Nodup := by
  rw [← validate_eq_ok_iff]
  cases hparse : parse text with
  | error e => simp [check, hparse]
  | ok g =>
    cases hvalid : g.validate registered with
    | error e =>
      have herror : check registered text = .error e := by simp [check, hparse, hvalid]
      rw [herror, Except.ok.injEq]
      refine ⟨(nomatch ·), fun ⟨hg, hok⟩ => ?_⟩
      rw [← hg, hvalid] at hok
      exact nomatch hok
    | ok u =>
      have hok : check registered text = .ok g := by simp [check, hparse, hvalid]
      rw [hok, Except.ok.injEq]
      exact ⟨fun h => ⟨h, h ▸ hvalid⟩, fun h => h.1⟩

theorem validate_congr {registered' : String → Bool}
    (h : ∀ name ∈ f.agentNames, registered name = registered' name) :
    f.validate registered = f.validate registered' := by
  have hfind : f.members.find? (isUnknown registered) = f.members.find? (isUnknown registered') :=
    List.find?_congr fun m hm => by
      cases m with
      | agent name => rw [isUnknown, isUnknown, h name (mem_agentNames_iff.mpr hm)]
      | human => rfl
  rw [validate, validate, hfind]

/-- Whether a flow is valid depends on the registration of the agents that it names. -/
theorem check_congr {registered' : String → Bool} {text : String}
    (h : ∀ f, parse text = .ok f → ∀ name ∈ f.agentNames, registered name = registered' name) :
    check registered text = check registered' text := by
  rw [check, check]
  cases hparse : parse text with
  | error e => rfl
  | ok f => simp only [validate_congr (h f hparse)]

/-- A flow without repeated members names every agent once. -/
theorem nodup_agentNames (h : f.members.Nodup) : f.agentNames.Nodup := by
  refine h.filterMap fun a b name ha hb => ?_
  cases a with
  | agent n =>
    cases b with
    | agent m => exact congrArg Member.agent ((Option.some.inj ha).trans (Option.some.inj hb).symm)
    | human => exact nomatch hb
  | human => exact nomatch ha

end Flow

end Relay
