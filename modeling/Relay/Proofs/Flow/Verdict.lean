import Relay.Proofs.Flow.Valid
import Relay.Roster

/-!
# The verdict on a flow

Many things can be wrong with a flow at once, and one of them is reported. An agent
that is not registered comes before any repetition, wherever the two stand; of several
such agents the first is reported, and of several repetitions the one that is complete
first. So the verdict says where the members stand, across all stages.

The verdict can be reached in one pass over the members, in which the first repetition
is remembered while the pass goes on, since an agent that is not registered may still
follow.

## Main definitions

* `FirstUnknown`, `FirstRepeated` — what is reported.
* `Flow.scan` — the verdict in one pass.

## Main statements

* `firstRepeat?_eq_some_iff` — where the first repetition stands.
* `Flow.validate_eq_scan` — one pass is enough.
* `Flow.validate_verdict` — which of the verdicts is reached.
-/

namespace Relay

/-- An agent of this name is the first in the list that is not registered. -/
def FirstUnknown (registered : String → Bool) (ms : List Member) (name : String) : Prop :=
  ∃ before after, ms = before ++ .agent name :: after ∧ registered name = false ∧
    ∀ other, .agent other ∈ before → registered other

/-- The member stands at the first place of the list that repeats an earlier one. -/
def FirstRepeated (ms : List Member) (m : Member) : Prop :=
  ∃ before after, ms = before ++ m :: after ∧ m ∈ before ∧ before.Nodup

/-- With some members seen before the list, the first repetition is that of a member
which was seen, or stands earlier in the list, while none before it was and did. -/
theorem firstRepeat?_eq_some_iff {seen ms : List Member} {m : Member} :
    firstRepeat? seen ms = some m ↔ ∃ before after, ms = before ++ m :: after ∧
      (m ∈ seen ∨ m ∈ before) ∧ before.Nodup ∧ ∀ x ∈ before, x ∉ seen := by
  induction ms generalizing seen with
  | nil => simp [firstRepeat?]
  | cons first rest ih =>
    rw [firstRepeat?]
    split
    · next hseen =>
      -- Nothing can stand before the repetition, because it would be a repetition itself.
      constructor
      · rintro ⟨rfl⟩
        exact ⟨[], rest, rfl, .inl hseen, .nil, by simp⟩
      · rintro ⟨before, after, hms, -, -, hfresh⟩
        cases before with
        | nil => exact congrArg some (List.cons.inj hms).1
        | cons x before =>
          obtain rfl := (List.cons.inj hms).1
          exact absurd hseen (hfresh first List.mem_cons_self)
    · next hunseen =>
      rw [ih]
      constructor
      · rintro ⟨before, after, rfl, hmem, hnodup, hfresh⟩
        have hfirst : first ∉ before := fun h => hfresh first h List.mem_cons_self
        refine ⟨first :: before, after, rfl, ?_, List.nodup_cons.mpr ⟨hfirst, hnodup⟩, ?_⟩
        · simpa [or_comm, or_assoc, or_left_comm] using hmem
        · exact List.forall_mem_cons.mpr
            ⟨hunseen, fun x hx hseen => hfresh x hx (List.mem_cons_of_mem first hseen)⟩
      · rintro ⟨before, after, hms, hmem, hnodup, hfresh⟩
        cases before with
        | nil =>
          obtain rfl := (List.cons.inj hms).1
          exact absurd (hmem.resolve_right List.not_mem_nil) hunseen
        | cons x before =>
          obtain ⟨rfl, rfl⟩ := List.cons.inj hms
          obtain ⟨hfirst, hnodup⟩ := List.nodup_cons.mp hnodup
          refine ⟨before, after, rfl, ?_, hnodup, fun y hy hmem => ?_⟩
          · simpa [or_comm, or_assoc, or_left_comm] using hmem
          · rcases List.mem_cons.mp hmem with rfl | hseen
            · exact hfirst hy
            · exact hfresh y (List.mem_cons_of_mem _ hy) hseen

/-- The first repetition in a list, with nothing seen before it. -/
theorem firstRepeat?_nil_eq_some_iff {ms : List Member} {m : Member} :
    firstRepeat? [] ms = some m ↔ FirstRepeated ms m := by
  simp [firstRepeat?_eq_some_iff, FirstRepeated]

namespace Flow

variable {registered : String → Bool}

/-- The first member that is no registered agent, if the verdict names it. -/
theorem find?_isUnknown_eq_some_iff {ms : List Member} {name : String} :
    (∃ m, ms.find? (isUnknown registered) = some m ∧ m.name = name) ↔
      FirstUnknown registered ms name := by
  simp only [List.find?_eq_some_iff_append]
  constructor
  · rintro ⟨m, ⟨hunknown, before, after, rfl, hbefore⟩, rfl⟩
    cases m with
    | human => cases hunknown
    | agent name =>
      have hname : registered name = false := by simpa [isUnknown] using hunknown
      refine ⟨before, after, rfl, hname, fun other hother => ?_⟩
      simpa [isUnknown] using hbefore _ hother
  · rintro ⟨before, after, rfl, hname, hbefore⟩
    refine ⟨.agent name, ⟨by simp [isUnknown, hname], before, after, rfl, fun m hm => ?_⟩, rfl⟩
    cases m with
    | human => rfl
    | agent other => simp [isUnknown, hbefore other hm]

/-! ### One pass over the members -/

variable (registered) in
/-- The verdict in one pass: `seen` are the members before, and `repeated` is the first
repetition among them. -/
def scan (seen : List Member) (repeated : Option Member) : List Member → Except FlowError Unit
  | [] =>
    match repeated with
    | some m => .error (.duplicateAgent m.name)
    | none => .ok ()
  | m :: rest =>
    if isUnknown registered m then .error (.agentNotRegistered m.name)
    else scan (m :: seen) (repeated.or (if m ∈ seen then some m else none)) rest

/-- What is left of the pass ends with the first unregistered agent that is still to
come, or else with the repetition that is remembered, or else with the next one. -/
theorem scan_eq (seen : List Member) (repeated : Option Member) (ms : List Member) :
    scan registered seen repeated ms =
      match ms.find? (isUnknown registered) with
      | some m => .error (.agentNotRegistered m.name)
      | none =>
        match repeated.or (firstRepeat? seen ms) with
        | some m => .error (.duplicateAgent m.name)
        | none => .ok () := by
  induction ms generalizing seen repeated with
  | nil => cases repeated <;> rfl
  | cons m rest ih =>
    rw [scan]
    cases hunknown : isUnknown registered m with
    | true => simp [hunknown]
    | false =>
      have hremembered : (repeated.or (if m ∈ seen then some m else none)).or
          (firstRepeat? (m :: seen) rest) = repeated.or (firstRepeat? seen (m :: rest)) := by
        rw [Option.or_assoc, firstRepeat?]
        split <;> rfl
      rw [if_neg (by simp), ih, hremembered, List.find?_cons_of_neg (by simp [hunknown])]

/-- One pass over the members is enough to reach the verdict. -/
theorem validate_eq_scan (f : Flow) :
    f.validate registered = scan registered [] none f.members := by
  rw [validate, scan_eq]
  rfl

/-! ### The verdict -/

/-- An unregistered agent is reported exactly when there is one, and then the first. A
repetition is reported exactly when all agents are registered, and then the first. The
flow is valid exactly when neither is there. One pass over the members comes to this. -/
theorem validate_verdict (f : Flow) (r : Roster) :
    (∀ name, f.validate r.contains = .error (.agentNotRegistered name) ↔
      FirstUnknown r.contains f.members name) ∧
    (∀ name, f.validate r.contains = .error (.duplicateAgent name) ↔
      (∀ other ∈ f.agentNames, r.contains other) ∧
        ∃ m, FirstRepeated f.members m ∧ m.name = name) ∧
    (f.validate r.contains = .ok () ↔
      (∀ other ∈ f.agentNames, r.contains other) ∧ f.members.Nodup) ∧
    f.validate r.contains = scan r.contains [] none f.members := by
  refine ⟨fun name => ?_, fun name => ?_, validate_eq_ok_iff, validate_eq_scan f⟩
  · rw [validate, ← find?_isUnknown_eq_some_iff]
    cases hfind : f.members.find? (isUnknown r.contains) with
    | some m => simp
    | none => cases firstRepeat? [] f.members <;> simp
  · rw [validate, ← find?_isUnknown_eq_none_iff]
    simp only [← firstRepeat?_nil_eq_some_iff]
    cases f.members.find? (isUnknown r.contains) with
    | some m => simp
    | none => cases firstRepeat? [] f.members <;> simp

/-- Here `A` is repeated first, then `H`, and `C`, which is not registered, comes last
and is reported nevertheless. -/
example :
    let f : Flow := ⟨[⟨.agent "A", []⟩, ⟨.human, [.agent "A"]⟩, ⟨.human, []⟩, ⟨.agent "C", []⟩]⟩
    f.validate (· != "C") = .error (.agentNotRegistered "C") ∧
      f.validate (fun _ => true) = .error (.duplicateAgent "A") := by
  decide

end Flow

end Relay
