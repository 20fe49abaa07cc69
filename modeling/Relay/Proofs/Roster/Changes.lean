import Mathlib.Data.List.Induction
import Mathlib.Data.List.Nodup
import Mathlib.Data.List.Perm.Basic
import Relay.Roster

/-!
# Rosters after any operations

Agents are added to a roster, one by one or several at once, and removed from it by name, in
any order; and a roster may be copied at any time. What can be seen of a roster then follows
from what changed in it. Under a name is the agent that joined last with that name, unless
an agent of the name has left since. A removal that fails is no change.

A copy has gone through all that its original went through before. From then on each of the
two goes its own way.

## Main definitions

* `Roster.Command`, `Roster.perform` — the operations on a roster.
* `Roster.Change`, `Roster.changesOf` — what operations change.
* `Roster.Act`, `Roster.rosters` — operations on one of several rosters, and copies.
* `Roster.Shows` — what can be seen of a roster.

## Main statements

* `Roster.performAll_eq` — a roster is determined by its changes.
* `Roster.shows_performAll` — what can be seen of a roster after any operations.
* `Roster.rosters_exact` — the same, also with copies.
-/

namespace Relay

namespace Roster

/-! ### Operations and what they change -/

/-- An operation on a roster. -/
inductive Command
  | add (a : Agent)
  | addAll (agents : List Agent)
  | remove (name : String)

/-- What happened to a roster. -/
inductive Change
  | joined (a : Agent)
  | left (name : String)

namespace Command

/-- The names of the agents that the operation adds or removes. -/
def names : Command → List String
  | .add a => [a.name]
  | .addAll agents => agents.map Agent.name
  | .remove name => [name]

end Command

namespace Change

/-- The name whose agent is another afterwards. -/
def name : Change → String
  | .joined a => a.name
  | .left name => name

/-- The agent that has the name afterwards. -/
def agent? : Change → Option Agent
  | .joined a => some a
  | .left _ => none

end Change

/-- The roster after an operation; it stays as it is if there is no agent to remove. -/
def perform (r : Roster) : Command → Roster
  | .add a => r.add a
  | .addAll agents => r.addAll agents
  | .remove name =>
    match r.remove name with
    | .ok (_, rest) => rest
    | .error _ => r

/-- The roster after operations one after the other. -/
def performAll (r : Roster) (commands : List Command) : Roster := commands.foldl perform r

/-- What an operation changes in the roster, in order. -/
def changes (r : Roster) : Command → List Change
  | .add a => [.joined a]
  | .addAll agents => agents.map .joined
  | .remove name =>
    match r.remove name with
    | .ok _ => [.left name]
    | .error _ => []

/-- What operations change one after the other. -/
def changesOf (r : Roster) : List Command → List Change
  | [] => []
  | c :: commands => r.changes c ++ (r.perform c).changesOf commands

/-- The roster after a change. -/
def change (r : Roster) : Change → Roster
  | .joined a => r.add a
  | .left name => r.erase name

/-- The agent is the one that joined last with the name, and none of that name has left since. -/
def Remains (changes : List Change) (name : String) (a : Agent) : Prop :=
  ∃ before after, changes = before ++ .joined a :: after ∧ a.name = name ∧
    ∀ c ∈ after, c.name ≠ name

theorem perform_eq (r : Roster) (c : Command) : r.perform c = (r.changes c).foldl change r := by
  cases c with
  | add a => rfl
  | addAll agents => rw [perform, changes, List.foldl_map]; rfl
  | remove name =>
    rw [perform, changes]
    cases hfound : r.find? name with
    | none => simp [remove, hfound]
    | some a => simp [remove, hfound, change]

/-- A roster is determined by what it was and what changed. -/
theorem performAll_eq (r : Roster) (commands : List Command) :
    r.performAll commands = (r.changesOf commands).foldl change r := by
  induction commands generalizing r with
  | nil => rfl
  | cons c commands ih =>
    rw [changesOf, List.foldl_append, ← perform_eq, ← ih]
    rfl

theorem find?_change (r : Roster) (c : Change) (name : String) :
    (r.change c).find? name = if c.name = name then c.agent? else r.find? name := by
  cases c with
  | joined a => exact find?_add ..
  | left other => exact find?_erase ..

/-- The last change of a name counts. -/
theorem find?_foldl_change (r : Roster) (changes : List Change) (name : String) :
    (changes.foldl change r).find? name =
      ((changes.reverse.find? (·.name = name)).map Change.agent?).getD (r.find? name) := by
  induction changes using List.reverseRecOn with
  | nil => rfl
  | append_singleton changes c ih =>
    rw [List.foldl_append, List.foldl_cons, List.foldl_nil, find?_change, ih, List.reverse_append]
    by_cases hname : c.name = name
    · simp [hname]
    · simp [hname]

theorem remains_iff {changes : List Change} {name : String} {a : Agent} :
    Remains changes name a ↔ changes.reverse.find? (·.name = name) = some (.joined a) := by
  rw [List.find?_eq_some_iff_append]
  simp only [List.reverse_eq_append_iff, List.reverse_cons, List.append_assoc,
    List.singleton_append]
  constructor
  · rintro ⟨before, after, rfl, hname, hlast⟩
    exact ⟨decide_eq_true hname, after.reverse, before.reverse, by simp,
      fun c hc => by simpa using hlast c (List.mem_reverse.mp hc)⟩
  · rintro ⟨hname, after, before, rfl, hlast⟩
    exact ⟨before.reverse, after.reverse, rfl, of_decide_eq_true hname,
      fun c hc => by simpa using hlast c (List.mem_reverse.mp hc)⟩

/-- Under a name is the agent that remains of all that joined. -/
theorem find?_performAll_empty {commands : List Command} {name : String} {a : Agent} :
    (empty.performAll commands).find? name = some a ↔
      Remains (empty.changesOf commands) name a := by
  rw [performAll_eq, find?_foldl_change, remains_iff]
  cases (empty.changesOf commands).reverse.find? (·.name = name) with
  | none => simp [find?, empty]
  | some c => cases c <;> simp [Change.agent?]

/-! ### What can be seen of a roster -/

section View

variable {r : Roster} {name : String} {a : Agent}

theorem get_eq_ok_iff : r.get name = .ok a ↔ r.find? name = some a := by
  rw [get]
  cases r.find? name <;> simp

theorem get_eq_error_iff {e : RosterError} :
    r.get name = .error e ↔ e = ⟨name⟩ ∧ r.find? name = none := by
  rw [get]
  cases r.find? name <;> simp [eq_comm]

theorem remove_eq_ok_iff {rest : Roster} :
    r.remove name = .ok (a, rest) ↔ r.find? name = some a ∧ rest = r.erase name := by
  rw [remove]
  cases r.find? name <;> simp [eq_comm]

theorem remove_eq_error_iff {e : RosterError} :
    r.remove name = .error e ↔ e = ⟨name⟩ ∧ r.find? name = none := by
  rw [remove]
  cases r.find? name <;> simp [eq_comm]

theorem contains_iff_exists : r.contains name ↔ ∃ a, r.find? name = some a :=
  Option.isSome_iff_exists

/-- Rosters with the same agents under the same names are the same. -/
theorem ext_find? {r s : Roster} (h : ∀ name, r.find? name = s.find? name) : r = s := by
  have htable : r.table = s.table := Table.ext_find? h
  cases r
  cases s
  cases htable
  rfl

theorem erase_eq_self (h : r.find? name = none) : r.erase name = r :=
  ext_find? fun other => by
    rw [find?_erase]
    split
    · next heq => rw [← heq, h]
    · rfl

end View

/-- What can be seen of a roster in which all this changed since it was empty. -/
structure Shows (r : Roster) (changes : List Change) : Prop where
  get_ok : ∀ name a, r.get name = .ok a ↔ Remains changes name a
  get_error : ∀ name e, r.get name = .error e ↔ e = ⟨name⟩ ∧ ∀ a, ¬ Remains changes name a
  remove_ok : ∀ name a rest, r.remove name = .ok (a, rest) ↔
    Remains changes name a ∧ rest = r.erase name
  remove_error : ∀ name e, r.remove name = .error e ↔ e = ⟨name⟩ ∧ ∀ a, ¬ Remains changes name a
  contains : ∀ name, r.contains name ↔ ∃ a, Remains changes name a
  mem_names : ∀ name, name ∈ r.names ↔ ∃ a, Remains changes name a
  names_sorted : r.names.Pairwise (· < ·)
  length_names : r.names.length = r.size
  isEmpty : r.isEmpty ↔ r.size = 0
  name_of_get : ∀ name a, r.get name = .ok a → a.name = name
  name_of_remove : ∀ name a rest, r.remove name = .ok (a, rest) → a.name = name

theorem shows_performAll (commands : List Command) :
    (empty.performAll commands).Shows (empty.changesOf commands) where
  get_ok name a := by rw [get_eq_ok_iff, find?_performAll_empty]
  get_error name e := by
    rw [get_eq_error_iff, Option.eq_none_iff_forall_ne_some]
    simp only [Ne, find?_performAll_empty]
  remove_ok name a rest := by rw [remove_eq_ok_iff, find?_performAll_empty]
  remove_error name e := by
    rw [remove_eq_error_iff, Option.eq_none_iff_forall_ne_some]
    simp only [Ne, find?_performAll_empty]
  contains name := by simp only [contains_iff_exists, find?_performAll_empty]
  mem_names name := by
    rw [names, ← Table.contains_iff, ← Roster.contains]
    simp only [contains_iff_exists, find?_performAll_empty]
  names_sorted := Table.keys_sorted _
  length_names := Table.length_keys _
  isEmpty := by rw [Roster.isEmpty, Table.isEmpty, List.isEmpty_iff, ← List.length_eq_zero_iff]; rfl
  name_of_get _ _ h := name_of_find? (get_eq_ok_iff.mp h)
  name_of_remove _ _ _ h := name_of_find? (remove_eq_ok_iff.mp h).1

theorem name_mem_of_mem_changes {r : Roster} {c : Command} {change : Change}
    (h : change ∈ r.changes c) : change.name ∈ c.names := by
  cases c with
  | add a =>
    rw [List.mem_singleton.mp h]
    exact List.mem_singleton_self _
  | addAll agents =>
    obtain ⟨a, ha, rfl⟩ := List.mem_map.mp h
    exact List.mem_map_of_mem ha
  | remove name =>
    rw [changes] at h
    split at h
    · rw [List.mem_singleton.mp h]
      exact List.mem_singleton_self _
    · exact nomatch h

/-- The agent of a name is another only after an operation on an agent of that name. -/
theorem find?_perform_of_not_mem {r : Roster} {c : Command} {name : String}
    (h : name ∉ c.names) : (r.perform c).find? name = r.find? name := by
  have hnone : (r.changes c).reverse.find? (·.name = name) = none := by
    rw [List.find?_eq_none]
    intro change hchange heq
    exact h (of_decide_eq_true heq ▸ name_mem_of_mem_changes (List.mem_reverse.mp hchange))
  rw [perform_eq, find?_foldl_change, hnone]
  rfl

theorem add_comm_of_ne (r : Roster) {a b : Agent} (h : a.name ≠ b.name) :
    (r.add a).add b = (r.add b).add a :=
  ext_find? fun name => by
    rw [find?_add, find?_add, find?_add, find?_add]
    by_cases ha : a.name = name
    · have hb : b.name ≠ name := fun hb => h (ha.trans hb.symm)
      rw [if_neg hb, if_pos ha, if_pos ha]
    · rw [if_neg ha, if_neg ha]

/-- Agents of different names may be added in any order. -/
theorem addAll_perm (r : Roster) {agents others : List Agent} (hperm : agents.Perm others)
    (hnames : (agents.map Agent.name).Nodup) : r.addAll agents = r.addAll others := by
  refine hperm.foldl_eq' (fun a ha b hb s => ?_) r
  by_cases hname : a.name = b.name
  · rw [List.inj_on_of_nodup_map hnames ha hb hname]
  · exact add_comm_of_ne s hname

/-! ### Several rosters, and copies -/

/-- Something that is done with one of several rosters. -/
inductive Act
  | on (i : Nat) (c : Command)
  | copy (i : Nat)

/-- What becomes of several things, one for each roster. A copy comes behind all others. -/
def Act.apply {α : Type} (f : α → Command → α) (xs : List α) : Act → List α
  | .on i c => xs.modify i (f · c)
  | .copy i => xs ++ xs[i]?.toList

/-- The rosters there are in the end, if there was an empty one at first. -/
def rosters (acts : List Act) : List Roster := acts.foldl (Act.apply perform) [empty]

/-- The operations that each roster has gone through. A copy has gone through those of its
original. -/
def pasts (acts : List Act) : List (List Command) :=
  acts.foldl (Act.apply fun commands c => commands ++ [c]) [[]]

theorem rosters_concat (acts : List Act) (act : Act) :
    rosters (acts ++ [act]) = act.apply perform (rosters acts) := List.foldl_concat ..

theorem pasts_concat (acts : List Act) (act : Act) :
    pasts (acts ++ [act]) = act.apply (fun commands c => commands ++ [c]) (pasts acts) :=
  List.foldl_concat ..

theorem Act.map_apply {α β : Type} {f : α → Command → α} {f' : β → Command → β} {g : α → β}
    (hg : ∀ x c, g (f x c) = f' (g x) c) (xs : List α) (act : Act) :
    (act.apply f xs).map g = act.apply f' (xs.map g) := by
  cases act with
  | on i c =>
    refine List.ext_getElem? fun j => ?_
    rw [Act.apply, Act.apply, List.getElem?_map, List.getElem?_modify, List.getElem?_modify,
      List.getElem?_map]
    cases xs[j]? with
    | none => rfl
    | some x => by_cases hij : i = j <;> simp [hij, hg]
  | copy i => rw [Act.apply, Act.apply, List.map_append, List.getElem?_map, Option.toList_map]

/-- Each roster is what its operations make of an empty one. -/
theorem rosters_eq (acts : List Act) : rosters acts = (pasts acts).map empty.performAll := by
  have hstep (commands : List Command) (c : Command) :
      empty.performAll (commands ++ [c]) = (empty.performAll commands).perform c := by
    rw [performAll, List.foldl_append]
    rfl
  induction acts using List.reverseRecOn with
  | nil => rfl
  | append_singleton acts act ih =>
    rw [rosters_concat, pasts_concat, ih]
    exact (Act.map_apply hstep (pasts acts) act).symm

/-- What is done with the other rosters does not reach this one. -/
theorem Act.getElem?_foldl_apply {α : Type} {f : α → Command → α} {i : Nat} {x : α}
    {acts : List Act} {xs : List α} (hx : xs[i]? = some x) (hothers : ∀ c, .on i c ∉ acts) :
    (acts.foldl (Act.apply f) xs)[i]? = some x := by
  induction acts generalizing xs with
  | nil => exact hx
  | cons act acts ih =>
    refine ih ?_ fun c hc => hothers c (List.mem_cons_of_mem _ hc)
    cases act with
    | on j c =>
      have hne : j ≠ i := fun heq => hothers c (heq ▸ List.mem_cons_self)
      exact (List.getElem?_modify_ne _ _ hne).trans hx
    | copy j =>
      obtain ⟨hlt, -⟩ := List.getElem?_eq_some_iff.mp hx
      exact (List.getElem?_append_left hlt).trans hx

/-- After any operations on an empty roster and its copies, each roster shows what changed in
it, or in its original before it was copied. Operations on an agent of one name do not reach
those of other names, a removal that fails reaches none, and agents of different names may be
added in any order. A copy is like its original when it is made, and what is done with other
rosters, be they copies or originals of it, does not reach a roster. -/
theorem rosters_exact (acts : List Act) {i : Nat} {r : Roster} (h : (rosters acts)[i]? = some r) :
    (∃ commands, (pasts acts)[i]? = some commands ∧ r = empty.performAll commands ∧
      r.Shows (empty.changesOf commands)) ∧
    (∀ c name, name ∉ c.names → (r.perform c).get name = r.get name) ∧
    (∀ name e, r.remove name = .error e → r.perform (.remove name) = r ∧ r.erase name = r) ∧
    (∀ agents others, agents.Perm others → (agents.map Agent.name).Nodup →
      r.addAll agents = r.addAll others) ∧
    (rosters (acts ++ [.copy i]))[(rosters acts).length]? = some r ∧
    ∀ more, (∀ c, .on i c ∉ more) → (rosters (acts ++ more))[i]? = some r := by
  have hpast := h
  rw [rosters_eq, List.getElem?_map, Option.map_eq_some_iff] at hpast
  obtain ⟨commands, hcommands, rfl⟩ := hpast
  refine ⟨⟨commands, hcommands, rfl, shows_performAll commands⟩, fun c name hc => ?_,
    fun name e he => ?_, fun agents others => addAll_perm _, ?_, fun more hothers => ?_⟩
  · rw [get, get, find?_perform_of_not_mem hc]
  · rw [perform, he]
    exact ⟨rfl, erase_eq_self (remove_eq_error_iff.mp he).2⟩
  · rw [rosters_concat, Act.apply, h]
    exact List.getElem?_concat_length
  · rw [rosters, List.foldl_append]
    exact Act.getElem?_foldl_apply h hothers

/-- An agent takes the place of another, and then the roster is copied. The agent is removed
from the original, the second time in vain, and stays in the copy. -/
theorem rosters_exact_of_copied :
    let agent (number : Nat) (name : String) : Agent :=
      .simple number name "" fun _ _ => .ok (.text "")
    let filled := empty.performAll [.addAll [agent 1 "A", agent 2 "B"], .add (agent 3 "A")]
    let acts : List Act := [.on 0 (.addAll [agent 1 "A", agent 2 "B"]), .on 0 (.add (agent 3 "A")),
      .copy 0, .on 0 (.remove "A"), .on 0 (.remove "A")]
    (rosters acts)[1]? = some filled ∧ filled.get "A" = .ok (agent 3 "A") ∧
      filled.get "C" = .error ⟨"C"⟩ ∧
      (filled.perform (.add (agent 4 "B"))).get "A" = filled.get "A" ∧
      (rosters (acts ++ [.on 0 (.add (agent 5 "A"))]))[1]? = some filled ∧
      ∃ left, (rosters acts)[0]? = some left ∧ left.get "A" = .error ⟨"A"⟩ := by
  intro agent filled acts
  obtain ⟨⟨commands, hpast, -, hshows⟩, hother, -, -, -, hstays⟩ :=
    rosters_exact acts (i := 1) (r := filled) rfl
  obtain ⟨⟨commands', hpast', -, hshows'⟩, -⟩ := rosters_exact acts (i := 0) rfl
  obtain rfl := Option.some.inj hpast
  obtain rfl := Option.some.inj hpast'
  refine ⟨rfl, (hshows.get_ok _ _).mpr ?_, (hshows.get_error _ _).mpr ⟨rfl, fun a ha => ?_⟩,
    hother _ _ (by decide), hstays _ (by simp), _, rfl,
    (hshows'.get_error _ _).mpr ⟨rfl, fun a ha => ?_⟩⟩
  · exact ⟨[.joined (agent 1 "A"), .joined (agent 2 "B")], [], rfl, rfl, by simp⟩
  · exact absurd ((hshows.contains "C").mpr ⟨a, ha⟩) (by decide)
  · exact absurd ((hshows'.contains "A").mpr ⟨a, ha⟩) (by decide)

end Roster

end Relay
