import Relay.Proofs.Journal.Growth

/-!
# Messages counted by role

The messages of a conversation are counted under the texts of their roles, not under the roles
themselves. A text ends in the kind of its role, so no two roles share one, whatever the
names of the speakers look like. So every count is that of one role, and together they
count each message once.

## Main definitions

* `Conversation.countIn` — the number of messages said in a role.
* `Conversation.counted` — the counts in a table, all together.

## Main statements

* `Role.text_injective` — different roles have different texts.
* `Conversation.find?_countByRole` — the count of a role.
* `Conversation.countByRole_exact` — what the table of counts holds.
-/

namespace Relay

/-! ### The texts of roles -/

namespace Role

/-- The texts differ right before their last bracket. -/
theorem text_user_ne_text_assistant (name other : String) :
    (user name).text ≠ (assistant other).text := by
  intro h
  have hends := congrArg (fun s => s.toList.reverse) h
  simp [text, String.toList_append] at hends

theorem text_injective : Function.Injective text
  | .user _, .user _, h => congrArg user ((String.append_left_inj _).mp h)
  | .assistant _, .assistant _, h => congrArg assistant ((String.append_left_inj _).mp h)
  | .user name, .assistant other, h => absurd h (text_user_ne_text_assistant name other)
  | .assistant name, .user other, h => absurd h.symm (text_user_ne_text_assistant other name)

/-- A speaker of this name is in one of two roles. -/
theorem name_eq_iff {role : Role} {name : String} :
    role.name = name ↔ role = .user name ∨ role = .assistant name := by
  cases role <;> simp [Role.name]

end Role

namespace Conversation

/-- The number of messages that are said in the role. -/
def countIn (c : Conversation) (role : Role) : Nat := c.messages.countP (·.role = role)

/-- The counts in a table, all together. -/
def counted (counts : Table Nat) : Nat := counts.entries.foldr (fun e n => e.2 + n) 0

theorem countIn_pos_iff {c : Conversation} {role : Role} :
    0 < c.countIn role ↔ ∃ m ∈ c.messages, m.role = role := by
  simp [countIn, List.countP_pos_iff]

/-! ### Counting message by message -/

section Counting

variable (messages : List Message) (counts : Table Nat)

/-- The count of a role grows by the messages said in it, and by no others. -/
theorem getD_foldl_countOne (role : Role) :
    ((messages.foldl countOne counts).find? role.text).getD 0 =
      (counts.find? role.text).getD 0 + messages.countP (·.role = role) := by
  induction messages generalizing counts with
  | nil => rfl
  | cons m messages ih =>
    rw [List.foldl_cons, ih, countOne, Table.find?_insert, List.countP_cons]
    by_cases hrole : m.role = role
    · simp only [hrole, if_true, Option.getD_some, decide_true]
      omega
    · have htext : m.role.text ≠ role.text := fun h => hrole (Role.text_injective h)
      simp [hrole, htext]

theorem contains_foldl_countOne (text : String) :
    (messages.foldl countOne counts).contains text ↔
      counts.contains text ∨ ∃ m ∈ messages, m.role.text = text := by
  induction messages generalizing counts with
  | nil => simp
  | cons m messages ih =>
    rw [List.foldl_cons, ih, countOne, Table.contains_insert, List.exists_mem_cons_iff]
    tauto

/-- One message more counts one more, whether its role was counted before or not. -/
theorem counted_countOne (m : Message) : counted (countOne counts m) = counted counts + 1 := by
  have hput := Table.foldr_put id m.role.text
    ((counts.find? m.role.text).getD 0 + 1) counts.sorted
  rw [Option.map_id, id_eq, id_eq, ← Table.find?] at hput
  change counted (countOne counts m) + _ = counted counts + _ at hput
  omega

theorem counted_foldl_countOne :
    counted (messages.foldl countOne counts) = counted counts + messages.length := by
  induction messages generalizing counts with
  | nil => rfl
  | cons m messages ih =>
    rw [List.foldl_cons, ih, counted_countOne, List.length_cons]
    omega

end Counting

/-! ### The table of counts -/

variable (c : Conversation)

theorem getD_countByRole (role : Role) :
    (c.countByRole.find? role.text).getD 0 = c.countIn role :=
  (getD_foldl_countOne c.messages .empty role).trans (Nat.zero_add _)

theorem contains_countByRole (text : String) :
    c.countByRole.contains text ↔ ∃ m ∈ c.messages, m.role.text = text := by
  rw [countByRole, contains_foldl_countOne]
  exact or_iff_right Bool.false_ne_true

/-- A role is listed with its count, if there are messages in it. -/
theorem find?_countByRole (role : Role) :
    c.countByRole.find? role.text = if 0 < c.countIn role then some (c.countIn role) else none := by
  have hlisted : (c.countByRole.find? role.text).isSome ↔ 0 < c.countIn role := by
    rw [countIn_pos_iff, ← Table.contains, contains_countByRole]
    simp [Role.text_injective.eq_iff]
  have hcount := c.getD_countByRole role
  cases hfound : c.countByRole.find? role.text with
  | none => rw [if_neg (mt hlisted.mpr (by simp [hfound]))]
  | some n =>
    rw [hfound, Option.getD_some] at hcount
    rw [if_pos (hlisted.mp (by simp [hfound])), hcount]

/-- The messages of a speaker are those in the two roles of that name. -/
theorem length_messagesFrom (name : String) :
    (c.messagesFrom name).length = c.countIn (.user name) + c.countIn (.assistant name) := by
  rw [messagesFrom, countIn, countIn, ← List.countP_eq_length_filter]
  induction c.messages with
  | nil => rfl
  | cons m messages ih =>
    simp only [List.countP_cons, ih, beq_iff_eq, decide_eq_true_eq, Role.name_eq_iff]
    by_cases huser : m.role = .user name
    · simp only [huser, reduceCtorEq, true_or, if_true, if_false]
      omega
    · simp only [huser, false_or, if_false]
      omega

/-- The roles that occur are listed, under texts that no two of them share. Each has the
number of the messages said in it, whatever the names in the roles are. Together the counts
are the number of all messages, and the messages of a speaker are those counted for the two
roles of that name. -/
theorem countByRole_exact :
    Function.Injective Role.text ∧
    (∀ text, text ∈ c.countByRole.keys ↔ ∃ m ∈ c.messages, m.role.text = text) ∧
    (∀ role, c.countByRole.find? role.text =
      if ∃ m ∈ c.messages, m.role = role then some (c.countIn role) else none) ∧
    counted c.countByRole = c.length ∧
    ∀ name, (c.messagesFrom name).length =
      (c.countByRole.find? (Role.user name).text).getD 0 +
        (c.countByRole.find? (Role.assistant name).text).getD 0 := by
  refine ⟨Role.text_injective, fun text => ?_, fun role => ?_, ?_, fun name => ?_⟩
  · rw [← Table.contains_iff, contains_countByRole]
  · simp only [find?_countByRole, countIn_pos_iff]
  · rw [countByRole, counted_foldl_countOne]
    exact Nat.zero_add _
  · rw [getD_countByRole, getD_countByRole, length_messagesFrom]

/-- Here a name ends in the kind of a role, and one name is that of two roles. -/
theorem countByRole_exact_of_kind_in_name :
    let c := ((((new "S").add (.user "A") "1" .epoch).add (.user "A(User)") "2" .epoch).add
      (.assistant "A") "3" .epoch).add (.user "A") "4" .epoch
    c.countByRole.find? "A(User)" = some 2 ∧ c.countByRole.find? "A(User)(User)" = some 1 ∧
      c.countByRole.find? "A(User)(Assistant)" = none ∧ (c.messagesFrom "A").length = 3 := by
  intro c
  obtain ⟨-, -, hcount, -, hspeaker⟩ := c.countByRole_exact
  exact ⟨(hcount (.user "A")).trans (by decide), (hcount (.user "A(User)")).trans (by decide),
    (hcount (.assistant "A(User)")).trans (by decide), (hspeaker "A").trans (by decide)⟩

end Conversation

end Relay
