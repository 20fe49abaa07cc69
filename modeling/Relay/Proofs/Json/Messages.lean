import Relay.Conversation.Json
import Relay.Proofs.Json.Objects
import Relay.Proofs.Text.Instants

/-!
# Conversations as JSON

A role and a content are written as an object whose one name tells their kind, a message as
an object of a role, a content and an instant, and a conversation as the list of its
messages. Each is read back as it was: kinds by their names, texts through their escapes,
and an instant from its numbers. So what was said is known from what is written, and a user
is not taken for an assistant of the same name.

## Main definitions

* `Conversation.Remark` — something said in some role at some instant.

## Main statements

* `Message.reads_compact` — a message is read back, wherever it stands.
* `Conversation.remarks_read_back` — a conversation is read back as it was.
-/

namespace Relay

open Json

variable {text : List Char}

/-! ### Roles, contents and instants -/

theorem Role.reads_compact (r : Role) : Reads Role.read r.toJson.compact r := by
  cases r with
  | user name => exact reads_kind rfl (reads_text (isLiteral_quote name))
  | assistant name => exact reads_kind rfl (reads_text (isLiteral_quote name))

theorem Content.reads_compact (c : Content) : Reads Content.read c.toJson.compact c := by
  cases c with
  | text s => exact reads_kind rfl (reads_text (isLiteral_quote s))

theorem Timestamp.reads_quote (t : Timestamp) : Reads Timestamp.read (quote t.text) t := by
  intro blanks rest hblanks hrest
  rw [Timestamp.read, reads_text (isLiteral_quote t.text) blanks rest hblanks hrest]
  simp only [Timestamp.ofText?_text]

/-! ### Messages -/

/-- What the members of a message do to one of which no field is known. -/
def Message.changes (m : Message) : List (String × (Message.Draft → Message.Draft)) :=
  [("role", fun d => { d with role := some m.role }),
    ("content", fun d => { d with content := some m.content }),
    ("timestamp", fun d => { d with timestamp := some m.timestamp })]

theorem Message.distinct_changes (m : Message) : Distinct Message.Draft.fields m.changes := by
  simp [Distinct, Message.changes]

/-- A message is read back, wherever it stands. -/
theorem Message.reads_compact (m : Message) : Reads Message.read m.toJson.compact m := by
  have hparts : List.Forall₂ (IsChange Message.Draft.fields) m.changes
      (Value.compactMembers [("role", m.role.toJson), ("content", m.content.toJson),
        ("timestamp", .str m.timestamp.text)]) :=
    .cons (isMember_quote (.of_field rfl m.role.reads_compact rfl)) <|
      .cons (isMember_quote (.of_field rfl m.content.reads_compact rfl)) <|
      .cons (isMember_quote (.of_field rfl m.timestamp.reads_quote rfl)) .nil
  have hdraft := reads_record {} (.intercalate .object hparts) m.distinct_changes
  intro blanks rest hblanks hrest
  have hread : readRecord Message.Draft.fields {} (blanks ++ (m.toJson.compact ++ rest)) =
      .ok (⟨some m.role, some m.content, some m.timestamp⟩, rest) :=
    hdraft blanks rest hblanks hrest
  simp only [Message.read, hread, Message.Draft.finish, Except.map]

theorem Message.isItem_compact (m : Message) : IsItem Message.read m m.toJson.compact :=
  ⟨m.reads_compact, '\x7b', _, rfl, by decide⟩

/-! ### Conversations -/

namespace Conversation

theorem messagesOfJson_text (c : Conversation) :
    messagesOfJson c.messagesJson.text = .ok c.messages := by
  have hitems : List.Forall₂ (IsItem Message.read) c.messages
      (Value.compactItems (c.messages.map Message.toJson)) := by
    induction c.messages with
    | nil => exact .nil
    | cons m messages ih => exact .cons m.isItem_compact ih
  exact readWhole_text (reads_list (.intercalate .list hitems))

/-- Something said in some role at some instant. -/
structure Remark where
  role : Role
  text : String
  time : Timestamp

/-- The message that a remark becomes. -/
def Remark.message (r : Remark) : Message := ⟨r.role, .text r.text, r.time⟩

/-- The log after remarks one after the other. -/
def addAll (c : Conversation) (remarks : List Remark) : Conversation :=
  remarks.foldl (fun c r => c.add r.role r.text r.time) c

theorem messages_addAll (c : Conversation) (remarks : List Remark) :
    (c.addAll remarks).messages = c.messages ++ remarks.map Remark.message := by
  induction remarks generalizing c with
  | nil => simp [addAll]
  | cons r remarks ih =>
    have hcons : c.addAll (r :: remarks) = (c.add r.role r.text r.time).addAll remarks := rfl
    rw [hcons, ih]
    simp [add, Remark.message]

/-- Roles, contents and messages are read back from their texts as they were, whatever names
and texts they hold. No text is that of a user and of an assistant. And whatever was said in
a conversation, the messages are read back from its text with their roles, contents and
instants, in the order in which they were said. -/
theorem remarks_read_back :
    (∀ r : Role, Role.ofJson r.toJson.text = .ok r) ∧
      (∀ c : Content, Content.ofJson c.toJson.text = .ok c) ∧
      (∀ m : Message, Message.ofJson m.toJson.text = .ok m) ∧
      (∀ name other, (Role.user name).toJson.text ≠ (Role.assistant other).toJson.text) ∧
      ∀ (owner : String) (remarks : List Remark),
        messagesOfJson ((new owner).addAll remarks).messagesJson.text =
          .ok (remarks.map Remark.message) := by
  have hroles : ∀ r : Role, Role.ofJson r.toJson.text = .ok r := fun r =>
    readWhole_text r.reads_compact
  refine ⟨hroles, fun c => readWhole_text c.reads_compact, fun m => readWhole_text m.reads_compact,
    fun name other htext => ?_, fun owner remarks => ?_⟩
  · have hread := hroles (.user name)
    rw [htext, hroles (.assistant other)] at hread
    exact Role.noConfusion (Except.ok.inj hread)
  · rw [messagesOfJson_text, messages_addAll]
    rfl

end Conversation

end Relay
