import Relay.Table
import Relay.Text.Occurrence
import Relay.Timestamp

/-!
# Conversations

A conversation is a log of messages that only grows. Each message is said in
some role, by a user or an assistant of some name, at some instant.

## Main definitions

* `Role`, `Content`, `Message`, `Conversation`.
* `Conversation.add`, `Conversation.search`, `Conversation.messagesFrom`,
  `Conversation.countByRole`.
* `Conversation.text` — the log with one line for each message.
-/

namespace Relay

/-- The role in which a message is said. -/
inductive Role where
  | user (name : String)
  | assistant (name : String)
  deriving DecidableEq

namespace Role

/-- The name of the speaker. -/
def name : Role → String
  | .user name => name
  | .assistant name => name

/-- The speaker's name with the kind of role. -/
def text : Role → String
  | .user name => name ++ "(User)"
  | .assistant name => name ++ "(Assistant)"

end Role

/-- What a message holds. -/
inductive Content where
  | text (s : String)
  deriving DecidableEq

/-- The content as it is shown. -/
def Content.shown : Content → String
  | .text s => s

/-- Something said in some role at some instant. -/
structure Message where
  role : Role
  content : Content
  timestamp : Timestamp
  deriving DecidableEq

/-- A log of messages. -/
structure Conversation where
  /-- The name of the one who keeps the log. -/
  owner : String
  /-- The messages, the earliest first. -/
  messages : List Message
  deriving DecidableEq

namespace Conversation

/-- The log of an owner before anything is said. -/
def new (owner : String) : Conversation := ⟨owner, []⟩

instance : Inhabited Conversation := ⟨new ""⟩

/-- The log with one more message at the end. -/
def add (c : Conversation) (role : Role) (content : String) (time : Timestamp) : Conversation :=
  { c with messages := c.messages ++ [⟨role, .text content, time⟩] }

/-- The number of messages. -/
def length (c : Conversation) : Nat := c.messages.length

/-- Nothing has been said. -/
def isEmpty (c : Conversation) : Bool := c.messages.isEmpty

/-- The messages in whose content the keyword occurs. -/
def search (c : Conversation) (keyword : String) : List Message :=
  c.messages.filter fun m => Text.occursIn keyword.toList m.content.shown.toList

/-- The messages of a speaker, in either role. -/
def messagesFrom (c : Conversation) (name : String) : List Message :=
  c.messages.filter fun m => m.role.name == name

/-- The count with one more message in a role. -/
def countOne (counts : Table Nat) (m : Message) : Table Nat :=
  counts.insert m.role.text ((counts.find? m.role.text).getD 0 + 1)

/-- The number of messages in each role, under the role's text. -/
def countByRole (c : Conversation) : Table Nat := c.messages.foldl countOne .empty

/-- The line of a message. -/
def line (m : Message) : String := m.role.text ++ ": " ++ m.content.shown ++ "\n"

/-- The log with one line for each message. -/
def text (c : Conversation) : String := String.join (c.messages.map line)

@[simp] theorem length_add (c : Conversation) (role : Role) (content : String)
    (time : Timestamp) : (c.add role content time).length = c.length + 1 := by
  simp [length, add]

end Conversation

end Relay
