import Relay.Conversation
import Relay.Files.Store
import Relay.Json.Read
import Relay.Json.Record

/-!
# Conversations as JSON

A role and a content are written as an object with one member that is named for
their kind; a message as an object with its fields; a log as the list of its
messages, or with its owner.

## Main definitions

* `Role.toJson`, `Content.toJson`, `Message.toJson`, `Conversation.toJson`.
* `Role.read`, `Content.read`, `Message.read` — the readers that undo them.
* `Conversation.save` — saves the log, one line for each message.
-/

namespace Relay

open Json

/-! ### Writing -/

/-- A role as an object that is tagged with the kind of role. -/
def Role.toJson : Role → Value
  | .user name => .obj [("User", .str name)]
  | .assistant name => .obj [("Assistant", .str name)]

/-- A content as an object that is tagged with its kind. -/
def Content.toJson : Content → Value
  | .text s => .obj [("Text", .str s)]

/-- A message as an object with its fields. -/
def Message.toJson (m : Message) : Value :=
  .obj [("role", m.role.toJson), ("content", m.content.toJson),
    ("timestamp", .str m.timestamp.text)]

/-- The messages as a list. -/
def Conversation.messagesJson (c : Conversation) : Value := .arr (c.messages.map Message.toJson)

/-- The log with its owner. -/
def Conversation.toJson (c : Conversation) : Value :=
  .obj [("owner", .str c.owner), ("history", c.messagesJson)]

/-! ### Reading -/

/-- A role from an object that is tagged with the kind of role. -/
def Role.read : Reader Role :=
  readTagged fun kind =>
    if kind = "User" then some fun cs => (readText cs).map fun (name, rest) => (.user name, rest)
    else if kind = "Assistant" then
      some fun cs => (readText cs).map fun (name, rest) => (.assistant name, rest)
    else none

/-- A content from an object that is tagged with its kind. -/
def Content.read : Reader Content :=
  readTagged fun kind =>
    if kind = "Text" then some fun cs => (readText cs).map fun (s, rest) => (.text s, rest)
    else none

/-- An instant from a string that writes it down. -/
def Timestamp.read : Reader Timestamp := fun cs =>
  match readText cs with
  | .error e => .error e
  | .ok (text, rest) =>
    match Timestamp.ofText? text with
    | none => .error .mismatch
    | some time => .ok (time, rest)

/-- A message of which some fields are not known yet. -/
structure Message.Draft where
  role : Option Role := none
  content : Option Content := none
  timestamp : Option Timestamp := none

/-- The fields of a message. -/
def Message.Draft.fields : List (RecordField Draft) :=
  [.of "role" Role.read fun role d => { d with role := some role },
    .of "content" Content.read fun content d => { d with content := some content },
    .of "timestamp" Timestamp.read fun time d => { d with timestamp := some time }]

/-- The message, if no field is missing. -/
def Message.Draft.finish : Draft → Except Fault Message
  | ⟨some role, some content, some time⟩ => .ok ⟨role, content, time⟩
  | _ => .error .mismatch

/-- A message from its fields, all of which are needed. -/
def Message.read : Reader Message := fun cs =>
  match readRecord Message.Draft.fields {} cs with
  | .error e => .error e
  | .ok (draft, rest) => draft.finish.map fun m => (m, rest)

/-- The role that a JSON text writes down. -/
def Role.ofJson (text : String) : Except Fault Role := readWhole Role.read text

/-- The content that a JSON text writes down. -/
def Content.ofJson (text : String) : Except Fault Content := readWhole Content.read text

/-- The message that a JSON text writes down. -/
def Message.ofJson (text : String) : Except Fault Message := readWhole Message.read text

/-- The messages that a JSON text lists. -/
def Conversation.messagesOfJson (text : String) : Except Fault (List Message) :=
  readWhole (readList Message.read) text

/-! ### Saving -/

/-- Saves the log under a path, with one line for each message. -/
def Conversation.save (c : Conversation) (files : Tree) (path : String) :
    Except StoreError Unit × Tree :=
  files.save path c.text.toUTF8

/-- The failure of an export as it is reported. -/
def StoreError.exportMessage (e : StoreError) : String :=
  "FilePersistence error: " ++ e.message

end Relay
