import Relay.Json.Value

/-!
# Answers

An agent answers a task with a text, a verdict, a JSON value or nothing, or it
fails. Whatever the kind, only the text of an answer is handed on.

## Main definitions

* `Answer` — what an agent answers.
* `Answer.text?` — the text that is handed on, if the answer has one.
* `Answer.ofJson` — a JSON value as the answer of the matching kind.
* `AgentError` — the failure of an agent.
-/

namespace Relay

/-- What an agent answers. -/
inductive Answer where
  | text (s : String)
  /-- A verdict. -/
  | flag (b : Bool)
  | json (v : Json.Value)
  | nothing

namespace Answer

/-- The answer is no answer. A JSON `null` is one. -/
def isNothing : Answer → Bool
  | .nothing => true
  | _ => false

/-- The verdict, if the answer is one. -/
def flag? : Answer → Option Bool
  | .flag b => some b
  | _ => none

/-- The word for the kind of answer. -/
def kind : Answer → String
  | .text _ => "text"
  | .flag _ => "bool"
  | .json _ => "json"
  | .nothing => "none"

/-- The text of a verdict. -/
def flagText (b : Bool) : String := if b then "True" else "False"

/-- The text that is handed on. A JSON string stands without its quotes, `null`
has no text, a verdict inside JSON keeps its JSON form, and any other value has
its compact form. -/
def text? : Answer → Option String
  | .text s => some s
  | .flag b => some (flagText b)
  | .json (.str s) => some s
  | .json .null => none
  | .json v => some v.text
  | .nothing => none

/-- The answer as a JSON value. -/
def toJson : Answer → Json.Value
  | .text s => .str s
  | .flag b => .bool b
  | .json v => v
  | .nothing => .null

/-- A JSON value as the answer of the matching kind. -/
def ofJson : Json.Value → Answer
  | .null => .nothing
  | .bool b => .flag b
  | .str s => .text s
  | v => .json v

end Answer

/-- The failure of an agent. -/
structure AgentError where
  /-- The name of the agent. -/
  agent : String
  /-- What went wrong. -/
  reason : String
  deriving DecidableEq

/-- The failure as it is reported. -/
def AgentError.message (e : AgentError) : String :=
  "Agent '" ++ e.agent ++ "' failed: " ++ e.reason

end Relay
