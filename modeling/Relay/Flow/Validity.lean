import Relay.Flow.Parse

/-!
# Valid flows

A flow can run when every agent it names is registered and no member occurs
twice in the whole flow, the human included. The first unregistered agent is
reported before any repetition, wherever the two stand.

## Main definitions

* `Flow.validate` — checks a flow against the registered names.
* `Flow.check` — reads a flow and validates it.
-/

namespace Relay

/-- The first element that repeats an earlier one; those in `seen` count as
earlier. -/
def firstRepeat? (seen : List Member) : List Member → Option Member
  | [] => none
  | m :: rest => if m ∈ seen then some m else firstRepeat? (m :: seen) rest

namespace Flow

variable (registered : String → Bool)

/-- The member is an agent that is not registered. -/
def isUnknown : Member → Bool
  | .agent name => !registered name
  | .human => false

/-- Every agent is registered and no member occurs twice; otherwise the first
unregistered agent is reported, or else the first repetition. -/
def validate (f : Flow) : Except FlowError Unit :=
  match f.members.find? (isUnknown registered) with
  | some m => .error (.agentNotRegistered m.name)
  | none =>
    match firstRepeat? [] f.members with
    | some m => .error (.duplicateAgent m.name)
    | none => .ok ()

/-- The flow that a text writes down, if it is valid. -/
def check (text : String) : Except FlowError Flow :=
  match parse text with
  | .error e => .error e
  | .ok f =>
    match f.validate registered with
    | .error e => .error e
    | .ok () => .ok f

end Flow

end Relay
