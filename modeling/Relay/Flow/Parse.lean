import Relay.Flow
import Relay.Text.Blank
import Relay.Text.Pieces

/-!
# Reading flows

A flow is written as stages with arrows `->` between them, a stage as members
with commas between them, a member as a name with any blanks around it. There
must be at least one arrow. The name `H` stands for the human.

## Main definitions

* `Flow.parse` — the flow that a text writes down, or what is wrong with it.
* `Flow.IsName` — the names that can stand for an agent in a flow.
* `Flow.WellFormed` — the flows that have a written form.
-/

namespace Relay

open Text

namespace Stage

/-- The stage that a text without arrows writes down: no member may be blank. -/
def parse? (text : List Char) : Option Stage :=
  match (piecesAt ',' text).map trim with
  | [] => none
  | first :: rest =>
    if (first :: rest).any List.isEmpty then none
    else some ⟨.ofName (String.ofList first), rest.map fun name => .ofName (String.ofList name)⟩

end Stage

namespace Flow

/-- The stages that the texts write down. The first text that is no stage is
reported with its index, counted on from `index`. -/
def parseStages (index : Nat) : List (List Char) → Except FlowError (List Stage)
  | [] => .ok []
  | text :: rest =>
    match Stage.parse? text with
    | none => .error (.emptyMember index)
    | some stage =>
      match parseStages (index + 1) rest with
      | .error e => .error e
      | .ok stages => .ok (stage :: stages)

/-- The flow that a text writes down. A text without an arrow is refused
before any name is looked at. -/
def parse (text : String) : Except FlowError Flow :=
  match piecesAtArrow text.toList with
  | first :: second :: rest =>
    match parseStages 0 (first :: second :: rest) with
    | .error e => .error e
    | .ok stages => .ok ⟨stages⟩
  | _ => .error .missingSeparator

/-- A name that can stand for an agent in a flow: it has no blank at either
end, no comma, no arrow, and is not the human's. -/
structure IsName (name : String) : Prop where
  ne_empty : name ≠ ""
  first : ∀ c, name.toList.head? = some c → isBlank c = false
  last : ∀ c, name.toList.getLast? = some c → isBlank c = false
  no_comma : ',' ∉ name.toList
  no_arrow : ¬ ['-', '>'] <:+: name.toList
  ne_human : name ≠ humanName

/-- A flow with a written form: two stages or more, and every agent's name can
stand in a flow. -/
structure WellFormed (f : Flow) : Prop where
  two_stages : 2 ≤ f.stages.length
  names : ∀ m ∈ f.members, ∀ name, m.agent? = some name → IsName name

end Flow

end Relay
