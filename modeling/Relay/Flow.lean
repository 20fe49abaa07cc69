/-!
# Flows

A flow says who works on a task and in which order: a sequence of stages, each
with one member or with several that work side by side. A member is an agent,
given by its name, or a human.

## Main definitions

* `Member`, `Stage`, `Flow` — a flow as data. A stage has a lead, so it is never
  empty.
* `Flow.members` — all members in flow order, across the stages.
* `Flow.text` — the written form, with `, ` between members and ` -> ` between
  stages.
* `FlowError` — what can be wrong with a flow.
-/

namespace Relay

/-- Someone a stage hands the task to. -/
inductive Member where
  /-- The agent with this name. -/
  | agent (name : String)
  /-- The human at the terminal. -/
  | human
  deriving DecidableEq

/-- The word that stands for the human in a flow. -/
def humanName : String := "H"

namespace Member

/-- The member that a word of a flow stands for. -/
def ofName (name : String) : Member :=
  if name = humanName then .human else .agent name

/-- The word that stands for a member in a flow. -/
def name : Member → String
  | .agent name => name
  | .human => humanName

/-- The agent's name, if the member is an agent. -/
def agent? : Member → Option String
  | .agent name => some name
  | .human => none

@[simp] theorem name_ofName (name : String) : (ofName name).name = name := by
  unfold ofName
  split
  · next h => exact h.symm
  · rfl

end Member

/-- The members that work side by side on the same task. -/
structure Stage where
  /-- The first member: the one a custom task is addressed to. -/
  lead : Member
  /-- The members after the lead. -/
  others : List Member
  deriving DecidableEq

namespace Stage

/-- All members of the stage, the lead first. -/
def members (s : Stage) : List Member := s.lead :: s.others

/-- A stage with several members works in parallel. -/
def isParallel (s : Stage) : Bool := !s.others.isEmpty

/-- The members' names, with `, ` between them. -/
def text (s : Stage) : String := ", ".intercalate (s.members.map Member.name)

@[simp] theorem members_ne_nil (s : Stage) : s.members ≠ [] := by simp [members]

end Stage

/-- A flow: its stages in the order they run. -/
structure Flow where
  /-- The stages in order. -/
  stages : List Stage
  deriving DecidableEq

namespace Flow

/-- All members in flow order, across the stages. -/
def members (f : Flow) : List Member := f.stages.flatMap Stage.members

/-- The names of the agents in flow order; humans are left out. -/
def agentNames (f : Flow) : List String := f.members.filterMap Member.agent?

/-- The stages' texts, with ` -> ` between them. -/
def text (f : Flow) : String := " -> ".intercalate (f.stages.map Stage.text)

/-- Some stage is led by a member with this name. -/
def isLed (f : Flow) (name : String) : Bool :=
  f.stages.any fun s => s.lead.name == name

end Flow

/-- What is wrong with a flow. -/
inductive FlowError where
  /-- There is no arrow. -/
  | missingSeparator
  /-- The stage with this index, from 0, has a blank where a name should be. -/
  | emptyMember (stage : Nat)
  /-- No agent is registered under the name. -/
  | agentNotRegistered (name : String)
  /-- The name occurs a second time. -/
  | duplicateAgent (name : String)
  deriving DecidableEq

/-- The error as it is reported. -/
def FlowError.message : FlowError → String
  | .missingSeparator => "Flow must include '->' to denote the direction of the task."
  | .emptyMember stage => "Stage " ++ toString stage ++ " of the flow contains an empty agent name."
  | .agentNotRegistered name => "Agent '" ++ name ++ "' is not registered."
  | .duplicateAgent name =>
    "Duplicate agent names in the flow are not allowed: '" ++ name ++ "'."

end Relay
