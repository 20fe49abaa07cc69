import Relay.Event
import Relay.Memory
import Relay.Terminal

/-!
# The world of a swarm

All that a run can touch besides the memory of its own swarm: the dealings with
agents and humans, the terminal, the events, the files, the memories of swarms
that serve as agents, and the supply of numbers that are used once. The clock
stands still, because agents answer at once.

What a simple agent remembers is the list of the requests made of it, so the
world holds all that an agent's answer can depend on.

## Main definitions

* `Request` — a task handed to an agent or a human.
* `Dealing` — a request, or a question put at the terminal.
* `World` — the world.
* `World.requestsTo` — what an agent or a human remembers.
* `World.ask` — a question put at the terminal.
* `World.memoryOf`, `World.setMemory` — the memories of swarms that serve as agents.
* `World.draw` — a number that was not used before.
-/

namespace Relay

/-- A task handed to an agent or a human. -/
structure Request where
  /-- The number of the agent or human, under which it remembers. -/
  number : Nat
  /-- The agent or human. -/
  member : Member
  task : String
  image : Option String
  deriving DecidableEq

/-- Something that an agent or a human was asked. -/
inductive Dealing where
  /-- A task was handed to an agent, or to a human in place of the terminal. -/
  | request (r : Request)
  /-- A human was prompted at the terminal. -/
  | question (prompt : Prompt)
  deriving DecidableEq

/-- The request, if the dealing is one. -/
def Dealing.request? : Dealing → Option Request
  | .request r => some r
  | .question _ => none

/-- All that a run can touch besides the memory of its own swarm. -/
structure World where
  /-- The next number of the supply. -/
  supply : Nat := 0
  /-- The time of day. -/
  clock : Timestamp := .epoch
  /-- The dealings with agents and humans, the earliest first. -/
  dealings : List Dealing := []
  terminal : Terminal := .ofInput []
  /-- The events reported, the earliest first. -/
  events : List Event := []
  files : Tree := .empty
  /-- The memories of the swarms that serve as agents, under their numbers. -/
  memories : List (Nat × Memory) := []

namespace World

/-- The requests made, the earliest first. -/
def requests (w : World) : List Request := w.dealings.filterMap Dealing.request?

/-- The requests made of one agent or human, the earliest first. -/
def requestsTo (w : World) (number : Nat) : List Request :=
  w.requests.filter (·.number == number)

/-- The world after a request. -/
def note (w : World) (r : Request) : World :=
  { w with dealings := w.dealings ++ [.request r] }

/-- A human is prompted at the terminal: the answer, and the world after it. -/
def ask (w : World) (prompt : Prompt) : Except IoError String × World :=
  let (answer, terminal) := w.terminal.ask prompt
  (answer, { w with dealings := w.dealings ++ [.question prompt], terminal := terminal })

/-- The world after an event. -/
def emit (w : World) (e : Event) : World := { w with events := w.events ++ [e] }

/-- The world after some events. -/
def emitAll (w : World) (es : List Event) : World := { w with events := w.events ++ es }

/-- The memory of the swarm that serves as an agent under the number. -/
def memoryOf (w : World) (number : Nat) : Memory :=
  ((w.memories.find? (·.1 == number)).map Prod.snd).getD default

/-- The world with the memory put under the number. -/
def setMemory (w : World) (number : Nat) (m : Memory) : World :=
  { w with memories := (number, m) :: w.memories.filter (·.1 != number) }

/-- A number that was not used before, and the world in which it is used. -/
def draw (w : World) : Nat × World := (w.supply, { w with supply := w.supply + 1 })

@[simp] theorem memoryOf_setMemory (w : World) (number : Nat) (m : Memory) :
    (w.setMemory number m).memoryOf number = m := by
  simp [memoryOf, setMemory]

end World

/-- The identifier made of a number: the form of a random identifier of version
4, with the number at its end. -/
def identifier (number : Nat) : String :=
  let digits := Nat.toDigits 16 number
  "00000000-0000-4000-8000-" ++ String.ofList (List.replicate (12 - digits.length) '0' ++ digits)

end Relay
