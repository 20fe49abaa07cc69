import Relay.Run

/-!
# Agents

An agent is simple or a swarm. A simple agent answers by what it remembers and
what it is asked; it remembers the requests made of it. A swarm that serves as
an agent runs its own flow with its own agents, keeps its own memory, and
answers with the text of its run.

## Main definitions

* `Agent` — an agent with its name and description.
* `Agent.respond` — the answer of an agent.
* `respondOf` — the answer of a swarm with a given crew.
-/

namespace Relay

/-- An agent. -/
inductive Agent where
  /-- A simple agent: its number, under which it remembers, and its answer to a
  request after the earlier requests made of it. -/
  | simple (number : Nat) (name description : String)
      (answer : List Request → Request → Except AgentError Answer)
  /-- A swarm: the number under which its memory is kept, what it is set to, and
  its agents. -/
  | swarm (number : Nat) (settings : Settings) (agents : List Agent)

namespace Agent

/-- The name of an agent. -/
def name : Agent → String
  | .simple _ name _ _ => name
  | .swarm _ settings _ => settings.name

/-- What an agent is said to do. -/
def description : Agent → String
  | .simple _ _ description _ => description
  | .swarm _ settings _ => settings.description

end Agent

/-- The answer of a swarm with a given crew: the text of a run, or a failure in
its name. Its memory is kept under the number. -/
def respondOf (number : Nat) (s : Settings) (crew : Crew) : Responder := fun task image w =>
  match attempt s crew ⟨task, image, []⟩ ⟨w, w.memoryOf number, []⟩ with
  | .ok text st => .ok (.text text) (st.world.setMemory number st.memory)
  | .error e st => .error ⟨s.name, e.message⟩ (st.world.setMemory number st.memory)

mutual

/-- The answer of an agent to a task with an image. -/
def Agent.respond : Agent → Responder
  | .simple number name _ answer => fun task image w =>
    let r : Request := ⟨number, .agent name, task, image⟩
    match answer (w.requestsTo number) r with
    | .ok a => .ok a (w.note r)
    | .error e => .error e (w.note r)
  | .swarm number s agents => respondOf number s (crewOf agents)

/-- The agents as a run sees them. -/
def crewOf : List Agent → Crew
  | [] => []
  | a :: rest => (a.name, a.respond) :: crewOf rest

end

end Relay
