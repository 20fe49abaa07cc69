import Relay.Agent

/-!
# Rosters

A roster holds the agents of a swarm, at most one of each name. An agent that is
added takes the place of any agent of its name.

## Main definitions

* `Roster` — a table of agents, each under its own name.
* `Roster.add`, `Roster.addAll`, `Roster.remove`, `Roster.get`, `Roster.names`.
* `Roster.validate` — checks a flow text against the roster.

## Main statements

* `Roster.find?_add`, `Roster.find?_erase` — what each operation does to the
  view `find?`.
* `Roster.name_of_find?` — an agent is found under its own name.
-/

namespace Relay

/-- The agents of a swarm, each under its own name. -/
structure Roster where
  /-- The agents under their names. -/
  table : Table Agent
  /-- Every agent is under its own name. -/
  named : ∀ e ∈ table.entries, e.1 = e.2.name

namespace Roster

/-- The roster without agents. -/
def empty : Roster := ⟨.empty, by simp [Table.empty]⟩

instance : Inhabited Roster := ⟨empty⟩

/-- The roster with an agent added, in place of any agent of its name. -/
def add (r : Roster) (a : Agent) : Roster where
  table := r.table.insert a.name a
  named e he := by
    rcases Table.mem_put he with rfl | he
    · rfl
    · exact r.named e he

/-- The roster with agents added one after the other. -/
def addAll (r : Roster) (agents : List Agent) : Roster := agents.foldl add r

/-- The roster of some agents; of several with one name the last counts. -/
def ofList (agents : List Agent) : Roster := empty.addAll agents

/-- The agent of a name, if there is one. -/
def find? (r : Roster) (name : String) : Option Agent := r.table.find? name

/-- The agent of a name. -/
def get (r : Roster) (name : String) : Except RosterError Agent :=
  match r.find? name with
  | none => .error ⟨name⟩
  | some a => .ok a

/-- The roster without the agent of a name. -/
def erase (r : Roster) (name : String) : Roster where
  table := r.table.erase name
  named e he := r.named e (List.mem_filter.1 he).1

/-- Removes the agent of a name: the agent, and the roster without it. -/
def remove (r : Roster) (name : String) : Except RosterError (Agent × Roster) :=
  match r.find? name with
  | none => .error ⟨name⟩
  | some a => .ok (a, r.erase name)

/-- There is an agent of the name. -/
def contains (r : Roster) (name : String) : Bool := r.table.contains name

/-- The names in code point order. -/
def names (r : Roster) : List String := r.table.keys

/-- The number of agents. -/
def size (r : Roster) : Nat := r.table.size

/-- There is no agent. -/
def isEmpty (r : Roster) : Bool := r.table.isEmpty

/-- The agents in the order of their names. -/
def agents (r : Roster) : List Agent := r.table.entries.map Prod.snd

/-- The agents as a run sees them. -/
def crew (r : Roster) : Crew := crewOf r.agents

/-- Checks the flow that a text writes down against the roster. -/
def validate (r : Roster) (flow : String) : Except FlowError Unit :=
  match Flow.check r.contains flow with
  | .error e => .error e
  | .ok _ => .ok ()

theorem find?_add (r : Roster) (a : Agent) (name : String) :
    (r.add a).find? name = if a.name = name then some a else r.find? name :=
  Table.find?_insert ..

theorem find?_erase (r : Roster) (name other : String) :
    (r.erase name).find? other = if name = other then none else r.find? other :=
  Table.find?_erase ..

/-- An agent is found under its own name. -/
theorem name_of_find? {r : Roster} {name : String} {a : Agent} (h : r.find? name = some a) :
    a.name = name :=
  (r.named _ (Table.find?_eq_some_iff.1 h)).symm

theorem lookup_crewOf {name : String} : ∀ {entries : List (String × Agent)},
    (∀ e ∈ entries, e.1 = e.2.name) →
      Table.lookup name (crewOf (entries.map Prod.snd)) =
        (Table.lookup name entries).map Agent.respond
  | [], _ => by simp [crewOf, Table.lookup]
  | (key, a) :: rest, h => by
    have hkey : key = a.name := h _ List.mem_cons_self
    rw [List.map_cons, crewOf, Table.lookup, Table.lookup, hkey]
    split
    · rfl
    · exact lookup_crewOf fun e he => h e (List.mem_cons_of_mem _ he)

/-- The crew has the agents of the roster, under the same names. -/
theorem lookup_crew (r : Roster) (name : String) :
    Table.lookup name r.crew = (r.find? name).map Agent.respond :=
  lookup_crewOf r.named

end Roster

end Relay
