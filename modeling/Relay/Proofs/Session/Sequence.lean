import Relay.Proofs.Session.Operation

/-!
# Runs in sequence

Operations come to runs: a batch to several, a change of the flow to none. Runs follow one
another, of one swarm or of several, and each finds some part of the world as the run before
it has left it. Reports may be made between two runs, and flows and agents may change.

## Main definitions

* `Session.runsOn`, `Session.runsOnAll` — the runs that operations come to.
* `InTurn` — runs that take over a part of the world from one another.

## Main statements

* `Session.performAll_inTurn` — the runs that operations come to are in turn.
-/

namespace Relay

/-- Runs, each with the session in which it starts. The part of the world that the first
finds is handed on from one to the next. -/
inductive InTurn {β : Type} (part : World → β) : β → List (Session × Order) → β → Prop
  | nil (b : β) : InTurn part b [] b
  | cons {x : Session} {order : Order} {runs : List (Session × Order)} {b : β}
      (h : InTurn part (part (x.tryRun order).2.world) runs b) :
      InTurn part (part x.world) ((x, order) :: runs) b

theorem InTurn.append {β : Type} {part : World → β} {a b c : β} {l r : List (Session × Order)}
    (h : InTurn part a l b) (h' : InTurn part b r c) : InTurn part a (l ++ r) c := by
  induction h with
  | nil b => exact h'
  | cons _ ih => exact .cons (ih h')

namespace Session

/-- Runs on tasks, one after the other, each with the session in which it starts. -/
def runsOfTasks (x : Session) : List String → List (Session × Order)
  | [] => []
  | task :: rest => (x, { task := task }) :: (x.run task).2.runsOfTasks rest

/-- The runs that an operation comes to, each with the session in which it starts. -/
def runsOn (x : Session) : Operation → List (Session × Order)
  | .tryRun order => [(x, order)]
  | .runWith order => [(x, order)]
  | .run task => [(x, { task := task })]
  | .runBatch tasks => x.runsOfTasks tasks
  | .respond task image => [(x, { task := task, image := image })]
  | .runAsSwarm task => [(x, { task := task })]
  | _ => []

/-- The runs that operations come to, one after the other. -/
def runsOnAll (x : Session) : List Operation → List (Session × Order)
  | [] => []
  | op :: ops => x.runsOn op ++ (x.perform op).runsOnAll ops

section Turns

variable {β : Type} {part : World → β} (hpart : ∀ (w : World) (es : List Event),
  part (w.emitAll es) = part w) (x : Session)

include hpart

/-- What is reported of a failure is left out. -/
theorem runWith_inTurn (order : Order) :
    InTurn part (part x.world) [(x, order)] (part (x.runWith order).2.world) := by
  have hend : part (x.runWith order).2.world = part (x.tryRun order).2.world := by
    rw [runWith]
    obtain ⟨outcome, y⟩ := x.tryRun order
    cases outcome with
    | ok text => rfl
    | error e =>
      cases e with
      | flow e => exact hpart ..
      | _ => exact hpart ..
  rw [hend]
  exact .cons (.nil _)

theorem runsOfTasks_inTurn (tasks : List String) :
    InTurn part (part x.world) (x.runsOfTasks tasks)
      (part (tasks.foldl (fun x task => (x.run task).2) x).world) := by
  induction tasks generalizing x with
  | nil => exact .nil _
  | cons task rest ih =>
    exact (x.runWith_inTurn hpart { task := task }).append (ih (x.run task).2)

/-- The runs that an operation comes to are in turn. -/
theorem perform_inTurn {op : Operation} (hop : ∀ w, op ≠ .meanwhile w) :
    InTurn part (part x.world) (x.runsOn op) (part (x.perform op).world) := by
  have halone (order : Order) :
      InTurn part (part x.world) [(x, order)] (part (x.tryRun order).2.world) := .cons (.nil _)
  have hquiet {y : Session} {es : List Event} (hy : y.world = x.world.emitAll es) :
      InTurn part (part x.world) [] (part y.world) := by
    rw [hy, hpart]
    exact .nil _
  cases op with
  | tryRun order => exact halone order
  | runWith order => exact x.runWith_inTurn hpart order
  | run task => exact x.runWith_inTurn hpart { task := task }
  | runBatch tasks =>
    rw [perform, runBatch_snd]
    exact x.runsOfTasks_inTurn hpart tasks
  | respond task image =>
    rw [perform, respond_snd]
    exact halone _
  | runAsSwarm task =>
    rw [perform, runAsSwarm_snd]
    exact halone _
  | setFlow flow => exact hquiet rfl
  | addAgent a => exact hquiet rfl
  | removeAgent name =>
    rw [perform, removeAgent]
    cases x.swarm.roster.remove name with
    | error e => exact .nil _
    | ok found => exact hquiet rfl
  | validateFlow =>
    rw [perform, validateFlow]
    obtain ⟨checked, readings⟩ :=
      x.swarm.memory.readings.check x.swarm.roster.contains x.swarm.settings.flow
    cases checked with
    | error e => exact .nil _
    | ok flow => exact hquiet rfl
  | track agent text => exact .nil _
  | meanwhile w => exact absurd rfl (hop w)

/-- The runs that operations come to are in turn, unless something else happens between
them. -/
theorem performAll_inTurn {ops : List Operation} (hops : ∀ op ∈ ops, ∀ w, op ≠ .meanwhile w) :
    InTurn part (part x.world) (x.runsOnAll ops) (part (x.performAll ops).world) := by
  induction ops generalizing x with
  | nil => exact .nil _
  | cons op ops ih =>
    have hfirst := x.perform_inTurn hpart (hops op List.mem_cons_self)
    exact hfirst.append (ih (x.perform op) fun o ho => hops o (List.mem_cons_of_mem op ho))

end Turns

end Session

end Relay
