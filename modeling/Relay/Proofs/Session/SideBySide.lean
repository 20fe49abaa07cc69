import Relay.Proofs.Run.Trace

/-!
# Sessions side by side

A run may be asked for in several forms, alone or in a batch, but whatever the form, it
is one and the same run and a report of how it ended. So if runs of two sessions that are
related come to the same outcome and leave related sessions behind, this holds for runs
in all forms.

## Main definitions

* `Session.EndAlike` — the same was given back, and the sessions left behind are related.
* `Session.RunAlike` — a relation that all runs keep.

## Main statements

* `Session.runTraced_of_together` — runs whose results go together.
* `Session.RunAlike.runWith`, `Session.RunAlike.run`, `Session.RunAlike.runBatch`,
  `Session.RunAlike.respond`, `Session.RunAlike.runAsSwarm` — runs in all forms.
-/

namespace Relay

namespace Session

/-- Runs whose results go together have the same outcome, and end in related states. -/
theorem runTraced_of_together {x y : Session} {order : Order} {R : RunState → RunState → Prop}
    (h : Together R Eq (attempt x.swarm.settings x.swarm.roster.crew order x.start)
      (attempt y.swarm.settings y.swarm.roster.crew order y.start)) :
    ∃ outcome st su, R st su ∧ x.runTraced order = (outcome, st.exchanges, x.afterRun st) ∧
      y.runTraced order = (outcome, su.exchanges, y.afterRun su) := by
  rw [runTraced_eq, runTraced_eq]
  generalize attempt x.swarm.settings x.swarm.roster.crew order x.start = r at h
  generalize attempt y.swarm.settings y.swarm.roster.crew order y.start = r' at h
  cases h with
  | ok hend => exact ⟨_, _, _, hend, rfl, rfl⟩
  | error he hend =>
    subst he
    exact ⟨_, _, _, hend, rfl, rfl⟩

/-- The same was given back, and the sessions left behind are related. -/
def EndAlike {α : Type} (R : Session → Session → Prop) (p q : α × Session) : Prop :=
  p.1 = q.1 ∧ R p.2 q.2

theorem EndAlike.exists_eq {α : Type} {R : Session → Session → Prop} {p q : α × Session}
    (h : EndAlike R p q) : ∃ a x y, p = (a, x) ∧ q = (a, y) ∧ R x y :=
  ⟨p.1, p.2, q.2, rfl, by rw [h.1], h.2⟩

/-- Runs of related sessions come to the same outcome and leave related sessions behind. -/
structure RunAlike (R : Session → Session → Prop) : Prop where
  name_eq : ∀ {x y}, R x y → x.swarm.name = y.swarm.name
  announce : ∀ {x y}, R x y → ∀ notice, R (x.announce notice) (y.announce notice)
  tryRun : ∀ {x y}, R x y → ∀ order, EndAlike R (x.tryRun order) (y.tryRun order)

namespace RunAlike

variable {R : Session → Session → Prop} {x y : Session} (hR : RunAlike R)

include hR

theorem runWith (h : R x y) (order : Order) : EndAlike R (x.runWith order) (y.runWith order) := by
  obtain ⟨outcome, x', y', hx, hy, hend⟩ := (hR.tryRun h order).exists_eq
  rw [Session.runWith, Session.runWith, hx, hy]
  cases outcome with
  | ok text => exact ⟨rfl, hend⟩
  | error e =>
    cases e with
    | flow e => exact ⟨rfl, hR.announce hend _⟩
    | _ => exact ⟨rfl, hR.announce hend _⟩

theorem run (h : R x y) (task : String) : EndAlike R (x.run task) (y.run task) :=
  hR.runWith h { task := task }

theorem runEach (h : R x y) (results : Table String) (tasks : List String) :
    EndAlike R (x.runEach results tasks) (y.runEach results tasks) := by
  induction tasks generalizing x y results with
  | nil => exact ⟨rfl, h⟩
  | cons task rest ih =>
    obtain ⟨text, x', y', hx, hy, hend⟩ := (hR.run h task).exists_eq
    rw [Session.runEach, Session.runEach, hx, hy]
    exact ih hend _

theorem runBatch (h : R x y) (tasks : List String) :
    EndAlike R (x.runBatch tasks) (y.runBatch tasks) := by
  rw [Session.runBatch, Session.runBatch]
  split
  · exact ⟨rfl, h⟩
  · obtain ⟨hresults, hend⟩ := hR.runEach h .empty tasks
    exact ⟨congrArg Except.ok hresults, hend⟩

theorem respond (h : R x y) (task : String) (image : Option String) :
    EndAlike R (x.respond task image) (y.respond task image) := by
  obtain ⟨outcome, x', y', hx, hy, hend⟩ := (hR.tryRun h { task := task, image := image }).exists_eq
  rw [Session.respond, Session.respond, hx, hy]
  cases outcome with
  | ok text => exact ⟨rfl, hend⟩
  | error e =>
    exact ⟨congrArg (fun name => Except.error (AgentError.mk name e.message)) (hR.name_eq hend),
      hend⟩

theorem runAsSwarm (h : R x y) (task : String) :
    EndAlike R (x.runAsSwarm task) (y.runAsSwarm task) := by
  obtain ⟨outcome, x', y', hx, hy, hend⟩ := (hR.tryRun h { task := task }).exists_eq
  rw [Session.runAsSwarm, Session.runAsSwarm, hx, hy]
  cases outcome with
  | ok text => exact ⟨rfl, hend⟩
  | error e => exact ⟨rfl, hend⟩

end RunAlike

end Session

end Relay
