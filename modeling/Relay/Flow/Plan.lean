import Relay.Flow

/-!
# Plans

A plan is a flow laid out in steps. A custom task adds one step: its text is
appended to the running task right before the stage that the target leads. A
target that leads no stage adds nothing.

## Main definitions

* `CustomTask`, `Step` — what may be spliced in, and the steps of a plan.
* `Flow.plan` — the steps of a flow with an optional custom task.
* `extendTask` — a task with a custom text appended.
-/

namespace Relay

/-- A text addressed to the stage that the target leads. -/
structure CustomTask where
  /-- The name of the stage's lead. -/
  target : String
  /-- The text to append to the task in front of that stage. -/
  text : String
  deriving DecidableEq

/-- One step of a plan. -/
inductive Step where
  /-- Hand the running task to a stage. -/
  | stage (s : Stage)
  /-- Append a text to the running task. -/
  | inject (text : String)
  deriving DecidableEq

/-- The task with an arrow and the text appended. -/
def extendTask (task text : String) : String :=
  task ++ " -> " ++ text

/-- The stages as steps, with the custom text in front of the first stage that
its target leads. -/
def stepsWith (custom : CustomTask) : List Stage → List Step
  | [] => []
  | s :: rest =>
    if s.lead.name = custom.target then .inject custom.text :: .stage s :: rest.map .stage
    else .stage s :: stepsWith custom rest

namespace Flow

/-- The steps of a flow with an optional custom task. -/
def plan (f : Flow) : Option CustomTask → List Step
  | none => f.stages.map .stage
  | some custom => stepsWith custom f.stages

@[simp] theorem plan_none (f : Flow) : f.plan none = f.stages.map .stage := rfl

/-- A target that leads no stage leaves the plan as it is. -/
theorem plan_of_not_led (f : Flow) (custom : CustomTask) (h : f.isLed custom.target = false) :
    f.plan (some custom) = f.plan none := by
  obtain ⟨stages⟩ := f
  simp only [isLed] at h
  simp only [plan]
  induction stages with
  | nil => rfl
  | cons s rest ih =>
    simp only [List.any_cons, Bool.or_eq_false_iff, beq_eq_false_iff_ne] at h
    rw [stepsWith, if_neg h.1, List.map_cons, ih h.2]

end Flow

end Relay
