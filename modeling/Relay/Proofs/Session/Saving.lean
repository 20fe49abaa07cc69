import Relay.Proofs.Run.Record
import Relay.Proofs.Session.Apart

/-!
# Saving records changes no run

No run looks at the files, and if a record cannot be saved, that is reported and nothing
more. So whether records are saved and where, by a swarm or by the swarms among its
agents, makes no difference to anything else, and neither does what is in the files or
stands in the way of saving. Only the files can differ, and the reports of records that
could not be saved.

## Main definitions

* `Event.isUnsaved` — a record could not be saved.
* `Difference.inSaving` — sessions that differ in the saving of records and in the files.

## Main statements

* `Session.saving_changes_no_run` — builds, and whatever is done with two such sessions.
-/

namespace Relay

/-- The event tells that a record could not be saved. -/
def Event.isUnsaved : Event → Bool
  | .swarm _ (.unsaved ..) => true
  | _ => false

/-- The settings may differ in whether and where records are saved. The files may differ
altogether, and the events may differ in the records that could not be saved. -/
def Difference.inSaving : Difference where
  settings s t := t = { s with autosave := t.autosave, directory := t.directory }
  answers a b := a = b
  events l r := l.filter (!·.isUnsaved) = r.filter (!·.isUnsaved)
  files _ _ := True
  akin := by
    intro s t h
    rw [h]
    exact ⟨rfl, rfl, rfl, rfl, rfl, rfl, rfl⟩
  settings_refl _ := rfl
  settings_flow h flow := congrArg (fun s : Settings => { s with flow := flow }) h
  answers_refl _ := rfl
  text_eq h := congrArg Answer.text? h
  events_refl _ := rfl
  events_append h es := by rw [List.filter_append, List.filter_append, h]
  events_notice := by
    intro s t l r hs h notice
    have hsame : t.eventsOf notice = s.eventsOf notice := by
      rw [hs]
      rfl
    rw [hsame, List.filter_append, List.filter_append, h]
  events_answer := by
    rintro s t a _ l r hs rfl h name
    have hsame : answerEvents t name a = answerEvents s name a := by
      rw [hs]
      rfl
    rw [hsame, List.filter_append, List.filter_append, h]
  files_refl _ := trivial
  saving := by
    intro s t l r f g hs h _ record
    have hnone (s : Settings) (f : Tree) :
        (s.saving f record).2.filter (!·.isUnsaved) = [] := by
      rw [Settings.saving]
      split
      · simp only
        split
        · rfl
        · rw [Settings.eventsOf]
          split <;> rfl
      · rfl
    refine ⟨trivial, ?_⟩
    rw [List.filter_append, List.filter_append, hnone, hnone, h]

/-- Answers are not told apart only if they are the same, so the same is exchanged. -/
theorem eq_of_forall₂_inSaving {calls calls' : List Exchange}
    (h : List.Forall₂ (Exchange.Apart .inSaving) calls calls') : calls = calls' := by
  refine List.forall₂_eq_eq_eq ▸ h.imp fun e f hboth => ?_
  obtain ⟨agent, task, image, outcome⟩ := e
  obtain ⟨_, _, _, outcome'⟩ := f
  obtain ⟨rfl, rfl, rfl, houtcome⟩ := hboth
  match outcome, outcome', houtcome with
  | .ok a, .ok _, rfl => rfl
  | .error e, .error _, rfl => rfl

/-- A swarm may be told to save its records, and where. -/
theorem Builder.apart_autosave (b : Builder) (autosave : Bool) (directory : String) :
    b.Apart .inSaving ((b.autosave autosave).directory directory) :=
  ⟨rfl, fun _ => rfl, agents_apart_refl .inSaving b.agents⟩

namespace Session

/-- Two swarms may differ in whether and where they save their records, and so may the
swarms among their agents, in worlds with any files. Still both are built or neither is,
with the same error, and whatever is done with them gives the same back, with the same
exchanges, and leaves the same behind, but for the files and the reports of records that
could not be saved. -/
theorem saving_changes_no_run :
    (∀ {b b' : Builder} {w v : World}, b.Apart .inSaving b' → w.Apart .inSaving v →
      Difference.inSaving.Built (b.build w) (b'.build v)) ∧
    ∀ {x y : Session} {ops ops' : List Operation}, x.Apart .inSaving y →
      List.Forall₂ (Operation.Apart .inSaving) ops ops' →
      List.Forall₂ (Outcome.Apart .inSaving) (x.outcomes ops) (y.outcomes ops') ∧
        (x.performAll ops).Apart .inSaving (y.performAll ops') ∧
        ∀ order, ((x.performAll ops).runTraced order).2.1 =
          ((y.performAll ops').runTraced order).2.1 := by
  refine ⟨fun hb hworld => hb.build hworld, fun h hops => ?_⟩
  obtain ⟨houtcomes, hend⟩ := h.performAll hops
  refine ⟨houtcomes, hend, fun order => ?_⟩
  obtain ⟨-, hcalls, -⟩ := hend.runTraced order
  exact eq_of_forall₂_inSaving hcalls

/-! ### Records that cannot be saved -/

namespace Sample

/-- A swarm as an agent, whose first member fails when it is called a third time. -/
def nested (s : Settings) : Agent :=
  .swarm 2 { s with name := "N", flow := "B -> C" } [agent 3 "B" 2, agent 4 "C" 5]

/-- All records are to be saved in a directory whose name is that of a file. -/
def blocked : Session :=
  let x := saving "A -> N" 1 []
  let agents := [agent 1 "A" 5, nested x.swarm.settings]
  { world := { x.world with files := (Tree.empty.save "out" "x".toUTF8).2 }
    swarm := { x.swarm with roster := .ofList agents } }

/-- No records are to be saved, and there are no files. -/
def unsaving : Session :=
  let x := session "A -> N" 1 []
  { x with swarm := { x.swarm with
      roster := .ofList [agent 1 "A" 5, nested x.swarm.settings] } }

theorem blocked_apart : blocked.Apart .inSaving unsaving where
  world := ⟨rfl, rfl, rfl, rfl, rfl, rfl, trivial⟩
  settings := rfl
  roster := by
    refine (Roster.Apart.refl .inSaving .empty).addAll (.cons (.refl _ _) (.cons ?_ .nil))
    exact .swarm rfl (agents_apart_refl _ _)
  memory := rfl

/-- Runs before and after a change of the flow, the last of which break off. -/
def changes : List Operation :=
  [.run "s", .setFlow "N -> A", .runBatch ["t", "u"], .removeAgent "N", .validateFlow]

theorem changes_apart : List.Forall₂ (Operation.Apart .inSaving) changes changes :=
  List.forall₂_same.mpr fun op _ => .same op

/-- A swarm that has yet to be built. -/
def unbuilt : Builder :=
  { config := { name := "S", flow := "A -> N" }
    agents := [agent 1 "A" 5, nested unsaving.swarm.settings] }

end Sample

/-- Two records of each of two runs could not be saved, and that changed nothing else. The
third run broke off, and that is all that was reported without saving. -/
theorem saving_changes_no_run_blocked :
    Sample.unbuilt.Apart .inSaving ((Sample.unbuilt.autosave true).directory "out") ∧
      Sample.unsaving.world.Apart .inSaving Sample.blocked.world ∧
      Difference.inSaving.Built (Sample.unbuilt.build Sample.unsaving.world)
        (((Sample.unbuilt.autosave true).directory "out").build Sample.blocked.world) ∧
      Sample.blocked.Apart .inSaving Sample.unsaving ∧
      List.Forall₂ (Operation.Apart .inSaving) Sample.changes Sample.changes ∧
      List.Forall₂ (Outcome.Apart .inSaving) (Sample.blocked.outcomes Sample.changes)
        (Sample.unsaving.outcomes Sample.changes) ∧
      (Sample.blocked.performAll Sample.changes).Apart .inSaving
        (Sample.unsaving.performAll Sample.changes) ∧
      ((Sample.blocked.performAll Sample.changes).world.events.filter Event.isUnsaved).length = 4 ∧
      (Sample.unsaving.performAll Sample.changes).world.events.length = 1 := by
  have hbuilder := Sample.unbuilt.apart_autosave true "out"
  have hworld : Sample.unsaving.world.Apart .inSaving Sample.blocked.world :=
    ⟨rfl, rfl, rfl, rfl, rfl, rfl, trivial⟩
  have hbuilt := saving_changes_no_run.1 hbuilder hworld
  obtain ⟨houtcomes, hend, -⟩ :=
    saving_changes_no_run.2 Sample.blocked_apart Sample.changes_apart
  exact ⟨hbuilder, hworld, hbuilt, Sample.blocked_apart, Sample.changes_apart, houtcomes, hend,
    by decide +kernel, by decide +kernel⟩

end Session

end Relay
