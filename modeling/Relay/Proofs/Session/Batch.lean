import Relay.Proofs.Run.Prompts
import Relay.Proofs.Session.Operation

/-!
# Batches of runs

A batch runs its tasks one after the other, in their order and with all repetitions, and
gives back what came of each task the last time it was run. A run that fails does not
stop the others.

If the agents and the human of a swarm always answer the same to the same, a run in which
nobody is prompted does not depend on what was run before. Then the order of the tasks in
a batch makes no difference to what is given back, and neither do repetitions.

## Main definitions

* `Session.runAll` — runs on several tasks.
* `Session.BatchOf` — what is given back for a batch.
* `Session.Settled` — all agents and humans always answer the same to the same.

## Main statements

* `Session.runBatch_batchOf` — what a batch comes to, and when its order does not matter.
-/

namespace Relay

/-- Where in a list of tasks a task stands for the last time. -/
theorem exists_last_of_mem {task : String} {tasks : List String} (h : task ∈ tasks) :
    ∃ before after, tasks = before ++ task :: after ∧ task ∉ after := by
  obtain ⟨after, before, hreverse, hafter⟩ :=
    List.eq_append_cons_of_mem (List.mem_reverse.mpr h)
  refine ⟨before.reverse, after.reverse, ?_, by simpa using hafter⟩
  rw [← List.reverse_reverse tasks, hreverse]
  simp

namespace Session

/-- The session after runs on tasks, one after the other. -/
def runAll (x : Session) (tasks : List String) : Session :=
  tasks.foldl (fun y task => (y.run task).2) x

section Runs

variable (x : Session)

theorem runAll_append (tasks more : List String) :
    x.runAll (tasks ++ more) = (x.runAll tasks).runAll more := List.foldl_append

/-! ### What runs leave as it is -/

theorem run_swarm (task : String) : (x.run task).2.swarm.settings = x.swarm.settings ∧
    (x.run task).2.swarm.roster = x.swarm.roster := by
  rw [run, (x.runWith_quiet { task := task }).swarm, runTraced_eq]
  cases attempt x.swarm.settings x.swarm.roster.crew { task := task } x.start <;> exact ⟨rfl, rfl⟩

theorem runAll_swarm (tasks : List String) :
    (x.runAll tasks).swarm.settings = x.swarm.settings ∧
      (x.runAll tasks).swarm.roster = x.swarm.roster := by
  induction tasks generalizing x with
  | nil => exact ⟨rfl, rfl⟩
  | cons task rest ih =>
    obtain ⟨hsettings, hroster⟩ := x.run_swarm task
    obtain ⟨hsettings', hroster'⟩ := ih (x.run task).2
    exact ⟨hsettings'.trans hsettings, hroster'.trans hroster⟩

theorem run_terminal (task : String) :
    let ended := attempt x.swarm.settings x.swarm.roster.crew { task := task } x.start
    (x.run task).2.world.terminal = (stateOf ended).world.terminal := by
  rw [run, (x.runWith_quiet { task := task }).world.terminal, runTraced_eq]
  cases attempt x.swarm.settings x.swarm.roster.crew { task := task } x.start <;> rfl

theorem run_reaches (task : String) :
    x.world.terminal.Reaches (x.run task).2.world.terminal := by
  have hrun : Unswayed False (attempt x.swarm.settings x.swarm.roster.crew { task := task })
      (attempt x.swarm.settings x.swarm.roster.crew { task := task }) :=
    attempt_unswayed False.elim (crewOf_reaches x.swarm.roster.agents) False.elim _
  rw [run_terminal]
  exact hrun.reaches x.start

theorem runAll_reaches (tasks : List String) :
    x.world.terminal.Reaches (x.runAll tasks).world.terminal := by
  induction tasks generalizing x with
  | nil => exact .refl
  | cons task rest ih => exact (x.run_reaches task).trans (ih (x.run task).2)

/-! ### What a batch gives back -/

theorem runEach_concat (results : Table String) (tasks : List String) (task : String) :
    (x.runEach results (tasks ++ [task])).1 =
      (x.runEach results tasks).1.insert task ((x.runAll tasks).run task).1 := by
  induction tasks generalizing x results with
  | nil => rfl
  | cons first rest ih =>
    rw [List.cons_append, runEach, runEach]
    exact ih (x.run first).2 (results.insert first (x.run first).1)

/-- There is something for each of the tasks, and for no other. -/
theorem contains_runEach (tasks : List String) (task : String) :
    (x.runEach .empty tasks).1.contains task ↔ task ∈ tasks := by
  induction tasks using List.reverseRecOn with
  | nil => simp [runEach, Table.contains]
  | append_singleton tasks last ih =>
    rw [runEach_concat, Table.contains, Table.find?_insert, List.mem_append, List.mem_singleton]
    by_cases htask : last = task
    · simp [htask]
    · rw [if_neg htask]
      exact ih.trans (by simp [Ne.symm htask])

/-- A task that is run several times has what came of the last of its runs. -/
theorem find?_runEach {before after : List String} {task : String} (h : task ∉ after) :
    (x.runEach .empty (before ++ task :: after)).1.find? task =
      some ((x.runAll before).run task).1 := by
  induction after using List.reverseRecOn with
  | nil => rw [runEach_concat, Table.find?_insert, if_pos rfl]
  | append_singleton after last ih =>
    rw [List.mem_append, List.mem_singleton, not_or] at h
    have hlast : before ++ task :: (after ++ [last]) = (before ++ task :: after) ++ [last] := by
      simp
    rw [hlast, runEach_concat, Table.find?_insert, if_neg (Ne.symm h.2)]
    exact ih h.1

end Runs

/-- What is given back for a batch: there is something for each of the tasks and for no
other, and it is what the last of the runs on the task gave back. If that run failed, it
is what the failure is reported as. -/
structure BatchOf (x : Session) (tasks : List String) (results : Table String) : Prop where
  mem_keys : ∀ task, task ∈ results.keys ↔ task ∈ tasks
  find? : ∀ before task after, tasks = before ++ task :: after → task ∉ after →
    results.find? task = some ((x.runAll before).run task).1
  failed : ∀ before task after e, tasks = before ++ task :: after → task ∉ after →
    ((x.runAll before).tryRun { task := task }).1 = .error e →
      results.find? task = some (outputOf (.error e))

/-- A batch never fails, unless it is empty. -/
theorem runBatch_of_ne_nil (x : Session) {tasks : List String} (h : tasks ≠ []) :
    ∃ results, x.runBatch tasks = (.ok results, x.runAll tasks) ∧ x.BatchOf tasks results := by
  have hlast (before : List String) (task : String) (after : List String)
      (htasks : tasks = before ++ task :: after) (hafter : task ∉ after) :
      (x.runEach .empty tasks).1.find? task = some ((x.runAll before).run task).1 :=
    htasks ▸ x.find?_runEach hafter
  refine ⟨(x.runEach .empty tasks).1, Prod.ext ?_ (x.runBatch_snd tasks), ?_, hlast, ?_⟩
  · rw [runBatch, if_neg (by simpa using h)]
  · intro task
    rw [← Table.contains_iff]
    exact x.contains_runEach tasks task
  · intro before task after e htasks hafter hfail
    rw [hlast before task after htasks hafter, run, runWith_fst, hfail]

/-! ### Batches in any order -/

/-- All agents of the swarm, and its human in case it has one that answers in place of the
terminal, always answer the same to the same. -/
structure Settled (x : Session) : Prop where
  agents : ∀ a ∈ x.swarm.roster.agents, a.respond.Fixed
  human : ∀ human, x.swarm.settings.human = some human → x.swarm.settings.humanInTheLoop = true →
    human.Fixed

theorem Settled.crew {x : Session} (h : x.Settled) (name : String) (respond : Responder)
    (hfind : Table.lookup name x.swarm.roster.crew = some respond) : respond.Fixed := by
  rw [Roster.crew, lookup_crewOf_eq_find?] at hfind
  obtain ⟨a, ha, rfl⟩ := Option.map_eq_some_iff.mp hfind
  exact h.agents a (List.mem_of_find?_eq_some ha)

/-- If nobody is prompted in it, a run gives the same back as in any other session of the
swarm. -/
theorem Settled.run_eq {x y : Session} {task : String} (h : x.Settled)
    (hsettings : y.swarm.settings = x.swarm.settings) (hroster : y.swarm.roster = x.swarm.roster)
    (hend : (x.run task).2.world.terminal = x.world.terminal) :
    (y.run task).1 = (x.run task).1 := by
  have hrun : Unswayed True (attempt x.swarm.settings x.swarm.roster.crew { task := task })
      (attempt x.swarm.settings x.swarm.roster.crew { task := task }) :=
    attempt_unswayed (fun _ => h.human) (crewOf_reaches x.swarm.roster.agents) (fun _ => h.crew) _
  have hboth := hrun.same trivial x.start y.start (x.run_terminal task ▸ hend)
  obtain ⟨outcome, st, su, -, hx, hy⟩ := runTraced_of_together (x := x) (y := y) (by
    rw [hsettings, hroster]
    exact hboth)
  rw [run, run, runWith_fst, runWith_fst, tryRun, tryRun, hx, hy]

/-- In a batch in which nobody is prompted, every run gives back what it would have given
back in any other session of the swarm. -/
theorem Settled.run_eq_of_mem {x y : Session} {tasks : List String} {task : String}
    (h : x.Settled) (hend : (x.runAll tasks).world.terminal = x.world.terminal)
    (hmem : task ∈ tasks) (hsettings : y.swarm.settings = x.swarm.settings)
    (hroster : y.swarm.roster = x.swarm.roster) : (y.run task).1 = (x.run task).1 := by
  obtain ⟨before, after, rfl⟩ := List.append_of_mem hmem
  obtain ⟨hsettings', hroster'⟩ := x.runAll_swarm before
  let z := x.runAll before
  have hz : z.Settled := ⟨hroster' ▸ h.agents, hsettings' ▸ h.human⟩
  have hbefore : x.world.terminal.Reaches z.world.terminal := x.runAll_reaches before
  have hrun : z.world.terminal.Reaches (z.run task).2.world.terminal := z.run_reaches task
  have hafter : (z.run task).2.world.terminal.Reaches x.world.terminal := by
    rw [← hend, runAll_append]
    exact (z.run task).2.runAll_reaches after
  have hfirst : z.world.terminal = x.world.terminal := hbefore.antisymm (hrun.trans hafter)
  have hlast : (z.run task).2.world.terminal = z.world.terminal :=
    hrun.antisymm (hfirst ▸ hafter)
  rw [hz.run_eq (hsettings.trans hsettings'.symm) (hroster.trans hroster'.symm) hlast,
    hz.run_eq hsettings'.symm hroster'.symm hlast]

section Order

variable {x : Session} {tasks others : List String} {results given : Table String} {task : String}

theorem BatchOf.find?_eq_none (h : x.BatchOf tasks results) (hmem : task ∉ tasks) :
    results.find? task = none := by
  have hkey : task ∉ results.keys := fun hkey => hmem ((h.mem_keys task).mp hkey)
  rw [← Option.not_isSome_iff_eq_none]
  exact fun hfound => hkey (Table.contains_iff.mp hfound)

/-- Among whatever tasks it is run, a task comes to what it comes to alone, if nobody is
prompted in some batch with it. -/
theorem BatchOf.find?_alone (hgiven : x.BatchOf others given) (h : x.Settled)
    (hend : (x.runAll tasks).world.terminal = x.world.terminal) (hmem : task ∈ tasks)
    (hother : task ∈ others) : given.find? task = some (x.run task).1 := by
  obtain ⟨before, after, hothers, hafter⟩ := exists_last_of_mem hother
  obtain ⟨hsettings, hroster⟩ := x.runAll_swarm before
  rw [hgiven.find? before task after hothers hafter, h.run_eq_of_mem hend hmem hsettings hroster]

/-- If nobody is prompted in a batch, all batches of the same tasks give the same back. -/
theorem BatchOf.eq_of_mem_iff (hof : x.BatchOf tasks results) (hgiven : x.BatchOf others given)
    (h : x.Settled) (hend : (x.runAll tasks).world.terminal = x.world.terminal)
    (hsame : ∀ task, task ∈ others ↔ task ∈ tasks) : given = results := by
  refine Table.ext_find? fun task => ?_
  by_cases hmem : task ∈ tasks
  · rw [hof.find?_alone h hend hmem hmem, hgiven.find?_alone h hend hmem ((hsame task).mpr hmem)]
  · rw [hof.find?_eq_none hmem, hgiven.find?_eq_none fun hother => hmem ((hsame task).mp hother)]

end Order

/-- A batch that is not empty never fails. It does what runs on its tasks do, one after the
other, and gives back what came of each task the last time. If all agents and humans always
answer the same to the same and nobody is prompted, the order of the tasks makes no
difference, and neither do repetitions: what is given back is what each run alone gives
back. A batch without tasks is refused, and nothing happens. -/
theorem runBatch_batchOf (x : Session) (tasks : List String) :
    x.runBatch [] = (.error .emptyTasks, x) ∧
      (tasks ≠ [] → ∃ results, x.runBatch tasks = (.ok results, x.runAll tasks) ∧
        x.BatchOf tasks results ∧
        (x.Settled → (x.runAll tasks).world.terminal.prompts = x.world.terminal.prompts →
          (∀ task ∈ tasks, results.find? task = some (x.run task).1) ∧
            ∀ others, (∀ task, task ∈ others ↔ task ∈ tasks) →
              (x.runBatch others).1 = .ok results)) := by
  refine ⟨rfl, fun hne => ?_⟩
  obtain ⟨results, hbatch, hof⟩ := x.runBatch_of_ne_nil hne
  refine ⟨results, hbatch, hof, fun h hprompts => ?_⟩
  have hend : (x.runAll tasks).world.terminal = x.world.terminal :=
    (x.runAll_reaches tasks).eq_of_length_le (by rw [hprompts])
  refine ⟨fun task hmem => hof.find?_alone h hend hmem hmem, fun others hsame => ?_⟩
  have hne' : others ≠ [] := by
    rintro rfl
    obtain ⟨task, hmem⟩ := List.exists_mem_of_ne_nil tasks hne
    exact absurd ((hsame task).mpr hmem) List.not_mem_nil
  obtain ⟨given, hgiven, hof'⟩ := x.runBatch_of_ne_nil hne'
  rw [hgiven, hof.eq_of_mem_iff hof' h hend hsame]

/-! ### A human who remembers -/

namespace Sample

/-- An agent that answers with its task. -/
def echo (number : Nat) (name : String) : Agent :=
  .simple number name "" fun _ r => .ok (.text r.task)

/-- A swarm with a human who answers in place of the terminal. -/
def asking (flow : String) (agents : List Agent) (answer : List String → String → String) :
    Session :=
  let x := session flow 1 agents
  { x with swarm := { x.swarm with
      settings := { x.swarm.settings with human := some ⟨9, answer⟩, humanInTheLoop := true } } }

/-- The human answers the first task in another way than those behind it. -/
def counting : Session :=
  asking "A -> H" [echo 1 "A"] fun past task => if past.isEmpty then task ++ "1" else task ++ "2"

/-- An agent that cannot work on one task. -/
def picky (number : Nat) (name : String) : Agent :=
  .simple number name "" fun _ r =>
    if r.task = "t!" then .error ⟨name, "no"⟩ else .ok (.text (r.task ++ name))

/-- The human always answers in the same way. -/
def settled : Session :=
  asking "A -> B, H" [echo 1 "A", picky 2 "B"] fun _ task => task ++ "!"

theorem settled_settled : settled.Settled where
  agents a ha := by
    have hagents : settled.swarm.roster.agents = [echo 1 "A", picky 2 "B"] := rfl
    rcases List.mem_cons.mp (hagents ▸ ha) with rfl | ha
    · exact Agent.respond_fixed fun _ _ _ => rfl
    · obtain rfl := List.mem_singleton.mp ha
      exact Agent.respond_fixed fun _ _ _ => rfl
  human human hhuman _ := by
    cases hhuman
    exact fun _ _ _ => rfl

end Sample

/-- One of the tasks fails. In whatever order and how often ever the tasks are run, the same
is given back. -/
theorem runBatch_batchOf_settled :
    Sample.settled.Settled ∧
      (Sample.settled.runAll ["s", "t", "s"]).world.terminal.prompts =
        Sample.settled.world.terminal.prompts ∧
      ∃ results, Sample.settled.runBatch ["s", "t", "s"] =
          (.ok results, Sample.settled.runAll ["s", "t", "s"]) ∧
        (Sample.settled.runBatch ["t", "s"]).1 = .ok results ∧
        results.find? "s" = some "s!B" ∧ results.find? "t" = some "Agent 'B' failed: no" := by
  have hprompts : (Sample.settled.runAll ["s", "t", "s"]).world.terminal.prompts =
      Sample.settled.world.terminal.prompts := by decide +kernel
  obtain ⟨-, hbatch⟩ := runBatch_batchOf Sample.settled ["s", "t", "s"]
  obtain ⟨results, hbatch, -, hany⟩ := hbatch (by decide)
  obtain ⟨halone, hsame⟩ := hany Sample.settled_settled hprompts
  have hs : (Sample.settled.run "s").1 = "s!B" := by decide +kernel
  have ht : (Sample.settled.run "t").1 = "Agent 'B' failed: no" := by decide +kernel
  refine ⟨Sample.settled_settled, hprompts, results, hbatch, hsame ["t", "s"] ?_, ?_, ?_⟩
  · simp [or_comm]
  · rw [halone "s" (by decide), hs]
  · rw [halone "t" (by decide), ht]

/-- All agents may always answer the same to the same, and nobody may be prompted: if the
human who answers in place of the terminal remembers, then the order of the tasks makes a
difference, and what is given back is not what a run alone gives back. -/
theorem runBatch_counting :
    (∀ a ∈ Sample.counting.swarm.roster.agents, a.respond.Fixed) ∧
      (Sample.counting.runAll ["a", "b"]).world.terminal.prompts =
        Sample.counting.world.terminal.prompts ∧
      (Sample.counting.runBatch ["a", "b"]).1.map (·.find? "b") = .ok (some "b2") ∧
      (Sample.counting.runBatch ["b", "a"]).1.map (·.find? "b") = .ok (some "b1") ∧
      (Sample.counting.run "b").1 = "b1" := by
  refine ⟨fun a ha => ?_, by decide +kernel, by decide +kernel, by decide +kernel,
    by decide +kernel⟩
  have hagents : Sample.counting.swarm.roster.agents = [Sample.echo 1 "A"] := rfl
  obtain rfl := List.mem_singleton.mp (hagents ▸ ha)
  exact Agent.respond_fixed fun _ _ _ => rfl

end Session

end Relay
