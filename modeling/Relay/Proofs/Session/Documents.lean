import Relay.Proofs.Files.Room
import Relay.Proofs.Run.Prompts
import Relay.Proofs.Run.Record
import Relay.Proofs.Session.Building
import Relay.Proofs.Session.Sequence

/-!
# The documents of many runs

A swarm that saves its records puts one document into its directory for each run that
succeeds, under the name of the task. Later documents take the place of earlier ones of the
same name, be it that the task is the same or that the names of two tasks collide, and a
run that fails leaves the files alone. So the directory holds the latest document of each
name, and nothing else.

That supposes that there is room for the documents. It is not enough that the directory can
be made: its path may be too long for names behind it, or go through a directory that has
the name of a document.

## Main definitions

* `Responder.KeepsFiles` — an agent that writes no files.
* `Agent.SavesNothing` — an agent in which no swarm saves its records.
* `Session.record?` — the record of a run, if it succeeds.
* `latest` — the last of the records of one name.
* `Tree.Collects` — records were put into a directory.

## Main statements

* `Agent.SavesNothing.keepsFiles` — agents that write no files.
* `Tree.admits_recordPath_iff` — when there is room for a document.
* `InTurn.collects` — runs that follow one another, with one directory.
* `Session.directory_holds_latest` — runs of one swarm in all forms.
-/

namespace Relay

/-! ### Parts that write no files -/

/-- The agent leaves the files as they are. -/
def Responder.KeepsFiles (respond : Responder) : Prop :=
  ∀ task image (w : World), (stateOf (respond task image w)).files = w.files

/-- The part leaves the files as they are, wherever it starts. -/
def KeepsFiles {α : Type} (p : Run α) : Prop :=
  ∀ st : RunState, (stateOf (p st)).world.files = st.world.files

namespace KeepsFiles

variable {α β : Type} {p : Run α} {f : α → Run β}

theorem pure (a : α) : KeepsFiles (Pure.pure a : Run α) := fun _ => rfl

theorem bind (h : KeepsFiles p) (hnext : ∀ a, KeepsFiles (f a)) : KeepsFiles (p >>= f) := by
  intro st
  have hfirst := h st
  cases hp : p st with
  | ok a st' =>
    rw [hp] at hfirst
    rw [bind_of_ok hp]
    exact (hnext a st').trans hfirst
  | error e st' =>
    rw [hp] at hfirst
    rw [bind_of_error hp]
    exact hfirst

instance : Congruence (OfFirst @KeepsFiles) := .ofFirst pure bind

end KeepsFiles

theorem askHuman_keepsFiles (s : Settings) (prompt : Prompt) (task : String) :
    KeepsFiles (askHuman s prompt task) := by
  have hprompt : KeepsFiles (promptHuman prompt) := by
    intro st
    rw [promptHuman]
    simp only
    cases (st.world.ask prompt).1 <;> rfl
  have hask : OfFirst @KeepsFiles (askHuman s prompt task) (askHuman s prompt task) :=
    askHuman_congr (fun _ _ => rfl) rfl rfl hprompt fun _ _ _ _ => rfl
  exact hask

theorem exchange_keepsFiles {respond : Responder} (h : respond.KeepsFiles) (name task : String)
    (image : Option String) : KeepsFiles (exchange name respond task image) := by
  intro st
  have hanswer := h task image st.world
  rw [exchange]
  cases hended : respond task image st.world <;> rwa [hended] at hanswer

/-- A run that saves no record leaves the files as they are, if its agents do. -/
theorem attempt_keepsFiles {s : Settings} (hsave : s.autosave = false) {crew : Crew}
    (hcrew : ∀ name respond, Table.lookup name crew = some respond → respond.KeepsFiles)
    (order : Order) : KeepsFiles (attempt s crew order) := by
  have hreport (notice : Notice) : OfFirst @KeepsFiles (report s notice) (report s notice) :=
    fun _ => rfl
  have hsteps (steps : List Step) (task : String) : OfFirst @KeepsFiles
      (runSteps s crew order.image steps task) (runSteps s crew order.image steps task) := by
    refine runSteps_congr hreport (fun _ => askHuman_keepsFiles s) (fun name _ task => ?_) task
    exact callAgent_congr hreport rfl (fun _ => rfl)
      (fun respond hfind => exchange_keepsFiles (hcrew name respond hfind) name task order.image)
      fun _ _ => rfl
  refine KeepsFiles.bind (fun st => ?_) fun flow => ?_
  · obtain ⟨st', -, hworld, hcheck⟩ := checkFlow_quiet s crew st
    rw [hcheck]
    cases Flow.check crew.has s.flow <;> exact congrArg World.files hworld
  · have hrun : OfFirst @KeepsFiles (runFlow s crew order flow) (runFlow s crew order flow) := by
      refine runFlow_congr (fun _ _ => rfl) (fun _ => rfl)
        (runLoops_congr hreport rfl (hsteps _) 0 order.task s.loops) fun number output st => ?_
      rw [keepRecord, hsave]
      rfl
    exact hrun

theorem Agent.respond_simple_keepsFiles (number : Nat) (name description : String)
    (answer : List Request → Request → Except AgentError Answer) :
    (Agent.simple number name description answer).respond.KeepsFiles := by
  intro task image w
  rw [Agent.respond]
  simp only
  cases answer (w.requestsTo number) ⟨number, .agent name, task, image⟩ <;> rfl

/-- A swarm that serves as an agent writes no files if it saves no records and its own agents
write none. -/
theorem respondOf_keepsFiles {s : Settings} (hsave : s.autosave = false) {crew : Crew}
    (hcrew : ∀ name respond, Table.lookup name crew = some respond → respond.KeepsFiles)
    (number : Nat) : (respondOf number s crew).KeepsFiles := by
  intro task image w
  have hrun := attempt_keepsFiles hsave hcrew ⟨task, image, []⟩ ⟨w, w.memoryOf number, []⟩
  rw [respondOf]
  cases hended : attempt s crew ⟨task, image, []⟩ ⟨w, w.memoryOf number, []⟩ <;>
    rwa [hended] at hrun

/-- No swarm saves its records, neither the agent itself nor one that serves in it, at any
depth. -/
inductive Agent.SavesNothing : Agent → Prop
  | simple (number : Nat) (name description : String)
      (answer : List Request → Request → Except AgentError Answer) :
      SavesNothing (.simple number name description answer)
  | swarm {number : Nat} {s : Settings} {agents : List Agent} (hsave : s.autosave = false)
      (hagents : ∀ a ∈ agents, a.SavesNothing) : SavesNothing (.swarm number s agents)

/-- Agents write files only as swarms that save their records. -/
theorem Agent.SavesNothing.keepsFiles {a : Agent} (h : a.SavesNothing) : a.respond.KeepsFiles := by
  induction h with
  | simple number name description answer =>
    exact Agent.respond_simple_keepsFiles number name description answer
  | @swarm number s agents hsave _ ih =>
    rw [Agent.respond]
    refine respondOf_keepsFiles hsave (fun name respond hfind => ?_) number
    obtain ⟨a, ha, rfl⟩ := exists_of_lookup_crewOf hfind
    exact ih a ha

/-! ### Records under their names -/

namespace RunRecord

/-- The name of the file that is to keep the record. -/
def fileName (r : RunRecord) : String := Digest.shortName r.task ++ ".json"

/-- What the file is to hold. -/
def bytes (r : RunRecord) : ByteArray := r.toJson.prettyText.toUTF8

end RunRecord

/-- The last of the records whose files have the name. -/
def latest (name : String) (records : List RunRecord) : Option RunRecord :=
  (records.filter (·.fileName == name)).getLast?

theorem latest_concat (name : String) (records : List RunRecord) (r : RunRecord) :
    latest name (records ++ [r]) = if r.fileName = name then some r else latest name records := by
  rw [latest, List.filter_append]
  by_cases h : r.fileName = name
  · rw [if_pos h, List.filter_cons_of_pos (by simpa using h), List.filter_nil,
      List.getLast?_concat]
  · rw [if_neg h, List.filter_cons_of_neg (by simpa using h), List.filter_nil, List.append_nil,
      latest]

/-- There is a latest record of a name if there is any. -/
theorem isSome_latest_iff {name : String} {records : List RunRecord} :
    (latest name records).isSome ↔ ∃ r ∈ records, r.fileName = name := by
  rw [latest, List.getLast?_isSome]
  simp [List.filter_eq_nil_iff]

theorem slash_notMem_toDigits (n : Nat) : '/' ∉ Nat.toDigits 16 n := by
  induction n using Nat.strongRecOn with
  | ind n ih =>
    have hdigit (m : Nat) : '/' ≠ m.digitChar := (Nat.digitChar_ne '/' (by decide)).symm
    rw [Nat.toDigits_eq_if (by decide)]
    split
    · rw [List.mem_singleton]
      exact hdigit n
    · next hn =>
      rw [List.mem_append, List.mem_singleton, not_or]
      exact ⟨ih (n / 16) (Nat.div_lt_self (by omega) (by decide)), hdigit (n % 16)⟩

section FileName

variable (task : String)

theorem slash_notMem_fileName : '/' ∉ (Digest.shortName task ++ ".json").toList := by
  rw [String.toList_append, Digest.shortName, String.toList_ofList, List.mem_append, not_or]
  exact ⟨slash_notMem_toDigits _, by decide⟩

theorem fileName_ne_of_length {text : String} (h : text.length < 5) :
    Digest.shortName task ++ ".json" ≠ text := by
  rintro rfl
  rw [String.length_append] at h
  have hjson : ".json".length = 5 := by decide
  omega

theorem utf8ByteSize_ofList_le (chars : List Char) :
    (String.ofList chars).utf8ByteSize ≤ 4 * chars.length := by
  induction chars with
  | nil => simp
  | cons c chars ih =>
    have hone := c.utf8Size_le_four
    rw [String.ofList_cons, String.utf8ByteSize_append, String.utf8ByteSize_singleton,
      List.length_cons]
    omega

theorem isTooLong_fileName : Tree.isTooLong (Digest.shortName task ++ ".json") = false := by
  have hdigits : (Nat.toDigits 16 ((Digest.ofText task).toNat % 0x100000000)).length ≤ 8 :=
    (Nat.length_toDigits_le_iff (by decide) (by decide)).mpr (Nat.mod_lt _ (by decide))
  have hname := utf8ByteSize_ofList_le
    (Nat.toDigits 16 ((Digest.ofText task).toNat % 0x100000000))
  have hjson : ".json".utf8ByteSize = 5 := by decide
  rw [Tree.isTooLong, Tree.nameLimit, decide_eq_false_iff_not, String.utf8ByteSize_append, hjson,
    Digest.shortName]
  omega

end FileName

/-! ### Records in a directory -/

/-- From the one tree to the other the records were put into the directory, each under its
name, in place of what was there. -/
structure Tree.Collects (t : Tree) (directory : String) (records : List RunRecord) (t' : Tree) :
    Prop where
  named : ∀ name, t'.fileAt? ((Path.place directory).child name) =
    match latest name records with
    | some r => some r.bytes
    | none => t.fileAt? ((Path.place directory).child name)
  elsewhere : ∀ place, (∀ name, place ≠ (Path.place directory).child name) →
    t'.fileAt? place = t.fileAt? place
  load : ∀ name r, latest name records = some r →
    t'.load (Path.join directory name) = .ok r.bytes
  /-- There is as much room for records as before. -/
  admits : ∀ task, t.Admits (recordPath directory task) → t'.Admits (recordPath directory task)

namespace Tree

variable {t t' t'' : Tree} {directory : String} {records : List RunRecord}

theorem Collects.refl (t : Tree) (directory : String) : t.Collects directory [] t := by
  have hnone (name : String) : latest name [] = none := rfl
  refine ⟨fun name => ?_, fun _ _ => rfl, fun name r hr => ?_, fun _ h => h⟩
  · rw [hnone]
  · rw [hnone] at hr
    exact nomatch hr

theorem place_recordPath (directory task : String) :
    Path.place (recordPath directory task) =
      (Path.place directory).child (Digest.shortName task ++ ".json") := by
  rw [recordPath, Path.place_join directory (slash_notMem_fileName task)]
  · exact fileName_ne_of_length task (by decide)
  · exact fileName_ne_of_length task (by decide)
  · exact fileName_ne_of_length task (by decide)

/-- The paths of all records go through the same directories. -/
theorem parent_recordPath (directory task task' : String) :
    Path.parent (recordPath directory task) = Path.parent (recordPath directory task') := by
  obtain ⟨above, habove⟩ := Path.exists_parent_join directory
  have hparent (task : String) : Path.parent (recordPath directory task) = above :=
    habove _ (slash_notMem_fileName task) (fileName_ne_of_length task (by decide))
      (fileName_ne_of_length task (by decide))
  rw [hparent, hparent]

/-- There is room for a document if its path is not too long, its directory can be made, and no
directory has its place, neither from the first nor because its path goes through it. -/
theorem admits_recordPath_iff (directory task : String) :
    let path := recordPath directory task
    t.Admits path ↔ checkPath path = .ok () ∧ (t.makeDirectories (Path.parent path)).1 = .ok () ∧
      t.find? (Path.place path) ≠ some .directory ∧ ¬ Path.GoesThrough path (Path.place path) :=
  admits_join_iff directory (slash_notMem_fileName task) (fileName_ne_of_length task (by decide))
    (fileName_ne_of_length task (by decide)) (fileName_ne_of_length task (by decide))
    (isTooLong_fileName task)

theorem child_injective {place : Place} {name name' : String}
    (h : place.child name = place.child name') : name = name' := by
  have hnames := congrArg Place.names h
  simpa using hnames

/-- One more record is put into the directory. -/
theorem Collects.save {r : RunRecord} (h : t.Collects directory records t')
    (hsave : t'.saveJson (recordPath directory r.task) (.value r.toJson) = (.ok (), t'')) :
    t.Collects directory (records ++ [r]) t'' := by
  have hplace := place_recordPath directory r.task
  have hsaved : t'.save (recordPath directory r.task) r.bytes = (.ok (), t'') := hsave
  have hends := t'.save_ends (recordPath directory r.task) r.bytes
  rw [hsaved] at hends
  cases hends with
  | saved hload hwas hfile hothers hloads =>
    rw [hplace] at hfile hothers hloads
    have hkept {place : Place}
        (hne : place ≠ (Path.place directory).child (Digest.shortName r.task ++ ".json")) :
        t''.fileAt? place = t'.fileAt? place := by
      rw [fileAt?, fileAt?]
      rcases hothers place hne with hsame | ⟨hnone, hmade, -⟩
      · rw [hsame]
      · rw [hnone, hmade]
        rfl
    refine ⟨fun name => ?_, fun place hne => ?_, fun name r' hlatest => ?_, fun task hroom => ?_⟩
    · rw [latest_concat]
      by_cases hname : r.fileName = name
      · rw [if_pos hname, ← hname, fileAt?, RunRecord.fileName, hfile]
        rfl
      · rw [if_neg hname, ← h.named name]
        exact hkept fun heq => hname (child_injective heq).symm
    · rw [hkept (hne _)]
      exact h.elsewhere place hne
    · rw [latest_concat] at hlatest
      by_cases hname : r.fileName = name
      · rw [if_pos hname] at hlatest
        cases hlatest
        rw [← hname]
        exact hload
      · rw [if_neg hname] at hlatest
        have hkeeps : r'.fileName = name := by
          have hmem := List.mem_of_getLast? hlatest
          simpa using (List.mem_filter.mp hmem).2
        refine hloads _ _ (fun heq => hname ?_) (h.load name r' hlatest)
        rw [← hkeeps] at heq ⊢
        exact (child_injective ((place_recordPath directory r'.task).symm.trans heq)).symm
    · exact (h.admits task hroom).of_save (parent_recordPath directory task r.task) hsaved

end Tree

/-! ### Runs and their records -/

namespace Session

/-- The record of a run, if it succeeds. -/
def record? (x : Session) (order : Order) : Option RunRecord :=
  match x.runTraced order with
  | (.error _, _, _) => none
  | (.ok text, calls, y) => some {
      swarmId := x.swarm.settings.id
      runId := identifier x.world.supply
      name := x.swarm.settings.name
      description := x.swarm.settings.description
      task := order.task
      flow := x.swarm.settings.flow
      loops := x.swarm.settings.loops
      entries := calls.filterMap Exchange.entry?
      finalOutput := text
      timestamp := y.world.clock }

/-- The records of those runs that succeed, the earliest first. -/
def recordsOf (runs : List (Session × Order)) : List RunRecord :=
  runs.filterMap fun run => run.1.record? run.2

/-- The swarm saves its records in the directory, and its agents write no files. -/
structure SavesIn (x : Session) (directory : String) : Prop where
  autosave : x.swarm.settings.autosave = true
  directory : x.swarm.settings.directory = directory
  agents : ∀ a ∈ x.swarm.roster.agents, a.respond.KeepsFiles

/-- What a run does to the files: if it fails, nothing; if it succeeds, its record is saved, as
far as it can be. -/
theorem tryRun_files {x : Session} {directory : String} (h : x.SavesIn directory)
    (order : Order) : match x.tryRun order with
      | (.error _, y) => x.record? order = none ∧ y.world.files = x.world.files
      | (.ok text, y) => ∃ r calls, x.record? order = some r ∧ r.Keeps x order text calls y ∧
          (x.world.files.Admits (recordPath directory order.task) →
            x.world.files.saveJson (recordPath directory order.task) (.value r.toJson) =
              (.ok (), y.world.files)) := by
  obtain ⟨hsave, rfl, hagents⟩ := h
  let s : Settings := x.swarm.settings
  let crew : Crew := x.swarm.roster.crew
  have hcrew (name : String) (respond : Responder) (hfind : Table.lookup name crew = some respond) :
      respond.KeepsFiles := by
    obtain ⟨a, ha, rfl⟩ := exists_of_lookup_crewOf hfind
    exact hagents a ha
  have hkeeps := @attempt_keepsFiles { s with autosave := false } rfl crew hcrew order x.start
  have htraced : x.runTraced order = x.resultOf (attempt s crew order x.start) :=
    x.runTraced_eq order
  cases hrun : attempt { s with autosave := false } crew order x.start with
  | error e sv =>
    have hfail : attempt s crew order x.start = .error e sv := by
      rw [attempt_of_autosave hsave, bind_of_error hrun]
    rw [hrun] at hkeeps
    rw [tryRun, record?, htraced, hfail]
    exact ⟨rfl, hkeeps⟩
  | ok text sv =>
    obtain ⟨w, hdone, hsaved, hunsaved⟩ := attempt_saved hsave hrun
    rw [hrun] at hkeeps
    have hfiles : sv.world.files = x.world.files := hkeeps
    let r : RunRecord := sv.recordOf s (identifier x.world.supply) order.task text
    have hclock : w.clock = sv.world.clock := by
      cases hended : (sv.world.files.saveJson (recordPath s.directory order.task)
        (.value r.toJson)).1 with
      | ok u => rw [(hsaved hended).1]
      | error e =>
        rw [(hunsaved e hended).1]
        rfl
    have hrecord : x.record? order = some r := by
      rw [record?, htraced, hdone]
      simp only [resultOf, afterRun, hclock]
      rfl
    rw [tryRun, htraced, hdone]
    have hkept : r.Keeps x order text sv.exchanges (x.afterRun { sv with world := w }) :=
      recordOf_keeps hdone (rfl : sv.exchanges = _) (identifier x.world.supply)
    refine ⟨r, sv.exchanges, hrecord, hkept, fun hroom => ?_⟩
    have hok := (Tree.admits_iff r.bytes).mp hroom
    rw [hfiles] at hsaved
    obtain ⟨rfl, -⟩ := hsaved hok
    exact Prod.ext hok rfl

/-- A run puts its record into the directory, if it succeeds. -/
theorem tryRun_collects {x : Session} {directory : String} (h : x.SavesIn directory)
    {order : Order} {t : Tree} {records : List RunRecord}
    (hroom : (∃ text, (x.tryRun order).1 = .ok text) → t.Admits (recordPath directory order.task))
    (hcollects : t.Collects directory records x.world.files) :
    t.Collects directory (records ++ (x.record? order).toList)
      (x.tryRun order).2.world.files := by
  have hfiles := tryRun_files h order
  generalize x.tryRun order = ended at hfiles hroom ⊢
  obtain ⟨outcome, y⟩ := ended
  cases outcome with
  | error e =>
    obtain ⟨hnone, hsame⟩ := hfiles
    rw [hnone, Option.toList_none, List.append_nil, hsame]
    exact hcollects
  | ok text =>
    obtain ⟨r, calls, hrecord, hkeeps, hsaved⟩ := hfiles
    have hsave := hsaved (hcollects.admits order.task (hroom ⟨text, rfl⟩))
    rw [← hkeeps.task] at hsave
    rw [hrecord, Option.toList_some]
    exact hcollects.save hsave

end Session

/-- Runs that follow one another put their records into the directory. -/
theorem InTurn.collects {t t' t'' : Tree} {runs : List (Session × Order)} {directory : String}
    {records : List RunRecord} (h : InTurn World.files t' runs t'')
    (hruns : ∀ run ∈ runs, run.1.SavesIn directory)
    (hroom : ∀ run ∈ runs, (∃ text, (run.1.tryRun run.2).1 = .ok text) →
      t.Admits (recordPath directory run.2.task))
    (hcollects : t.Collects directory records t') :
    t.Collects directory (records ++ Session.recordsOf runs) t'' := by
  induction h generalizing records with
  | nil t' =>
    rw [Session.recordsOf, List.filterMap_nil, List.append_nil]
    exact hcollects
  | @cons x order runs t'' _ ih =>
    have hfirst := Session.tryRun_collects (hruns _ List.mem_cons_self)
      (hroom _ List.mem_cons_self) hcollects
    have hall := ih (fun run hrun => hruns run (List.mem_cons_of_mem _ hrun))
      (fun run hrun => hroom run (List.mem_cons_of_mem _ hrun)) hfirst
    have hrecords : Session.recordsOf ((x, order) :: runs) =
        (x.record? order).toList ++ Session.recordsOf runs := by
      rw [Session.recordsOf, List.filterMap_cons]
      cases x.record? order <;> rfl
    rwa [hrecords, ← List.append_assoc]

namespace Session

theorem runsOfTasks_isOf {s : Settings} {r : Roster} {x : Session} (h : IsOf s r x x)
    (tasks : List String) : ∀ run ∈ x.runsOfTasks tasks, IsOf s r run.1 run.1 := by
  induction tasks generalizing x with
  | nil => exact fun run hrun => absurd hrun List.not_mem_nil
  | cons task rest ih =>
    intro run hrun
    rcases List.mem_cons.mp hrun with rfl | hrun
    · exact h
    · exact ih ((isOf_runAlike s r).run h task).2 run hrun

/-- All runs of a swarm start with its settings and its agents. -/
theorem runsOnAll_isOf {s : Settings} {r : Roster} {x : Session} (h : IsOf s r x x)
    {ops : List Operation} (hops : ∀ op ∈ ops, op.IsRun) :
    ∀ run ∈ x.runsOnAll ops, IsOf s r run.1 run.1 := by
  induction ops generalizing x with
  | nil => exact fun run hrun => absurd hrun List.not_mem_nil
  | cons op ops ih =>
    have hop := hops op List.mem_cons_self
    intro run hrun
    rcases List.mem_append.mp hrun with hrun | hrun
    · cases op with
      | runBatch tasks => exact runsOfTasks_isOf h tasks run hrun
      | tryRun order => exact List.mem_singleton.mp hrun ▸ h
      | runWith order => exact List.mem_singleton.mp hrun ▸ h
      | run task => exact List.mem_singleton.mp hrun ▸ h
      | respond task image => exact List.mem_singleton.mp hrun ▸ h
      | runAsSwarm task => exact List.mem_singleton.mp hrun ▸ h
      | _ => exact hop.elim
    · exact ih ((isOf_runAlike s r).perform h hop).2
        (fun o ho => hops o (List.mem_cons_of_mem op ho)) run hrun

theorem isSome_record?_iff {x : Session} {order : Order} :
    (x.record? order).isSome ↔ ∃ text, (x.tryRun order).1 = .ok text := by
  rw [record?, tryRun]
  obtain ⟨outcome, calls, y⟩ := x.runTraced order
  cases outcome <;> simp

/-- The task of a record is that of its run. -/
theorem task_of_record? {x : Session} {order : Order} {r : RunRecord}
    (h : x.record? order = some r) : r.task = order.task := by
  rw [record?] at h
  generalize x.runTraced order = traced at h
  obtain ⟨outcome, calls, y⟩ := traced
  cases outcome with
  | error e => exact nomatch h
  | ok text =>
    cases h
    rfl

/-- There is a latest record of a name if a run on a task of this name succeeded. -/
theorem isSome_latest_recordsOf_iff {name : String} {runs : List (Session × Order)} :
    (latest name (recordsOf runs)).isSome ↔ ∃ run ∈ runs,
      (∃ text, (run.1.tryRun run.2).1 = .ok text) ∧
        Digest.shortName run.2.task ++ ".json" = name := by
  rw [isSome_latest_iff]
  constructor
  · rintro ⟨r, hr, hname⟩
    obtain ⟨run, hrun, hrecord⟩ := List.mem_filterMap.mp hr
    have hsome : (run.1.record? run.2).isSome := by rw [hrecord, Option.isSome_some]
    rw [RunRecord.fileName, task_of_record? hrecord] at hname
    exact ⟨run, hrun, isSome_record?_iff.mp hsome, hname⟩
  · rintro ⟨run, hrun, hdone, hname⟩
    obtain ⟨r, hrecord⟩ := Option.isSome_iff_exists.mp (isSome_record?_iff.mpr hdone)
    refine ⟨r, List.mem_filterMap.mpr ⟨run, hrun, hrecord⟩, ?_⟩
    rw [RunRecord.fileName, task_of_record? hrecord, hname]

/-- A swarm saves its records in a directory in which there is no file at first, but room for
the documents of all tasks whose runs succeed; its agents write no files. Then, after runs in
all forms and in any number, the directory holds the files of these tasks, and no others.
Each holds the document of the last of the runs whose tasks share its name, which keeps what
was asked and done in that run. No other file changed. A run that fails has no record and
changes nothing in the files. -/
theorem directory_holds_latest (x : Session) (directory : String) (ops : List Operation)
    (hops : ∀ op ∈ ops, op.IsRun) (hsaves : x.SavesIn directory)
    (hempty : ∀ name, x.world.files.fileAt? ((Path.place directory).child name) = none)
    (hroom : ∀ run ∈ x.runsOnAll ops, (∃ text, (run.1.tryRun run.2).1 = .ok text) →
      x.world.files.Admits (recordPath directory run.2.task)) :
    let runs := x.runsOnAll ops
    let files := (x.performAll ops).world.files
    (∀ name, (∃ bytes, files.fileAt? ((Path.place directory).child name) = some bytes) ↔
      ∃ run ∈ runs, (∃ text, (run.1.tryRun run.2).1 = .ok text) ∧
        Digest.shortName run.2.task ++ ".json" = name) ∧
    (∀ name r, latest name (recordsOf runs) = some r →
      files.fileAt? ((Path.place directory).child name) = some r.bytes ∧
        files.load (Path.join directory name) = .ok r.bytes ∧ r.IsIn r.toJson) ∧
    (∀ place, (∀ name, place ≠ (Path.place directory).child name) →
      files.fileAt? place = x.world.files.fileAt? place) ∧
    ∀ run ∈ runs, match run.1.tryRun run.2 with
      | (.error _, y) => run.1.record? run.2 = none ∧ y.world.files = run.1.world.files
      | (.ok text, y) => ∃ r calls, run.1.record? run.2 = some r ∧
          r.Keeps run.1 run.2 text calls y := by
  intro runs files
  have hruns : ∀ run ∈ runs, run.1.SavesIn directory := by
    intro run hrun
    obtain ⟨-, hsettings, hroster⟩ := runsOnAll_isOf ⟨rfl, rfl, rfl⟩ hops run hrun
    exact ⟨hsettings ▸ hsaves.autosave, hsettings ▸ hsaves.directory, hroster ▸ hsaves.agents⟩
  have hturn : InTurn World.files x.world.files runs files := by
    refine x.performAll_inTurn (fun _ _ => rfl) fun op hop w heq => ?_
    have hrun := hops op hop
    rw [heq] at hrun
    exact hrun
  have hcollects := hturn.collects hruns hroom (.refl _ directory)
  rw [List.nil_append] at hcollects
  refine ⟨fun name => ?_, fun name r hlatest => ⟨?_, hcollects.load name r hlatest, r.isIn_toJson⟩,
    hcollects.elsewhere, fun run hrun => ?_⟩
  · rw [← isSome_latest_recordsOf_iff, hcollects.named name, hempty name]
    cases latest name (recordsOf runs) <;> simp
  · rw [hcollects.named name, hlatest]
  · have hfiles := tryRun_files (hruns run hrun) run.2
    generalize run.1.tryRun run.2 = ended at hfiles ⊢
    obtain ⟨outcome, y⟩ := ended
    cases outcome with
    | error e => exact hfiles
    | ok text =>
      obtain ⟨r, calls, hrecord, hkeeps, -⟩ := hfiles
      exact ⟨r, calls, hrecord, hkeeps⟩

/-! ### Names that collide -/

namespace Sample

/-- A swarm that saves its records, whose second agent fails when it is called a third time. -/
def documenting : Session := saving "A -> B" 1 [agent 1 "A" 5, agent 2 "B" 2]

theorem documenting_savesIn (directory : String) :
    ({ documenting with swarm := { documenting.swarm with
      settings := { documenting.swarm.settings with directory := directory } } } :
        Session).SavesIn directory where
  autosave := rfl
  directory := rfl
  agents a ha := by
    have hagents : documenting.swarm.roster.agents = [agent 1 "A" 5, agent 2 "B" 2] := rfl
    rcases List.mem_cons.mp (hagents ▸ ha) with rfl | ha
    · exact (Agent.SavesNothing.simple 1 "A" "" _).keepsFiles
    · obtain rfl := List.mem_singleton.mp ha
      exact (Agent.SavesNothing.simple 2 "B" "" _).keepsFiles

/-- A run, and a batch of two more, the last of which fails. -/
def documented : List Operation := [.run "t37401", .runBatch ["t104977", "u"]]

/-- The path of this directory goes through one that has the name of a document. -/
def crossing : Session :=
  { documenting with swarm := { documenting.swarm with
      settings := { documenting.swarm.settings with directory := "out/f913c.json/.." } } }

end Sample

/-- The names of two tasks collide, and the directory holds the document of the later one. The
third run failed, and there is no file for it. -/
theorem directory_holds_latest_collision :
    (∀ op ∈ Sample.documented, op.IsRun) ∧ Sample.documenting.SavesIn "out" ∧
      (∀ name, Sample.documenting.world.files.fileAt? ((Path.place "out").child name) = none) ∧
      (∀ run ∈ Sample.documenting.runsOnAll Sample.documented,
        Sample.documenting.world.files.Admits (recordPath "out" run.2.task)) ∧
      let name := Digest.shortName "t37401" ++ ".json"
      let files := (Sample.documenting.performAll Sample.documented).world.files
      (∃ r : RunRecord, r.task = "t104977" ∧ r.finalOutput = "t104977AB" ∧
        files.load (Path.join "out" name) = .ok r.bytes) ∧
      ¬ ∃ bytes, files.fileAt?
        ((Path.place "out").child (Digest.shortName "u" ++ ".json")) = some bytes := by
  have hops : ∀ op ∈ Sample.documented, op.IsRun := by simp [Sample.documented, Operation.IsRun]
  have hsaves : Sample.documenting.SavesIn "out" := Sample.documenting_savesIn "out"
  have hempty (name : String) :
      Sample.documenting.world.files.fileAt? ((Path.place "out").child name) = none := by
    have hfiles : Sample.documenting.world.files = .empty := rfl
    rw [hfiles, Tree.fileAt?, Tree.find?, if_neg (by simp)]
    rfl
  have hroom : ∀ run ∈ Sample.documenting.runsOnAll Sample.documented,
      Sample.documenting.world.files.Admits (recordPath "out" run.2.task) := by decide +kernel
  refine ⟨hops, hsaves, hempty, hroom, ?_⟩
  intro name files
  obtain ⟨hexactly, hlatest, -, -⟩ :=
    directory_holds_latest Sample.documenting "out" Sample.documented hops hsaves hempty
      fun run hrun _ => hroom run hrun
  have hrecord : (latest name (recordsOf (Sample.documenting.runsOnAll Sample.documented))).map
      (fun r => (r.task, r.finalOutput)) = some ("t104977", "t104977AB") := by decide +kernel
  obtain ⟨r, hr, hsame⟩ := Option.map_eq_some_iff.mp hrecord
  obtain ⟨htask, houtput⟩ := Prod.mk.inj hsame
  refine ⟨⟨r, htask, houtput, (hlatest name r hr).2.1⟩, ?_⟩
  rw [hexactly, ← isSome_latest_recordsOf_iff]
  decide +kernel

/-- It is not enough that the directory can be made. There are no files at first, the
directory is made, and the run succeeds; but a directory has the place of its document, which
therefore is not saved. -/
theorem directory_lacks_document :
    (∀ op ∈ [Operation.run "t1462"], op.IsRun) ∧ Sample.crossing.SavesIn "out/f913c.json/.." ∧
      Sample.crossing.world.files.entries = [] ∧
      Sample.crossing.world.files.isDirectory "out/f913c.json/.." = false ∧
      (Sample.crossing.world.files.makeDirectories "out/f913c.json/..").1 = .ok () ∧
      (Sample.crossing.tryRun { task := "t1462" }).1 = .ok "t1462AB" ∧
      (Sample.crossing.performAll [.run "t1462"]).world.files.fileAt?
        ((Path.place "out/f913c.json/..").child (Digest.shortName "t1462" ++ ".json")) = none :=
  ⟨by simp [Operation.IsRun], Sample.documenting_savesIn _, rfl, by decide +kernel,
    by decide +kernel, by decide +kernel, by decide +kernel⟩

end Session

end Relay
