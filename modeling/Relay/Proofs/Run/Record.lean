import Relay.Proofs.Files.Saved
import Relay.Proofs.Run.Replay
import Relay.Proofs.Run.Trace

/-!
# What the record of a run keeps

If records are saved, a run does what it does if they are not. If it fails, that is all,
and no record is saved. If it succeeds, one document is put into the files, under the path
that the task has in the directory of the swarm.

The record keeps what was asked of the swarm and how it was set, and one entry for each
call that it made, in the order of the calls. The same calls are noted in the conversation,
with an empty text where the record has none. If no human took part and no custom task was
spliced in, the run can be played again from the record alone.

## Main definitions

* `Session.unsaved` — the session as if no records were saved.
* `RunRecord.Keeps` — what the record of a run keeps.

## Main statements

* `recordOf_keeps` — the record of a run that succeeded.
* `Session.runTraced_autosave` — runs whose records are saved.
-/

namespace Relay

/-- The session as if no records were saved. -/
def Session.unsaved (x : Session) : Session :=
  { x with swarm := { x.swarm with settings := { x.swarm.settings with autosave := false } } }

/-- The member of an object under a name. -/
def Json.Value.member? (name : String) : Value → Option Value
  | .obj members => Table.lookup name members
  | _ => none

namespace RecordEntry

/-- The entry is that of the call, which was answered. -/
structure IsOf (e : RecordEntry) (c : Exchange) : Prop where
  agent : e.agent = c.agent
  task : e.task = c.task
  output : ∃ answer, c.outcome = .ok answer ∧ e.output = answer.text?

/-- The role and the content of the message that the answer becomes. -/
def said (e : RecordEntry) : Role × Content := (.assistant e.agent, .text (e.output.getD ""))

/-- In a document with the given identifier of the run, the entry is this value. -/
structure IsIn (e : RecordEntry) (runId : String) (v : Json.Value) : Prop where
  runId : v.member? "run_id" = some (.str runId)
  agent : v.member? "agent_name" = some (.str e.agent)
  task : v.member? "task" = some (.str e.task)
  output : v.member? "output" = some (.ofText? e.output)

end RecordEntry

/-- The record keeps what was asked of the session `x` and what it did: it made the calls,
came to the text, and the session `y` was left behind. -/
structure RunRecord.Keeps (r : RunRecord) (x : Session) (order : Order) (text : String)
    (calls : List Exchange) (y : Session) : Prop where
  swarmId : r.swarmId = x.swarm.settings.id
  name : r.name = x.swarm.settings.name
  flow : r.flow = x.swarm.settings.flow
  loops : r.loops = x.swarm.settings.loops
  /-- The task is the one that was asked for. -/
  task : r.task = order.task
  finalOutput : r.finalOutput = text
  /-- The calls are calls of the registered agents, and no other agent was called. -/
  made : Calls x.swarm.roster.crew x.world calls y.world
  /-- There is one entry for each call, in the order of the calls. -/
  entries : List.Forall₂ RecordEntry.IsOf r.entries calls
  /-- Each agent of the flow was called once in each loop. -/
  due : ∃ f, Flow.check x.swarm.roster.contains r.flow = .ok f ∧
    r.entries.map RecordEntry.agent = f.dueCalls r.loops ∧
      r.entries.length = r.loops * f.agentNames.length
  /-- The conversation gains the same. -/
  conversation : ∃ added,
    y.swarm.journal.conversation.messages = x.swarm.journal.conversation.messages ++ added ∧
      added.map Message.said = r.entries.map RecordEntry.said
  /-- Without humans and custom tasks the run can be played again. -/
  replay : ∀ f, Flow.parse r.flow = .ok f → .human ∉ f.members → order.custom = [] →
    r.replay f = ⟨r.entries.map RecordEntry.task, r.finalOutput, []⟩

/-- The document says what the record keeps, and all its entries have its identifier of
the run. -/
structure RunRecord.IsIn (r : RunRecord) (doc : Json.Value) : Prop where
  swarmId : doc.member? "swarm_id" = some (.str r.swarmId)
  runId : doc.member? "run_id" = some (.str r.runId)
  name : doc.member? "name" = some (.str r.name)
  task : doc.member? "task" = some (.str r.task)
  flow : doc.member? "flow" = some (.str r.flow)
  loops : doc.member? "max_loops" = some (.int r.loops)
  finalOutput : doc.member? "final_output" = some (.str r.finalOutput)
  entries : ∃ values, doc.member? "agents_output_schema" = some (.arr values) ∧
    List.Forall₂ (RecordEntry.IsIn · r.runId) r.entries values

/-! ### The entries -/

/-- Each call that was answered has an entry. -/
theorem forall₂_entries {calls : List Exchange} (h : ∀ c ∈ calls, c.IsAnswered) :
    List.Forall₂ RecordEntry.IsOf (calls.filterMap Exchange.entry?) calls := by
  induction calls with
  | nil => exact .nil
  | cons c calls ih =>
    obtain ⟨answer, hanswer⟩ := h c List.mem_cons_self
    have hentry : c.entry? = some ⟨c.agent, c.task, answer.text?⟩ := by
      rw [Exchange.entry?, Exchange.answer?, hanswer]
      rfl
    rw [List.filterMap_cons_some hentry]
    exact .cons ⟨rfl, rfl, answer, hanswer, rfl⟩ (ih fun c' hc => h c' (List.mem_cons_of_mem c hc))

theorem map_agent_of_forall₂ {entries : List RecordEntry} {calls : List Exchange}
    (h : List.Forall₂ RecordEntry.IsOf entries calls) :
    entries.map RecordEntry.agent = calls.map Exchange.agent := by
  induction h with
  | nil => rfl
  | cons hentry _ ih => rw [List.map_cons, List.map_cons, hentry.agent, ih]

/-- What is recorded of a call is what is noted of it. -/
theorem said_notesOf (calls : List Exchange) :
    (notesOf calls).map Note.said =
      (calls.filterMap Exchange.entry?).map RecordEntry.said := by
  rw [notesOf, List.map_filterMap, List.map_filterMap]
  refine congrArg (List.filterMap · calls) (funext fun c => ?_)
  rw [Exchange.note?, Exchange.entry?]
  cases c.answer? <;> rfl

theorem RunRecord.isIn_toJson (r : RunRecord) : r.IsIn r.toJson where
  swarmId := rfl
  runId := rfl
  name := rfl
  task := rfl
  flow := rfl
  loops := rfl
  finalOutput := rfl
  entries := by
    refine ⟨r.entries.map r.entryJson, rfl, List.forall₂_map_right_iff.mpr ?_⟩
    exact List.forall₂_same.mpr fun e _ => ⟨rfl, rfl, rfl, rfl⟩

/-! ### Whole runs -/

/-- The record made at the end of a run keeps what was asked and done. -/
theorem recordOf_keeps {x : Session} {order : Order} {text : String} {st sv : RunState}
    (hrun : attempt x.swarm.settings x.swarm.roster.crew order x.start = .ok text st)
    (hexchanges : sv.exchanges = st.exchanges) (runId : String) :
    (sv.recordOf x.swarm.settings runId order.task text).Keeps x order text st.exchanges
      (x.afterRun st) := by
  obtain ⟨flow, hcheck⟩ : ∃ flow,
      Flow.check x.swarm.roster.crew.has x.swarm.settings.flow = .ok flow := by
    cases hcheck : Flow.check x.swarm.roster.crew.has x.swarm.settings.flow with
    | ok flow => exact ⟨flow, rfl⟩
    | error e =>
      obtain ⟨_, -, -, hfail⟩ :=
        attempt_of_invalid x.swarm.settings x.swarm.roster.crew order x.start hcheck
      exact nomatch hfail.symm.trans hrun
  have htraced := attempt_traced hcheck order x.start
  have hreplayed {f : Flow} (hparse : Flow.parse x.swarm.settings.flow = .ok f)
      (hhuman : .human ∉ f.members) (hcustom : order.custom = []) :
      Replayed order.task x.start (·.loops f x.swarm.settings.loops)
        (attempt x.swarm.settings x.swarm.roster.crew order x.start) := by
    obtain rfl : flow = f :=
      Except.ok.inj ((Flow.check_eq_ok_iff.mp hcheck).1.symm.trans hparse)
    exact attempt_replayed hcheck hhuman hcustom x.start
  rw [hrun] at htraced hreplayed
  obtain @⟨_, _, calls, hcourse, hall, hanswered⟩ := htraced
  have hcalls : st.exchanges = calls := hcourse.exchanges
  have hentries : (sv.recordOf x.swarm.settings runId order.task text).entries = st.entries :=
    congrArg (List.filterMap Exchange.entry?) hexchanges
  have hforall : List.Forall₂ RecordEntry.IsOf st.entries st.exchanges :=
    forall₂_entries (hcalls ▸ hanswered)
  have hagents : st.entries.map RecordEntry.agent =
      flow.dueCalls x.swarm.settings.loops := by
    rw [map_agent_of_forall₂ hforall, hcalls, hall]
    rfl
  refine ⟨rfl, rfl, rfl, rfl, rfl, rfl, hcalls ▸ hcourse.world, hentries ▸ hforall, ?_, ?_, ?_⟩
  · refine ⟨flow, Roster.has_crew _ ▸ hcheck, hentries ▸ hagents, ?_⟩
    rw [hentries, ← List.length_map, hagents, Flow.length_dueCalls]
    rfl
  · obtain ⟨added, hadded, hsaid⟩ := hcourse.journal.messages
    refine ⟨added, hadded, hsaid.trans ?_⟩
    rw [answers_notesOf, said_notesOf, hentries, ← hcalls]
    rfl
  · intro f hparse hhuman hcustom
    obtain ⟨entries, hgained, hplay⟩ := hreplayed hparse hhuman hcustom
    have hsame : st.entries = entries := hgained
    have hall := hplay [] []
    rw [List.append_nil, List.nil_append, ← hsame, ← hentries] at hall
    exact hall

/-- A run that succeeds comes to the same as if its record were not saved, and then puts it
into the files. -/
theorem attempt_saved {s : Settings} (h : s.autosave = true) {crew : Crew} {order : Order}
    {st sv : RunState} {text : String}
    (hrun : attempt { s with autosave := false } crew order st = .ok text sv) :
    let r := sv.recordOf s (identifier st.world.supply) order.task text
    let path := recordPath s.directory order.task
    let saved := sv.world.files.saveJson path (.value r.toJson)
    ∃ w, attempt s crew order st = .ok text { sv with world := w } ∧
      (saved.1 = .ok () → w = { sv.world with files := saved.2 } ∧
        sv.world.files.Saves path r.toJson.prettyText.toUTF8 w.files) ∧
      ∀ e, saved.1 = .error e →
        w = { sv.world with files := saved.2 }.emitAll (s.eventsOf (.unsaved path e)) ∧
          w.files.fileAt? = sv.world.files.fileAt? := by
  intro r path saved
  have hattempt {w : World}
      (hsave : saveRecord s (identifier st.world.supply) order.task text sv =
        .ok () { sv with world := w }) :
      attempt s crew order st = .ok text { sv with world := w } := by
    rw [attempt_of_autosave h, bind_of_ok hrun]
    exact bind_of_ok hsave
  have hsave := saveRecord_apply s (identifier st.world.supply) order.task text sv
  cases hsaved : sv.world.files.saveJson path (.value r.toJson) with
  | mk outcome files =>
    have hsame : saved = (outcome, files) := hsaved
    rw [hsaved] at hsave
    rw [hsame]
    cases outcome with
    | ok u => exact ⟨_, hattempt hsave, fun _ => ⟨rfl, Tree.saves_of_saveJson hsaved⟩, nofun⟩
    | error e =>
      refine ⟨_, hattempt hsave, nofun, fun e' he' => ?_⟩
      cases he'
      exact ⟨rfl, Tree.fileAt?_of_saveJson_error hsaved⟩

namespace Session

namespace Sample

/-- The same swarm, but its records are saved in a directory that is not there yet. -/
def saving (flow : String) (loops : Nat) (agents : List Agent) : Session :=
  let x := session flow loops agents
  { x with swarm := { x.swarm with
      settings := { x.swarm.settings with autosave := true, directory := "out" } } }

end Sample

end Session

end Relay
