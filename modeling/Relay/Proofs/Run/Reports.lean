import Relay.Proofs.Run.SideBySide
import Relay.Proofs.Run.Course

/-!
# What is reported in a run

The events in a world are only added to, and nobody goes by them. Whatever is reported in a
run is one of three things: a notice of the swarm itself, the notice that a custom task is
addressed to nobody, or what an agent reported while it was asked. These, in their order,
are the *script* of the run.

The verbosity of a swarm decides which of its own notices become events, and it decides
nothing else. So a run is told by one script, whether the swarm is verbose or not, and
whatever was reported before. What the agents report, who may be swarms with a verbosity of
their own, is a part of the script, and hence the same in both runs.

## Main definitions

* `Report`, `Report.events` — the entries of a script, and the events they come to.
* `Told` — the script leads from one world to the other.
* `Responder.Unheeding` — an agent that does not go by the events.
* `RunState.ToldAlike` — states that one script leads to.

## Main statements

* `Told.events` — the events that a script leads to.
* `attempt_toldAlike` — whole runs, with either verbosity.
* `respondOf_told`, `crewOf_unheeding` — agents at any depth.
-/

namespace Relay

/-- The world with other events in it. -/
def World.withEvents (w : World) (events : List Event) : World := { w with events := events }

/-- The settings with another verbosity. -/
def Settings.withVerbose (s : Settings) (verbose : Bool) : Settings := { s with verbose := verbose }

/-! ### Scripts -/

/-- Something that is reported in a run of a swarm. -/
inductive Report where
  /-- A notice of the swarm itself. -/
  | own (notice : Notice)
  /-- A custom task is addressed to a name that leads no stage. -/
  | unknownTarget (target : String)
  /-- What an agent reported while the call was made. -/
  | asked (call : Exchange) (events : List Event)

/-- The events that an entry of the script comes to. Only the swarm's own notices depend on
its settings. -/
def Report.events (s : Settings) : Report → List Event
  | .own notice => s.eventsOf notice
  | .unknownTarget target => [.unknownTarget target]
  | .asked _ events => events

/-- The script of a swarm with these settings and this crew leads from the world to another
one. What is not reported by the swarm itself was reported by an agent of the crew, in the
course of a call that was really made. -/
inductive Told (crew : Crew) (s : Settings) (w : World) : List Report → World → Prop
  | start : Told crew s w [] w
  /-- No agent was dealt with, and nothing was reported. -/
  | aside {script : List Report} {v u : World} (h : Told crew s w script v) (haside : v.Aside u)
      (hevents : u.events = v.events) : Told crew s w script u
  | own {script : List Report} {v : World} (h : Told crew s w script v) (notice : Notice) :
      Told crew s w (script ++ [.own notice]) (v.emitAll (s.eventsOf notice))
  | unknownTarget {script : List Report} {v : World} (h : Told crew s w script v)
      (target : String) :
      Told crew s w (script ++ [.unknownTarget target]) (v.emit (.unknownTarget target))
  | asked {script : List Report} {v u : World} (h : Told crew s w script v) (call : Exchange)
      (events : List Event) (hgives : crew.Gives call v u)
      (hevents : u.events = v.events ++ events) :
      Told crew s w (script ++ [.asked call events]) u

namespace Told

variable {crew : Crew} {s : Settings} {w v u : World} {script more : List Report}

/-- A script that goes on from where another one ended. -/
theorem trans (h : Told crew s w script v) (h' : Told crew s v more u) :
    Told crew s w (script ++ more) u := by
  induction h' with
  | start => rwa [List.append_nil]
  | aside _ haside hevents ih => exact ih.aside haside hevents
  | own _ notice ih =>
    rw [← List.append_assoc]
    exact ih.own notice
  | unknownTarget _ target ih =>
    rw [← List.append_assoc]
    exact ih.unknownTarget target
  | asked _ call events hgives hevents ih =>
    rw [← List.append_assoc]
    exact ih.asked call events hgives hevents

/-- The events are those that were there before, and then those of the script. -/
theorem events (h : Told crew s w script v) :
    v.events = w.events ++ script.flatMap (Report.events s) := by
  induction h with
  | start => simp
  | aside _ _ hevents ih => rw [hevents, ih]
  | own _ notice ih =>
    simp only [World.emitAll, ih, List.flatMap_append, List.append_assoc]
    simp [Report.events]
  | unknownTarget _ target ih =>
    simp only [World.emit, ih, List.flatMap_append, List.append_assoc]
    simp [Report.events]
  | asked _ call events _ hevents ih =>
    rw [hevents, ih, List.flatMap_append, List.append_assoc]
    simp [Report.events]

end Told

/-! ### The verbosity of a script -/

section Verbosity

variable {s : Settings} {verbose : Bool}

/-- A notice becomes an event in the same way, unless it is of level `info`. -/
theorem eventsOf_withVerbose {notice : Notice} (h : notice.level ≠ .info) :
    (s.withVerbose verbose).eventsOf notice = s.eventsOf notice := by
  simp [Settings.eventsOf, h, Settings.withVerbose]

theorem level_of_mem_eventsOf {notice : Notice} {e : Event} (h : e ∈ s.eventsOf notice) :
    e.level = notice.level := by
  rw [Settings.eventsOf] at h
  split at h
  · exact absurd h List.not_mem_nil
  · rw [List.mem_singleton.mp h]
    rfl

/-- The events that are not of level `info` do not depend on the verbosity. -/
theorem Report.filter_events_withVerbose (r : Report) :
    (r.events (s.withVerbose verbose)).filter (·.level ≠ .info) =
      (r.events s).filter (·.level ≠ .info) := by
  obtain notice | target | ⟨call, events⟩ := r
  · by_cases h : notice.level = .info
    · have hnone (t : Settings) : (t.eventsOf notice).filter (·.level ≠ .info) = [] :=
        List.filter_eq_nil_iff.mpr fun e he => by simp [level_of_mem_eventsOf he, h]
      exact (hnone _).trans (hnone s).symm
    · rw [Report.events, Report.events, eventsOf_withVerbose h]
  · rfl
  · rfl

/-- In the script of a swarm that is not verbose, events of level `info` come from agents
that were asked, and from nowhere else. -/
theorem Report.exists_asked_of_info (h : s.verbose = false) {r : Report} {e : Event}
    (he : e ∈ r.events s) (hinfo : e.level = .info) : ∃ call events, r = .asked call events := by
  obtain notice | target | ⟨call, events⟩ := r
  · have hlevel : notice.level = .info := level_of_mem_eventsOf he ▸ hinfo
    rw [Report.events, Settings.eventsOf, h, hlevel] at he
    exact absurd he List.not_mem_nil
  · rw [Report.events, List.mem_singleton] at he
    subst he
    exact nomatch hinfo
  · exact ⟨call, events, rfl⟩

end Verbosity

/-! ### One script for two runs -/

/-- The agent does not go by the events that were reported before. Whatever they are, it
gives the same answer or fails in the same way, and it reports the same. -/
def Responder.Unheeding (respond : Responder) : Prop :=
  ∀ task image (w : World) (before : List Event), ∃ reported,
    Together (fun w' v' => w'.events = w.events ++ reported ∧
        v' = w'.withEvents (before ++ reported)) Eq
      (respond task image w) (respond task image (w.withEvents before))

/-- No agent of the crew goes by the events. -/
def Crew.Unheeding (crew : Crew) : Prop :=
  ∀ name respond, Table.lookup name crew = some respond → respond.Unheeding

/-- The two states differ in the events only, and one script leads there: from the world `w`
with the settings `s`, and from the world `v` with the settings `t`. -/
structure RunState.ToldAlike (crew : Crew) (s t : Settings) (w v : World) (st su : RunState) :
    Prop where
  same : ∃ events, su = { st with world := st.world.withEvents events }
  told : ∃ script, Told crew s w script st.world ∧ Told crew t v script su.world

section Parts

variable {crew : Crew} {s t : Settings} {w v : World} {verbose : Bool} {image : Option String}

open RunState (ToldAlike)

theorem report_toldAlike (notice : Notice) :
    Alike (ToldAlike crew s t w v) Eq (report s notice) (report t notice) := by
  rintro st _ ⟨⟨events, rfl⟩, script, hleft, hright⟩
  exact .ok ⟨⟨_, rfl⟩, _, hleft.own notice, hright.own notice⟩

theorem planEvents_toldAlike (flow : Flow) (custom : Option CustomTask) :
    Alike (ToldAlike crew s t w v) Eq (emitEvents (planEvents flow custom))
      (emitEvents (planEvents flow custom)) := by
  have hnone : Alike (ToldAlike crew s t w v) Eq (emitEvents []) (emitEvents []) := by
    rintro st _ ⟨⟨events, rfl⟩, script, hleft, hright⟩
    exact .ok ⟨⟨_, rfl⟩, script, hleft.aside (World.quiet_emitAll ..).aside (List.append_nil _),
      hright.aside (World.quiet_emitAll ..).aside (List.append_nil _)⟩
  cases custom with
  | none => exact hnone
  | some c =>
    rw [planEvents]
    split
    · exact hnone
    · rintro st _ ⟨⟨events, rfl⟩, script, hleft, hright⟩
      exact .ok ⟨⟨_, rfl⟩, _, hleft.unknownTarget c.target, hright.unknownTarget c.target⟩

/-- An aside that is the same in both runs, in which nothing is reported. -/
theorem RunState.ToldAlike.aside {st : RunState} {events : List Event}
    (h : ToldAlike crew s t w v st { st with world := st.world.withEvents events })
    (st' : RunState) (haside : st.world.Aside st'.world)
    (hevents : st'.world.events = st.world.events) :
    ToldAlike crew s t w v st' { st' with world := st'.world.withEvents events } := by
  obtain ⟨-, script, hleft, hright⟩ := h
  have haside' : (st.world.withEvents events).Aside (st'.world.withEvents events) :=
    ⟨haside.clock, haside.memories, haside.dealings⟩
  exact ⟨⟨events, rfl⟩, script, hleft.aside haside hevents, hright.aside haside' rfl⟩

theorem drawNumber_toldAlike : Alike (ToldAlike crew s t w v) Eq drawNumber drawNumber := by
  rintro st _ h
  obtain ⟨events, rfl⟩ := h.same
  exact .ok (h.aside _ ⟨rfl, rfl, [], (List.append_nil _).symm, by simp⟩ rfl)

theorem promptHuman_toldAlike (prompt : Prompt) :
    Alike (ToldAlike crew s t w v) Eq (promptHuman prompt) (promptHuman prompt) := by
  rintro st _ h
  obtain ⟨events, rfl⟩ := h.same
  have hafter := h.aside { st with world := (st.world.ask prompt).2 }
    ⟨rfl, rfl, [.question prompt], rfl, by simp [Dealing.WithHuman]⟩ rfl
  have hask : (st.world.withEvents events).ask prompt =
      ((st.world.ask prompt).1, (st.world.ask prompt).2.withEvents events) := rfl
  rw [promptHuman, promptHuman, hask]
  generalize st.world.ask prompt = asked at hafter ⊢
  obtain ⟨answer, world⟩ := asked
  cases answer with
  | ok text => exact .ok hafter
  | error e => exact .error rfl hafter

theorem consultHuman_toldAlike (human : Human) (task : String) :
    Alike (ToldAlike crew s t w v) Eq (consultHuman human task) (consultHuman human task) := by
  rintro st _ h
  obtain ⟨events, rfl⟩ := h.same
  exact .ok (h.aside _ ⟨rfl, rfl, [.request ⟨human.number, .human, task, none⟩], rfl,
    by simp [Dealing.WithHuman]⟩ rfl)

theorem recordAnswer_toldAlike (agent text : String) :
    Alike (ToldAlike crew s t w v) Eq (recordAnswer agent text) (recordAnswer agent text) := by
  rintro st _ h
  obtain ⟨events, rfl⟩ := h.same
  exact .ok (h.aside _ (World.Quiet.refl _).aside rfl)

/-- What the agent reports while it is asked becomes an entry of the script. -/
theorem exchange_toldAlike {name task : String} {respond : Responder}
    (hfind : Table.lookup name crew = some respond) (hunheeding : respond.Unheeding) :
    Alike (ToldAlike crew s t w v) Eq (exchange name respond task image)
      (exchange name respond task image) := by
  rintro st _ ⟨⟨events, rfl⟩, script, hleft, hright⟩
  obtain ⟨reported, hboth⟩ := hunheeding task image st.world events
  rw [exchange, exchange]
  simp only
  generalize hanswer : respond task image st.world = r at hboth
  generalize hanswer' : respond task image (st.world.withEvents events) = r' at hboth
  cases hboth with
  | ok hworlds =>
    obtain ⟨hreported, rfl⟩ := hworlds
    exact .ok ⟨⟨_, rfl⟩, _, hleft.asked ⟨name, task, image, .ok _⟩ reported
      ⟨respond, hfind, hanswer⟩ hreported, hright.asked _ reported ⟨respond, hfind, hanswer'⟩ rfl⟩
  | error he hworlds =>
    subst he
    obtain ⟨hreported, rfl⟩ := hworlds
    exact .error rfl ⟨⟨_, rfl⟩, _, hleft.asked ⟨name, task, image, .error _⟩ reported
      ⟨respond, hfind, hanswer⟩ hreported, hright.asked _ reported ⟨respond, hfind, hanswer'⟩ rfl⟩

/-- The same record is saved in both runs. If that fails, it is reported in both. -/
theorem saveRecord_toldAlike (runId task output : String) :
    Alike (ToldAlike crew s (s.withVerbose verbose) w v) Eq (saveRecord s runId task output)
      (saveRecord (s.withVerbose verbose) runId task output) := by
  rintro st _ h
  obtain ⟨events, rfl⟩ := h.same
  rw [saveRecord_apply, saveRecord_apply]
  have hsame : ({ st with world := st.world.withEvents events } : RunState).world.files.saveJson
      (recordPath (s.withVerbose verbose).directory task)
      (.value (RunState.recordOf { st with world := st.world.withEvents events }
        (s.withVerbose verbose) runId task output).toJson) =
      st.world.files.saveJson (recordPath s.directory task)
        (.value (st.recordOf s runId task output).toJson) := rfl
  rw [hsame]
  generalize st.world.files.saveJson (recordPath s.directory task)
    (.value (st.recordOf s runId task output).toJson) = saved
  have hfiles := h.aside { st with world := { st.world with files := saved.2 } }
    ⟨rfl, rfl, [], (List.append_nil _).symm, by simp⟩ rfl
  obtain ⟨outcome, files⟩ := saved
  cases outcome with
  | ok u => exact .ok hfiles
  | error e => exact report_toldAlike _ _ _ hfiles

theorem checkFlow_toldAlike :
    Alike (ToldAlike crew s (s.withVerbose verbose) w v) Eq (checkFlow s crew)
      (checkFlow (s.withVerbose verbose) crew) := by
  rintro st _ h
  obtain ⟨events, rfl⟩ := h.same
  have hafter (readings : Flow.Readings) :=
    h.aside { st with memory := { st.memory with readings := readings } }
      (World.Quiet.refl _).aside rfl
  rw [checkFlow, checkFlow]
  simp only [Settings.withVerbose]
  obtain ⟨checked, readings⟩ := st.memory.readings.check crew.has s.flow
  cases checked with
  | ok flow => exact .ok (hafter readings)
  | error e => exact .error rfl (hafter readings)

/-- A run is told by the same script with either verbosity. -/
theorem attempt_toldAlike (hcrew : crew.Unheeding) (order : Order) :
    Alike (ToldAlike crew s (s.withVerbose verbose) w v) Eq (attempt s crew order)
      (attempt (s.withVerbose verbose) crew order) := by
  refine .bind checkFlow_toldAlike fun flow => ?_
  rw [runFlow_eq, runFlow_eq]
  refine .bind (planEvents_toldAlike flow _) fun _ => .bind drawNumber_toldAlike fun number => ?_
  refine .bind ?_ fun output => keepRecord_congr rfl (saveRecord_toldAlike _ _ _)
  refine runLoops_congr (s := s) (t := s.withVerbose verbose) (fun _ => report_toldAlike _) rfl
    (fun task => ?_) 0 order.task s.loops
  refine runSteps_congr (fun _ => report_toldAlike _) (fun _ prompt task => ?_)
    (fun name _ task => ?_) task
  · exact askHuman_congr (s := s) (t := s.withVerbose verbose) (fun _ => report_toldAlike _) rfl rfl
      (promptHuman_toldAlike prompt) fun human _ _ => consultHuman_toldAlike human task
  · exact callAgent_congr (fun _ => report_toldAlike _) rfl (.throw rfl)
      (fun respond hfind => exchange_toldAlike hfind (hcrew name respond hfind))
      (recordAnswer_toldAlike name)

end Parts

/-! ### Agents at any depth -/

/-- What a swarm reported while it served as an agent is told by the script. The world left
behind is the one that the script leads to, with the memory of the swarm put into it. -/
def ToldWithin (crew : Crew) (s : Settings) (number : Nat) (w : World) (script : List Report)
    (w' : World) : Prop :=
  ∃ v memory, Told crew s w script v ∧ w' = v.setMemory number memory

theorem ToldWithin.events {crew : Crew} {s : Settings} {number : Nat} {w w' : World}
    {script : List Report} (h : ToldWithin crew s number w script w') :
    w'.events = w.events ++ script.flatMap (Report.events s) := by
  obtain ⟨v, memory, htold, rfl⟩ := h
  exact htold.events

/-- A swarm that serves as an agent answers the same with either verbosity, and one script
tells what it reports. -/
theorem respondOf_told {crew : Crew} (hcrew : crew.Unheeding) (number : Nat) (s : Settings)
    (verbose : Bool) (task : String) (image : Option String) (w : World) (before : List Event) :
    ∃ script : List Report, Together
      (fun w' v' => v' = w'.withEvents v'.events ∧ ToldWithin crew s number w script w' ∧
        ToldWithin crew (s.withVerbose verbose) number (w.withEvents before) script v') Eq
      (respondOf number s crew task image w)
      (respondOf number (s.withVerbose verbose) crew task image (w.withEvents before)) := by
  let st : RunState := ⟨w, w.memoryOf number, []⟩
  have hstart : RunState.ToldAlike crew s (s.withVerbose verbose) w (w.withEvents before) st
      { st with world := w.withEvents before } := ⟨⟨before, rfl⟩, [], .start, .start⟩
  have hboth := attempt_toldAlike hcrew ⟨task, image, []⟩ _ _ hstart
  have hmemory : (w.withEvents before).memoryOf number = w.memoryOf number := rfl
  rw [respondOf, respondOf, hmemory]
  generalize attempt s crew ⟨task, image, []⟩ ⟨w, w.memoryOf number, []⟩ = r at hboth ⊢
  generalize attempt (s.withVerbose verbose) crew ⟨task, image, []⟩
    ⟨w.withEvents before, w.memoryOf number, []⟩ = r' at hboth ⊢
  cases hboth with
  | ok hend =>
    obtain ⟨⟨events, rfl⟩, script, hleft, hright⟩ := hend
    exact ⟨script, .ok ⟨rfl, ⟨_, _, hleft, rfl⟩, _, _, hright, rfl⟩⟩
  | error he hend =>
    subst he
    obtain ⟨⟨events, rfl⟩, script, hleft, hright⟩ := hend
    exact ⟨script, .error rfl ⟨rfl, ⟨_, _, hleft, rfl⟩, _, _, hright, rfl⟩⟩

/-- No agent goes by the events that were reported before. -/
theorem Agent.respond_unheeding : ∀ a : Agent, a.respond.Unheeding := by
  refine Agent.respond_induction ?_ ?_
  · intro number name description answer task image w before
    have hsame : (w.withEvents before).requestsTo number = w.requestsTo number := rfl
    refine ⟨[], ?_⟩
    rw [Agent.respond]
    simp only [hsame]
    cases answer (w.requestsTo number) ⟨number, .agent name, task, image⟩ with
    | ok a => exact .ok ⟨(List.append_nil _).symm, by rw [List.append_nil]; rfl⟩
    | error e => exact .error rfl ⟨(List.append_nil _).symm, by rw [List.append_nil]; rfl⟩
  · intro number s crew hcrew task image w before
    obtain ⟨script, hboth⟩ := respondOf_told hcrew number s s.verbose task image w before
    refine ⟨script.flatMap (Report.events s), hboth.imp fun w' v' h => ?_⟩
    obtain ⟨hsame, hleft, hright⟩ := h
    exact ⟨hleft.events, hsame.trans (congrArg w'.withEvents hright.events)⟩

theorem crewOf_unheeding : ∀ agents : List Agent, (crewOf agents).Unheeding :=
  crewOf_of_respond Agent.respond_unheeding

end Relay
