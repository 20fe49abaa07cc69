import Relay.Proofs.Session.Operation

/-!
# The two logs of a swarm

A swarm that was just built has empty logs. Whatever is done with it afterwards,
its history and its conversation agree: the history of a name holds the contents
of the messages from that name, in their order, and besides only the texts that
were tracked by hand. What is tracked by hand leaves no trace in the conversation.
No operation takes anything away from either log.

## Main definitions

* `Session.LogsAgree` — everything that is said about both logs after operations.

## Main statements

* `Session.logsAgree_of_build` — all operations on a swarm that was just built.
-/

namespace Relay

namespace Note

/-- The text that was tracked by hand, under its name. -/
def tracked? (n : Note) : Option (String × String) :=
  if n.byHand then some (n.agent, n.text) else none

/-- The note is the answer of an agent, whose name is not that of the human. -/
def OfAgent (n : Note) : Prop := n.byHand = false ∧ n.agent ≠ humanName

theorem OfAgent.tracked? {n : Note} (h : n.OfAgent) : n.tracked? = none := by
  rw [Note.tracked?, h.1]
  rfl

/-- Every note is an answer or was made by hand. -/
theorem length_answers (notes : List Note) :
    notes.length = (answers notes).length + (notes.filterMap Note.tracked?).length := by
  induction notes with
  | nil => rfl
  | cons n notes ih =>
    rw [answers, List.filter_cons, List.filterMap_cons, Note.tracked?]
    rw [answers] at ih
    cases n.byHand with
    | true =>
      simp only [Bool.not_true, Bool.false_eq_true, if_false, if_true, List.length_cons]
      omega
    | false =>
      simp only [Bool.not_false, Bool.false_eq_true, if_false, if_true, List.length_cons]
      omega

end Note

/-- Messages that are said like some notes have the texts of the notes as contents. -/
theorem Conversation.contents_messagesFrom {c : Conversation} {notes : List Note}
    (h : c.messages.map Message.said = notes.map Note.said) (name : String) :
    (c.messagesFrom name).map (fun m => m.content.shown) = Note.textsOf name notes := by
  let p : Role × Content → Bool := fun said => said.1.name == name
  have hmessages : ((c.messages.map Message.said).filter p).map (fun said => said.2.shown) =
      (c.messagesFrom name).map (fun m => m.content.shown) := by
    rw [List.filter_map, List.map_map]
    rfl
  have hnotes : ((notes.map Note.said).filter p).map (fun said => said.2.shown) =
      Note.textsOf name notes := by
    rw [List.filter_map, List.map_map]
    rfl
  rw [← hmessages, ← hnotes, h]

/-- A swarm that was just built has not noted anything. -/
theorem Builder.journal_of_build {b : Builder} {w w' : World} {swarm : Swarm}
    (h : b.build w = .ok swarm w') :
    swarm.journal = .new swarm.name swarm.roster.names := by
  obtain ⟨id, w₁, hid, -⟩ := exists_of_bind_eq_ok h
  rw [Builder.build_apply hid] at h
  simp only at h
  split at h
  · exact nomatch h
  split at h
  · exact nomatch h
  split at h
  · exact nomatch h
  · cases h
    rfl

namespace Session

/-! ### The notes of operations -/

section Notes

variable (x : Session)

theorem ofAgent_of_mem_notesOfRun (order : Order) : ∀ n ∈ x.notesOfRun order, n.OfAgent := by
  intro n hn
  obtain ⟨due, st, hnames, hcourse, -⟩ := x.runTraced_course order
  obtain ⟨hagent, hbyHand⟩ := hcourse.agent_mem_of_mem_notesOf hn
  exact ⟨hbyHand, (hnames n.agent hagent).ne_human⟩

theorem ofAgent_of_mem_notesOfRuns (tasks : List String) :
    ∀ n ∈ x.notesOfRuns tasks, n.OfAgent := by
  induction tasks generalizing x with
  | nil => exact fun n hn => absurd hn List.not_mem_nil
  | cons task rest ih =>
    intro n hn
    rcases List.mem_append.mp hn with hn | hn
    · exact x.ofAgent_of_mem_notesOfRun _ n hn
    · exact ih (x.run task).2 n hn

/-- Only what is tracked by hand is noted by hand. -/
theorem ofAgent_of_mem_notesOn {op : Operation} (h : op.tracked? = none) :
    ∀ n ∈ x.notesOn op, n.OfAgent := by
  cases op with
  | tryRun order => exact x.ofAgent_of_mem_notesOfRun order
  | runWith order => exact x.ofAgent_of_mem_notesOfRun order
  | run task => exact x.ofAgent_of_mem_notesOfRun _
  | runBatch tasks => exact x.ofAgent_of_mem_notesOfRuns tasks
  | respond task image => exact x.ofAgent_of_mem_notesOfRun _
  | runAsSwarm task => exact x.ofAgent_of_mem_notesOfRun _
  | track agent text => exact nomatch h
  | _ => exact fun n hn => absurd hn List.not_mem_nil

theorem tracked_notesOn (op : Operation) :
    (x.notesOn op).filterMap Note.tracked? = op.tracked?.toList := by
  cases h : op.tracked? with
  | none =>
    refine List.filterMap_eq_nil_iff.mpr fun n hn => ?_
    exact (x.ofAgent_of_mem_notesOn h n hn).tracked?
  | some tracked =>
    cases op with
    | track agent text => exact congrArg Option.toList h
    | _ => exact nomatch h

/-- The notes made by hand are the texts that were tracked, in their order. -/
theorem tracked_notesOnAll (ops : List Operation) :
    (x.notesOnAll ops).filterMap Note.tracked? = ops.filterMap Operation.tracked? := by
  induction ops generalizing x with
  | nil => rfl
  | cons op ops ih =>
    rw [notesOnAll, List.filterMap_append, tracked_notesOn, ih, List.filterMap_cons]
    cases op.tracked? <;> rfl

/-- No answer is noted under the name of the human. -/
theorem ne_human_of_mem_answers (ops : List Operation) :
    ∀ n ∈ Note.answers (x.notesOnAll ops), n.agent ≠ humanName := by
  induction ops generalizing x with
  | nil => exact fun n hn => absurd hn List.not_mem_nil
  | cons op ops ih =>
    intro n hn
    rw [notesOnAll, Note.answers, List.filter_append] at hn
    rcases List.mem_append.mp hn with hn | hn
    · obtain ⟨hmem, hanswer⟩ := List.mem_filter.mp hn
      cases h : op.tracked? with
      | none => exact (x.ofAgent_of_mem_notesOn h n hmem).2
      | some tracked =>
        cases op with
        | track agent text =>
          obtain rfl := List.mem_singleton.mp hmem
          exact nomatch hanswer
        | _ => exact nomatch h
    · exact ih (x.perform op) n hn

/-- If nothing is tracked by hand, all notes are answers. -/
theorem answers_notesOnAll {ops : List Operation} (h : ∀ op ∈ ops, op.tracked? = none) :
    Note.answers (x.notesOnAll ops) = x.notesOnAll ops := by
  have hnone : (x.notesOnAll ops).filterMap Note.tracked? = [] := by
    rw [tracked_notesOnAll]
    exact List.filterMap_eq_nil_iff.mpr h
  refine List.filter_eq_self.mpr fun n hn => ?_
  have htracked := List.filterMap_eq_nil_iff.mp hnone n hn
  rw [Note.tracked?] at htracked
  cases hhand : n.byHand with
  | true => simp [hhand] at htracked
  | false => rfl

end Notes

/-! ### Operations one after the other -/

theorem performAll_append (x : Session) (ops more : List Operation) :
    x.performAll (ops ++ more) = (x.performAll ops).performAll more := List.foldl_append

/-- Operations that come later leave everything in its place. -/
theorem performAll_prefix (x : Session) (earlier later : List Operation) :
    (x.performAll earlier).swarm.journal.conversation.messages <+:
        (x.performAll (earlier ++ later)).swarm.journal.conversation.messages ∧
      ∀ name, (x.performAll earlier).swarm.journal.history.get name <+:
        (x.performAll (earlier ++ later)).swarm.journal.history.get name := by
  rw [performAll_append]
  have hgrows := (x.performAll earlier).performAll_grows later
  obtain ⟨added, hadded, -⟩ := hgrows.messages
  refine ⟨?_, fun name => ?_⟩
  · rw [hadded]
    exact List.prefix_append _ added
  · rw [hgrows.get name]
    exact List.prefix_append _ _

/-- What is tracked by hand leaves no trace but in the history. -/
theorem AlikeButHistory.performAll {x y : Session} (h : x.AlikeButHistory y)
    (ops : List Operation) : (x.performAll ops).AlikeButHistory
      (y.performAll (ops.filter fun op => op.tracked?.isNone)) := by
  induction ops generalizing x y with
  | nil => exact h
  | cons op ops ih =>
    rw [List.filter_cons]
    split
    · exact ih (h.perform op)
    · next htracked =>
      cases op with
      | track agent text => exact ih ⟨h.world, h.settings, h.roster, h.conversation⟩
      | _ => exact absurd rfl htracked

/-! ### Swarms that were just built -/

section Fresh

variable {x : Session} {owner : String} {names : List String}
  (hnew : x.swarm.journal = .new owner names) (ops : List Operation)

include hnew

/-- The history of a name holds the texts noted under it. -/
theorem history_performAll (name : String) :
    (x.performAll ops).swarm.journal.history.get name = Note.textsOf name (x.notesOnAll ops) := by
  rw [(x.performAll_grows ops).get, hnew, Journal.new, History.get_ofNames, List.nil_append]

/-- The conversation holds the answers, each said by its agent. -/
theorem said_performAll :
    (x.performAll ops).swarm.journal.conversation.messages.map Message.said =
      (Note.answers (x.notesOnAll ops)).map Note.said := by
  obtain ⟨added, hadded, hsaid⟩ := (x.performAll_grows ops).messages
  rw [hadded, hnew]
  exact hsaid

/-- There is one text in the history for each message, and one for each text that was
tracked by hand. -/
theorem total_performAll : (x.performAll ops).swarm.journal.history.total =
    (x.performAll ops).swarm.journal.conversation.length +
      (ops.filterMap Operation.tracked?).length := by
  have hlength : (x.performAll ops).swarm.journal.conversation.length =
      (Note.answers (x.notesOnAll ops)).length := by
    rw [Conversation.length, ← List.length_map, said_performAll hnew, List.length_map]
  have hnotes := Note.length_answers (x.notesOnAll ops)
  rw [(x.performAll_grows ops).total, hnew, Journal.new, History.total_ofNames, hlength]
  rw [tracked_notesOnAll] at hnotes
  omega

/-- Every message is said by an agent, and none by one with the name of the human. -/
theorem role_of_mem_performAll {m : Message}
    (hm : m ∈ (x.performAll ops).swarm.journal.conversation.messages) :
    ∃ name, m.role = .assistant name ∧ name ≠ humanName := by
  have hmem : m.said ∈ (Note.answers (x.notesOnAll ops)).map Note.said :=
    said_performAll hnew ops ▸ List.mem_map_of_mem hm
  obtain ⟨n, hn, heq⟩ := List.mem_map.mp hmem
  exact ⟨n.agent, congrArg Prod.fst heq.symm, x.ne_human_of_mem_answers ops n hn⟩

/-- Without tracking by hand there is no text under the name of the human. -/
theorem history_human_performAll (hnone : ∀ op ∈ ops, op.tracked? = none) :
    (x.performAll ops).swarm.journal.history.get humanName = [] := by
  rw [history_performAll hnew, Note.textsOf, ← x.answers_notesOnAll hnone, List.map_eq_nil_iff]
  refine List.filter_eq_nil_iff.mpr fun n hn => ?_
  simpa using x.ne_human_of_mem_answers ops n hn

end Fresh

/-- What both logs of a session hold after some operations. -/
structure LogsAgree (x : Session) (ops : List Operation) : Prop where
  /-- Every message is said by an agent, and none by one with the name of the human. -/
  said : ∀ m ∈ (x.performAll ops).swarm.journal.conversation.messages,
    ∃ name, m.role = .assistant name ∧ name ≠ humanName
  /-- The history of a name holds the texts noted under the name. -/
  history : ∀ name, (x.performAll ops).swarm.journal.history.get name =
    Note.textsOf name (x.notesOnAll ops)
  /-- The notes made by hand are exactly the texts that were tracked. -/
  tracked : (x.notesOnAll ops).filterMap Note.tracked? = ops.filterMap Operation.tracked?
  /-- Without those, the texts are the contents of the messages from the name. -/
  contents : ∀ name, Note.textsOf name (Note.answers (x.notesOnAll ops)) =
    ((x.performAll ops).swarm.journal.conversation.messagesFrom name).map
      fun m => m.content.shown
  /-- There is one text for each message and for each that was tracked. -/
  total : (x.performAll ops).swarm.journal.history.total =
    (x.performAll ops).swarm.journal.conversation.length +
      (ops.filterMap Operation.tracked?).length
  /-- If nothing was tracked, both logs hold the same. -/
  untracked : (∀ op ∈ ops, op.tracked? = none) →
    (∀ name, (x.performAll ops).swarm.journal.history.get name =
        ((x.performAll ops).swarm.journal.conversation.messagesFrom name).map
          fun m => m.content.shown) ∧
      (x.performAll ops).swarm.journal.history.total =
        (x.performAll ops).swarm.journal.conversation.length ∧
      (x.performAll ops).swarm.journal.history.get humanName = []
  /-- The conversation is as if nothing had been tracked. -/
  unaffected : (x.performAll ops).swarm.journal.conversation =
    (x.performAll (ops.filter fun op => op.tracked?.isNone)).swarm.journal.conversation
  /-- Whatever was in the logs before the last of the operations is still there, in
  its place. -/
  kept : ∀ earlier later, ops = earlier ++ later →
    (x.performAll earlier).swarm.journal.conversation.messages <+:
        (x.performAll ops).swarm.journal.conversation.messages ∧
      ∀ name, (x.performAll earlier).swarm.journal.history.get name <+:
        (x.performAll ops).swarm.journal.history.get name

/-- Whatever is done with a swarm after it was built, its two logs agree. -/
theorem logsAgree_of_build {b : Builder} {w w' : World} {swarm : Swarm}
    (h : b.build w = .ok swarm w') (ops : List Operation) : LogsAgree ⟨w', swarm⟩ ops := by
  let x : Session := ⟨w', swarm⟩
  have hnew : x.swarm.journal = .new swarm.name swarm.roster.names := Builder.journal_of_build h
  have hhistory := history_performAll hnew ops
  have hcontents := Conversation.contents_messagesFrom (said_performAll hnew ops)
  have htotal := total_performAll hnew ops
  refine {
    said := fun m hm => role_of_mem_performAll hnew ops hm
    history := hhistory
    tracked := x.tracked_notesOnAll ops
    contents := fun name => (hcontents name).symm
    total := htotal
    untracked := fun hnone => ⟨fun name => ?_, ?_, history_human_performAll hnew ops hnone⟩
    unaffected := ((AlikeButHistory.refl x).performAll ops).conversation
    kept := fun earlier later hops => hops ▸ x.performAll_prefix earlier later }
  · rw [hhistory, hcontents, x.answers_notesOnAll hnone]
  · rw [htotal, List.filterMap_eq_nil_iff.mpr hnone]
    rfl

/-- The session of a swarm that was just built, if it can be built. -/
def built? (b : Builder) (w : World) : Option Session :=
  match b.build w with
  | .ok swarm w => some ⟨w, swarm⟩
  | .error _ _ => none

/-- The text that is tracked by hand is in the history alone, between two answers. -/
theorem logsAgree_of_build_track :
    let b : Builder := {
      config := { name := "S", flow := "A -> B, H", verbose := false, autosave := false }
      agents := [Sample.agent 1 "A" 5, Sample.agent 2 "B" 1] }
    let w : World := { terminal := .ofInput [104, 105, 10] }
    let ops : List Operation := [.run "t", .track "A" "by hand", .setFlow "B -> A",
      .respond "u" none, .setFlow "A -> H", .removeAgent "B", .runBatch ["v", "w"]]
    ∃ swarm w', b.build w = .ok swarm w' ∧ LogsAgree ⟨w', swarm⟩ ops ∧
      ((⟨w', swarm⟩ : Session).performAll ops).swarm.journal.history.get "A" =
        ["tA", "by hand", "vA", "wA"] := by
  intro b w ops
  have hhistory : (built? b w).map (fun x => (x.performAll ops).swarm.journal.history.get "A") =
      some ["tA", "by hand", "vA", "wA"] := by decide +kernel
  rw [built?] at hhistory
  cases hbuild : b.build w with
  | ok swarm w' =>
    rw [hbuild] at hhistory
    exact ⟨swarm, w', rfl, logsAgree_of_build hbuild ops, Option.some.inj hhistory⟩
  | error e w' =>
    rw [hbuild] at hhistory
    cases hhistory

end Session

end Relay
