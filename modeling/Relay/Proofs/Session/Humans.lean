import Relay.Proofs.Run.Replies
import Relay.Proofs.Session.Sequence

/-!
# Humans at one terminal

Many runs may follow one another, of several swarms, each with swarms among its agents, and
runs may fail. All their questions are put to one terminal, unless a human answers in place
of it. What is read there, by whichever run, is what the lines of the input say, each read
once and in turn. A line that cannot be read ends the runs that wait for it, and the next
question takes the line behind it.

## Main definitions

* `Session.RunHears` — what a run hears, and what comes of it.

## Main statements

* `Session.humans_reply_in_turn` — runs in sequence, and the lines of one terminal.
-/

namespace Relay

namespace Session

/-- In the course of the run humans reply as they do. If a reply cannot be read, nobody is
asked behind it, and the run fails because of it. -/
structure RunHears (run : Session × Order) (replies : List Reply) : Prop where
  hears : Hears (attempt run.1.swarm.settings run.1.swarm.roster.crew run.2) run.1.start replies
  /-- Nobody else was asked. -/
  asked : (run.1.tryRun run.2).2.world.asked = run.1.world.asked ++ replies.map Reply.dealing
  breaksOff : ∀ (i : Nat) (r : Reply) (e : SwarmError), replies[i]? = some r →
    r.failure? = some e → i + 1 = replies.length ∧ (run.1.tryRun run.2).1 = .error e

theorem tryRun_world (x : Session) (order : Order) : (x.tryRun order).2.world =
    (stateOf (attempt x.swarm.settings x.swarm.roster.crew order x.start)).world := by
  rw [tryRun, runTraced_eq]
  cases attempt x.swarm.settings x.swarm.roster.crew order x.start <;> rfl

/-- What comes of replies in the course of a run. -/
theorem runHears_of_hears {x : Session} {order : Order} {replies : List Reply}
    (h : Hears (attempt x.swarm.settings x.swarm.roster.crew order) x.start replies) :
    RunHears (x, order) replies := by
  refine ⟨h, ?_, fun i r e hr he => ?_⟩
  · rw [tryRun_world]
    exact h.asked_eq
  · obtain ⟨hlast, sv, hfail⟩ := h.breaksOff i r e hr he
    have htry : x.tryRun order = (.error e, x.afterRun sv) := by
      rw [tryRun, runTraced_eq]
      rw [hfail, resultOf]
    exact ⟨hlast, congrArg Prod.fst htry⟩

/-- Every run hears some replies, which lead from the terminal before it to the one behind
it. -/
theorem exists_runHears (x : Session) (order : Order) : ∃ replies,
    RunHears (x, order) replies ∧
      x.world.terminal.Takes replies (x.tryRun order).2.world.terminal := by
  obtain ⟨replies, hhears⟩ : ∃ replies,
      Hears (attempt x.swarm.settings x.swarm.roster.crew order) x.start replies :=
    exists_hears x.swarm.settings x.swarm.roster.agents order x.start
  refine ⟨replies, runHears_of_hears hhears, ?_⟩
  rw [tryRun_world]
  exact hhears.takes

/-- What runs in turn hear leads from the terminal before them to the one behind them. -/
theorem exists_forall₂_runHears {t t' : Terminal} {runs : List (Session × Order)}
    (h : InTurn World.terminal t runs t') : ∃ replies : List (List Reply),
      List.Forall₂ RunHears runs replies ∧ t.Takes replies.flatten t' := by
  induction h with
  | nil t => exact ⟨[], .nil, .nil t⟩
  | @cons x order runs t' _ ih =>
    obtain ⟨more, hmore, htakes⟩ := ih
    obtain ⟨replies, hreplies, hfirst⟩ := x.exists_runHears order
    exact ⟨replies :: more, .cons hreplies hmore, hfirst.append htakes⟩

/-- A human who answers in place of the terminal leaves it alone; otherwise one prompt is
shown and one line is taken. A reply that cannot be read is the last in a run, which fails
because of it, and so do all runs around it. In runs that follow one another at one terminal,
the lines of the input are read in turn, whichever run reads them and whichever fails. -/
theorem humans_reply_in_turn :
    (∀ (s : Settings) (prompt : Prompt) (task : String) (st : RunState) (human : Human),
      s.human = some human → s.humanInTheLoop = true → ∃ su : RunState,
        askHuman s prompt task st =
          .ok (human.answer ((st.world.requestsTo human.number).map Request.task) task) su ∧
        su.world.terminal = st.world.terminal) ∧
    (∀ (s : Settings) (prompt : Prompt) (task : String) (st : RunState),
      s.human = none ∨ s.humanInTheLoop = false → ∃ (answer : Except IoError String)
        (su : RunState),
        askHuman s prompt task st = (match answer with
          | .ok text => .ok text su
          | .error e => .error (.human e) su) ∧
        st.world.terminal.LineByLine [(prompt, answer)] su.world.terminal) ∧
    (∀ (s : Settings) (crew : Crew) (order : Order) (st : RunState) (replies : List Reply),
      Hears (attempt s crew order) st replies → BreaksOff (attempt s crew order) st replies) ∧
    (∀ (t t' : Terminal) (runs : List (Session × Order)), InTurn World.terminal t runs t' →
      IsLines t.input (linesOf t.input) ∧ ∃ replies : List (List Reply),
        List.Forall₂ RunHears runs replies ∧ t.LineByLine (readsOf replies.flatten) t') ∧
    ∀ (x : Session) (ops : List Operation), (∀ op ∈ ops, ∀ w, op ≠ .meanwhile w) →
      InTurn World.terminal x.world.terminal (x.runsOnAll ops)
        (x.performAll ops).world.terminal := by
  refine ⟨?_, ?_, fun s crew order st replies => Hears.breaksOff, ?_,
    fun x ops => x.performAll_inTurn fun _ _ => rfl⟩
  · intro s prompt task st human hhuman hon
    obtain ⟨su, hdone, hterminal, -⟩ :=
      askHuman_of_custom s prompt task st hhuman hon
    exact ⟨su, hdone, hterminal⟩
  · intro s prompt task st h
    obtain ⟨su, hdone, hterminal, -⟩ :=
      askHuman_of_line s prompt task st h
    have htakes : st.world.terminal.Takes
        [.line [] prompt (st.world.terminal.ask prompt).1] su.world.terminal :=
      hterminal ▸ .line (.nil _)
    exact ⟨_, su, hdone, htakes.lineByLine⟩
  · intro t t' runs h
    obtain ⟨replies, hruns, htakes⟩ := exists_forall₂_runHears h
    exact ⟨isLines_linesOf t.input, replies, hruns, htakes.lineByLine⟩

/-! ### A line that cannot be read -/

namespace Sample

/-- A swarm that serves as an agent and asks a human at the terminal. -/
def reading : Settings :=
  { (session "H -> B" 1 []).swarm.settings with name := "N" }

/-- A swarm that serves as an agent and asks a human who answers in place of the terminal. -/
def consulting : Settings :=
  { reading with
    name := "M", humanInTheLoop := true, human := some ⟨9, fun _ task => task ++ "!"⟩ }

/-- A swarm that asks a human at the terminal, and then its agents. -/
def shared : Session :=
  let x := session "H -> N -> M" 1
    [.swarm 7 reading [agent 1 "B" 5], .swarm 8 consulting [agent 1 "B" 5]]
  { x with world := { x.world with terminal := .ofInput [97, 13, 13, 10, 255, 10, 98] } }

/-- A run, and a batch of two more with another flow. -/
def sharing : List Operation := [.run "s", .setFlow "H, N -> M", .runBatch ["t", "u"]]

end Sample

/-- The second line is not UTF-8, and the swarm that waits for it is an agent. The run after
it goes on with the last line, and then the input is used up. -/
theorem humans_reply_in_turn_shared :
    (∃ su, askHuman Sample.consulting .nextTask "t" Sample.shared.start = .ok "t!" su ∧
      su.world.terminal = Sample.shared.world.terminal) ∧
    (∃ (answer : Except IoError String) (su : RunState),
      askHuman Sample.reading .nextTask "t" Sample.shared.start = (match answer with
        | .ok text => .ok text su
        | .error e => .error (.human e) su) ∧
      Sample.shared.world.terminal.LineByLine [(.nextTask, answer)] su.world.terminal) ∧
    (∃ replies, RunHears (Sample.shared, { task := "s" }) replies ∧
      BreaksOff (attempt Sample.shared.swarm.settings Sample.shared.swarm.roster.crew
        { task := "s" }) Sample.shared.start replies) ∧
    InTurn World.terminal Sample.shared.world.terminal
      (Sample.shared.runsOnAll Sample.sharing)
      (Sample.shared.performAll Sample.sharing).world.terminal ∧
    (∃ replies : List (List Reply),
      List.Forall₂ RunHears (Sample.shared.runsOnAll Sample.sharing) replies ∧
      Sample.shared.world.terminal.LineByLine (readsOf replies.flatten)
        (Sample.shared.performAll Sample.sharing).world.terminal) ∧
    linesOf Sample.shared.world.terminal.input = [[97, 13, 13, 10], [255, 10], [98]] ∧
    (Sample.shared.run "s").1 =
      "Agent 'N' failed: Failed to read human input: stream did not contain valid UTF-8" ∧
    ((Sample.shared.run "s").2.run "t").1 = "B!B" ∧
    (Sample.shared.performAll Sample.sharing).world.terminal.input = [] := by
  obtain ⟨hcustom, hline, hbreaks, hruns, hops⟩ := humans_reply_in_turn
  have hturn := hops Sample.shared Sample.sharing (by simp [Sample.sharing])
  obtain ⟨-, hreplies⟩ := hruns _ _ _ hturn
  obtain ⟨replies, hheard, -⟩ := Sample.shared.exists_runHears { task := "s" }
  exact ⟨hcustom Sample.consulting .nextTask "t" Sample.shared.start _ rfl rfl,
    hline Sample.reading .nextTask "t" Sample.shared.start (.inl rfl),
    ⟨replies, hheard, hbreaks _ _ _ _ _ hheard.hears⟩, hturn, hreplies,
    by decide +kernel, by decide +kernel, by decide +kernel, by decide +kernel⟩

end Session

end Relay
