import Relay.Proofs.Session.Building
import Relay.Proofs.Session.Kinds

/-!
# Answers in JSON and what they are normalized to

A JSON value may be given as an answer as it is, or be turned into the answer of the
matching kind first: `null` into no answer, a Boolean into a verdict, a string into a text.
As only texts are handed on, it should make no difference which of the two an agent does,
and for all values but the Booleans it makes none: runs, records and logs are the same,
however deep in nested swarms the agent is. A Boolean that is given as it is keeps its JSON
form, where a verdict has a word for it, and the agents behind are told so.

## Main definitions

* `Answer.meaning` — the text that a JSON value means as an answer.
* `Agent.Normalizes` — an agent that normalizes a value, in place of one that does not.
* `Session.SameBesides` — two sessions in which the same comes of the same operations.

## Main statements

* `Session.normalizing_exact` — normalizing a value makes no difference exactly if it is no
  Boolean.
-/

namespace Relay

variable {v : Json.Value}

/-! ### What a JSON value means -/

/-- The text that a JSON value means as an answer: a verdict has a word for it, a string
stands without its quotes, `null` has no text, and any other value has its compact form. -/
def Answer.meaning : Json.Value → Option String
  | .null => none
  | .bool b => some (flagText b)
  | .str s => some s
  | v => some v.text

theorem Answer.text?_ofJson (v : Json.Value) : (ofJson v).text? = meaning v := by
  cases v <;> rfl

theorem Answer.text?_json_iff (v : Json.Value) :
    (json v).text? = meaning v ↔ ∀ b, v ≠ .bool b := by
  cases v with
  | bool b =>
    have hne : (json (.bool b)).text? ≠ meaning (.bool b) := by
      cases b <;> decide
    exact iff_of_false hne fun h => h b rfl
  | _ => exact iff_of_true rfl fun _ => nofun

/-! ### Agents that normalize a value -/

/-- The outcomes of a request are the same, or the value is given as it is in one of them and
normalized in the other. -/
inductive Answer.Normalizes (v : Json.Value) :
    Except AgentError Answer → Except AgentError Answer → Prop
  | same (outcome : Except AgentError Answer) : Normalizes v outcome outcome
  | json : Normalizes v (.ok (.json v)) (.ok (.ofJson v))

/-- The agents are the same, but for simple agents that give the value as it is, in place of
which there are others that normalize it. -/
inductive Agent.Normalizes (v : Json.Value) : Agent → Agent → Prop
  | simple {number : Nat} {name description : String}
      {answer answer' : List Request → Request → Except AgentError Answer}
      (h : ∀ past r, Answer.Normalizes v (answer past r) (answer' past r)) :
      Agent.Normalizes v (.simple number name description answer)
        (.simple number name description answer')
  | swarm {number : Nat} {s : Settings} {agents agents' : List Agent}
      (h : List.Forall₂ (Agent.Normalizes v) agents agents') :
      Agent.Normalizes v (.swarm number s agents) (.swarm number s agents')

theorem Answer.Normalizes.inKind (hv : ∀ b, v ≠ .bool b) {a b : Except AgentError Answer}
    (h : Normalizes v a b) : Difference.inKind.Outcomes a b := by
  cases h with
  | same => exact .refl _ _
  | json => exact ((text?_json_iff v).mpr hv).trans (text?_ofJson v).symm

mutual

/-- The text is the same, so nothing but the kind of the answer tells the agents apart. -/
theorem Agent.Normalizes.apart (hv : ∀ b, v ≠ .bool b) :
    ∀ {a b : Agent}, a.Normalizes v b → a.Apart .inKind b
  | _, _, .simple h => .simple fun past r => (h past r).inKind hv
  | _, _, .swarm h => .swarm rfl (agents_apart_of_normalizes hv h)

theorem agents_apart_of_normalizes (hv : ∀ b, v ≠ .bool b) :
    ∀ {agents agents' : List Agent}, List.Forall₂ (Agent.Normalizes v) agents agents' →
      List.Forall₂ (Agent.Apart .inKind) agents agents'
  | [], [], .nil => .nil
  | _ :: _, _ :: _, .cons h hrest => .cons (h.apart hv) (agents_apart_of_normalizes hv hrest)

end

theorem Agent.Normalizes.name_eq {a b : Agent} (h : a.Normalizes v b) : a.name = b.name := by
  cases h <;> rfl

/-- Agents that are registered in place of each other are found in place of each other. -/
theorem Roster.find?_normalizes {agents agents' : List Agent}
    (h : List.Forall₂ (Agent.Normalizes v) agents agents') (name : String) :
    Option.Rel (Agent.Normalizes v) ((ofList agents).find? name) ((ofList agents').find? name) := by
  have hreverse := List.rel_reverse h
  rw [find?_ofList, find?_ofList]
  generalize agents.reverse = agents at hreverse
  generalize agents'.reverse = agents' at hreverse
  induction hreverse with
  | nil => exact .none
  | @cons a b _ _ ha _ ih =>
    rw [List.find?_cons, List.find?_cons, ha.name_eq]
    split
    · exact .some ha
    · exact ih

/-! ### Sessions -/

/-- What is done is the same, but for agents that are added. -/
inductive Operation.Normalizes (v : Json.Value) : Operation → Operation → Prop
  | same (op : Operation) : Operation.Normalizes v op op
  | addAgent {a b : Agent} (h : a.Normalizes v b) :
      Operation.Normalizes v (.addAgent a) (.addAgent b)

theorem Operation.Normalizes.apart (hv : ∀ b, v ≠ .bool b) {op op' : Operation}
    (h : op.Normalizes v op') : op.Apart .inKind op' := by
  cases h with
  | same op => exact .same op
  | addAgent h => exact .addAgent (h.apart hv)

namespace Session

/-- The sessions are the same, but for agents that normalize the value. -/
structure Normalizes (v : Json.Value) (x y : Session) : Prop where
  world : x.world = y.world
  settings : x.swarm.settings = y.swarm.settings
  roster : ∀ name,
    Option.Rel (Agent.Normalizes v) (x.swarm.roster.find? name) (y.swarm.roster.find? name)
  memory : x.swarm.memory = y.swarm.memory

/-- The operations give the same back in both sessions, and a run after them has the same
outcome, with the same calls. All that is noted is the same, and so are the worlds, but for
the events. Agents that are given back and answers may differ in the kinds of answers. -/
structure SameBesides (x y : Session) (ops ops' : List Operation) (order : Order) : Prop where
  outcomes : List.Forall₂ (Outcome.Apart .inKind) (x.outcomes ops) (y.outcomes ops')
  memory : (x.performAll ops).swarm.memory = (y.performAll ops').swarm.memory
  world : { (x.performAll ops).world with events := [] } =
    { (y.performAll ops').world with events := [] }
  outcome : ((x.performAll ops).runTraced order).1 = ((y.performAll ops').runTraced order).1
  calls : List.Forall₂ (Exchange.Apart .inKind) ((x.performAll ops).runTraced order).2.1
    ((y.performAll ops').runTraced order).2.1

variable {x y : Session}

theorem Apart.sameBesides (h : x.Apart .inKind y) {ops ops' : List Operation}
    (hops : List.Forall₂ (Operation.Apart .inKind) ops ops') (order : Order) :
    x.SameBesides y ops ops' order := by
  obtain ⟨houtcomes, hend⟩ := h.performAll hops
  obtain ⟨houtcome, hcalls, -⟩ := hend.runTraced order
  exact ⟨houtcomes, hend.memory, hend.world.eq_of_inKind, houtcome, hcalls⟩

theorem Normalizes.apart (hv : ∀ b, v ≠ .bool b) (h : x.Normalizes v y) :
    x.Apart .inKind y where
  world := h.world ▸ .refl _ _
  settings := h.settings
  roster name := by
    have hfound := h.roster name
    generalize x.swarm.roster.find? name = found at hfound ⊢
    generalize y.swarm.roster.find? name = found' at hfound ⊢
    cases hfound with
    | none => exact .none
    | some ha => exact .some (ha.apart hv)
  memory := h.memory

/-! ### A verdict that keeps its JSON form -/

namespace Sample

/-- The first agent gives an answer, and the second adds to what it is told. -/
def relaying (answer : Answer) : Session :=
  session "A -> B" 1 [.simple 1 "A" "" fun _ _ => .ok answer, agent 2 "B" 1]

theorem relaying_normalizes (v : Json.Value) :
    (relaying (.json v)).Normalizes v (relaying (.ofJson v)) where
  world := rfl
  settings := rfl
  roster := Roster.find?_normalizes <|
    .cons (.simple fun _ _ => .json) (.cons (.simple fun _ _ => .same _) .nil)
  memory := rfl

theorem relaying_differs (b : Bool) :
    ((relaying (.json (.bool b))).runTraced { task := "t" }).1 ≠
      ((relaying (.ofJson (.bool b))).runTraced { task := "t" }).1 := by
  cases b <;> decide +kernel

end Sample

/-- A JSON value that is normalized has the text that it means. Given as it is, it has this
text exactly if it is no Boolean. And exactly then does it make no difference whether agents
give it as it is or normalize it: in sessions that are otherwise the same, the same comes of
the same operations, in every run. -/
theorem normalizing_exact (v : Json.Value) :
    (Answer.ofJson v).text? = Answer.meaning v ∧
      ((Answer.json v).text? = Answer.meaning v ↔ ∀ b, v ≠ .bool b) ∧
      ((∀ x y : Session, x.Normalizes v y → ∀ ops ops' : List Operation,
          List.Forall₂ (Operation.Normalizes v) ops ops' → ∀ order,
            x.SameBesides y ops ops' order) ↔
        ∀ b, v ≠ .bool b) := by
  refine ⟨Answer.text?_ofJson v, Answer.text?_json_iff v, fun hall => ?_, fun hv => ?_⟩
  · rintro b rfl
    have hsame := hall _ _ (Sample.relaying_normalizes (.bool b)) [] [] .nil { task := "t" }
    exact Sample.relaying_differs b hsame.outcome
  · intro x y h ops ops' hops order
    exact (h.apart hv).sameBesides (hops.imp fun _ _ hop => hop.apart hv) order

/-- A verdict in JSON is told to the next agent in its JSON form, where one that was normalized
is told as a word, so the outcomes are not the same either. -/
theorem verdict_keeps_its_form :
    let v : Json.Value := .bool true
    let x := Sample.relaying (.json v)
    let y := Sample.relaying (.ofJson v)
    x.Normalizes v y ∧
      (Answer.json v).text? = some "true" ∧ (Answer.ofJson v).text? = some "True" ∧
      ((x.runTraced { task := "t" }).2.1.map Exchange.task = ["t", "true"] ∧
        (y.runTraced { task := "t" }).2.1.map Exchange.task = ["t", "True"]) ∧
      (x.run "t").1 = "trueB" ∧ (y.run "t").1 = "TrueB" := by
  intro v x y
  exact ⟨Sample.relaying_normalizes v, by decide, by decide, by decide +kernel, by decide +kernel,
    by decide +kernel⟩

end Session

end Relay
