import Relay.Digest
import Relay.Flow.Validity

/-!
# Flows read before

A swarm keeps the flows that it has read, so that it reads a text only once.
They are kept under the digests of their texts, and under one digest only the
latest. Two texts can have one digest; hence a kept flow is used only if its own
text is the one at hand. A text that writes down no flow is not kept.

## Main definitions

* `Flow.Reading` — a text and the flow that it writes down.
* `Flow.Readings` — the readings that are kept.
* `Flow.Readings.read` — the flow that a text writes down, and what is kept from then on.
* `Flow.Readings.check` — the same for valid flows.

## Main statements

* `Flow.Readings.read_fst`, `Flow.Readings.check_fst` — whatever is kept, and
  whatever digests are used, the outcome is that of reading afresh.
-/

namespace Relay.Flow

/-- A text and the flow that it writes down. -/
structure Reading where
  text : String
  flow : Flow
  /-- The text writes down the flow. -/
  parse_text : parse text = .ok flow

/-- The readings that are kept, each under a digest. -/
structure Readings where
  entries : List (UInt64 × Reading) := []

namespace Readings

/-- Nothing was read yet. -/
def empty : Readings := {}

instance : Inhabited Readings := ⟨empty⟩

/-- The reading kept under a digest. -/
def find? (r : Readings) (key : UInt64) : Option Reading :=
  (r.entries.find? (·.1 == key)).map Prod.snd

/-- The readings with one kept under a digest, in place of any other. -/
def keep (r : Readings) (key : UInt64) (reading : Reading) : Readings :=
  ⟨(key, reading) :: r.entries.filter (·.1 != key)⟩

/-- The flow of the reading kept under a digest, if it is of the text. -/
def flowOf? (r : Readings) (key : UInt64) (text : String) : Option Flow :=
  match r.find? key with
  | some reading => if reading.text = text then some reading.flow else none
  | none => none

/-- The flow that a text writes down, and the readings kept from then on. -/
def read (digest : String → UInt64) (r : Readings) (text : String) :
    Except FlowError Flow × Readings :=
  match r.flowOf? (digest text) text with
  | some flow => (.ok flow, r)
  | none =>
    match h : parse text with
    | .error e => (.error e, r)
    | .ok flow => (.ok flow, r.keep (digest text) ⟨text, flow, h⟩)

/-- The flow that a text writes down, if it is valid, and the readings kept from
then on. -/
def check (registered : String → Bool) (r : Readings) (text : String) :
    Except FlowError Flow × Readings :=
  match r.read Digest.ofText text with
  | (.error e, r) => (.error e, r)
  | (.ok flow, r) =>
    match flow.validate registered with
    | .error e => (.error e, r)
    | .ok () => (.ok flow, r)

theorem parse_eq_of_flowOf? {r : Readings} {key : UInt64} {text : String} {flow : Flow}
    (h : r.flowOf? key text = some flow) : parse text = .ok flow := by
  rw [flowOf?] at h
  split at h
  · next reading _ =>
    split at h
    · next htext =>
      cases h
      rw [← htext, reading.parse_text]
    · cases h
  · cases h

/-- Whatever is kept, under whatever digests, a text writes down the same flow. -/
theorem read_fst (digest : String → UInt64) (r : Readings) (text : String) :
    (r.read digest text).1 = parse text := by
  rw [read]
  split
  · next h => exact (parse_eq_of_flowOf? h).symm
  · split
    · next h => exact h.symm
    · next h => exact h.symm

/-- Whatever is kept, the same texts write down valid flows. -/
theorem check_fst (registered : String → Bool) (r : Readings) (text : String) :
    (r.check registered text).1 = Flow.check registered text := by
  rw [check, Flow.check, ← read_fst Digest.ofText r text]
  split
  · next h => simp [h]
  · next flow _ h =>
    cases hv : flow.validate registered <;> simp [h, hv]

end Readings

end Relay.Flow
