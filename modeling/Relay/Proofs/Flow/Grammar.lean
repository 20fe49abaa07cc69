import Relay.Proofs.Flow.Joined
import Relay.Proofs.Text.Words

/-!
# The grammar of flows

A text writes down a flow when it consists of two stages or more with arrows between
them, a stage of words with commas between them, and a word of a name with blanks
around it. What the words are is settled by the text alone: a text cannot be taken
apart in two ways.

A text without an arrow is refused for that, whatever its names are. Any other text
that writes down no flow has a stage with a blank member, and the first such stage is
reported.

## Main definitions

* `Stage.Spells`, `Flow.Spells` — some words are those of a stage, or of a flow.
* `Stage.HasBlank` — a member of the stage is blank.

## Main statements

* `Stage.parse?_eq_some_iff`, `Stage.parse?_eq_none_iff` — reading a stage.
* `Flow.Spells.unique` — a text is spelled by the words of one flow at most.
* `Flow.parse_eq_ok_iff_spells`, `Flow.parse_eq_error_iff` — reading a flow.
* `Flow.parse_grammar` — the whole grammar.
-/

namespace Relay

open Text

/-- The member that a word names. -/
def Text.Word.member (w : Word) : Member := .ofName (String.ofList w.name)

/-! ### Words of a text -/

namespace Text

/-- Texts of which none is blank are those of some words. -/
theorem exists_words {pieces : List (List Char)} (h : ∀ piece ∈ pieces, trim piece ≠ []) :
    ∃ words : List Word, (∀ w ∈ words, w.IsPadded) ∧ words.map Word.text = pieces := by
  induction pieces with
  | nil => exact ⟨[], by simp, rfl⟩
  | cons piece rest ih =>
    obtain ⟨w, hw, rfl⟩ := exists_word (h piece List.mem_cons_self)
    obtain ⟨words, hwords, rfl⟩ := ih fun p hp => h p (List.mem_cons_of_mem _ hp)
    exact ⟨w :: words, List.forall_mem_cons.mpr ⟨hw, hwords⟩, rfl⟩

theorem eq_of_map_text_eq {ws vs : List Word} (hws : ∀ w ∈ ws, w.IsPadded)
    (hvs : ∀ v ∈ vs, v.IsPadded) (h : ws.map Word.text = vs.map Word.text) : ws = vs := by
  induction ws generalizing vs with
  | nil => exact (List.map_eq_nil_iff.mp h.symm).symm
  | cons w ws ih =>
    obtain ⟨v, vs, rfl, hv, hrest⟩ := List.map_eq_cons_iff.mp h.symm
    obtain ⟨hw, hws⟩ := List.forall_mem_cons.mp hws
    obtain ⟨hv', hvs⟩ := List.forall_mem_cons.mp hvs
    rw [hw.ext_text hv' hv.symm, ih hws hvs hrest.symm]

end Text

/-! ### Stages -/

namespace Stage

/-- The words are those of a stage with this text. -/
structure Spells (words : List Word) (text : List Char) : Prop where
  cut : IsCut [','] (words.map Word.text) text
  padded : ∀ w ∈ words, w.IsPadded

/-- A member of the stage with this text is blank. -/
def HasBlank (text : List Char) : Prop :=
  ∃ pieces, IsCut [','] pieces text ∧ ∃ piece ∈ pieces, ∀ c ∈ piece, isBlank c

theorem Spells.unique {words words' : List Word} {text : List Char} (h : Spells words text)
    (h' : Spells words' text) : words = words' := by
  refine eq_of_map_text_eq h.padded h'.padded ?_
  rw [isCut_char_iff.mp h.cut, isCut_char_iff.mp h'.cut]

/-- A stage with the words as its members. -/
theorem Spells.exists_stage {words : List Word} {text : List Char} (h : Spells words text) :
    ∃ s : Stage, s.members = words.map Word.member := by
  cases words with
  | nil => exact absurd rfl h.cut.ne_nil
  | cons w rest => exact ⟨⟨w.member, rest.map Word.member⟩, rfl⟩

theorem members_injective : Function.Injective members := by
  rintro ⟨lead, others⟩ ⟨lead', others'⟩ h
  obtain ⟨rfl, rfl⟩ := List.cons.inj h
  rfl

/-- A stage is read by its pieces between commas: none may be blank, and the members
are those that the pieces name. -/
theorem parse?_eq_some_iff_pieces {text : List Char} {s : Stage} :
    parse? text = some s ↔ (∀ piece ∈ piecesAt ',' text, trim piece ≠ []) ∧
      (piecesAt ',' text).map (fun piece => .ofName (String.ofList (trim piece))) = s.members := by
  rw [parse?]
  split
  · next hnone => exact absurd (List.map_eq_nil_iff.mp hnone) piecesAt_ne_nil
  · next first rest hnames =>
    have hblank : (first :: rest).any List.isEmpty = false ↔
        ∀ piece ∈ piecesAt ',' text, trim piece ≠ [] := by
      rw [← hnames, List.any_map, List.any_eq_false]
      simp
    have hmembers : (piecesAt ',' text).map (fun piece => .ofName (String.ofList (trim piece))) =
        members ⟨.ofName (String.ofList first),
          rest.map fun name => .ofName (String.ofList name)⟩ := by
      rw [members, ← List.map_cons (f := fun name => Member.ofName (String.ofList name)), ← hnames,
        List.map_map]
      rfl
    rw [← hblank, hmembers, members_injective.eq_iff]
    cases (first :: rest).any List.isEmpty <;> simp

/-- A text writes down a stage when it is spelled by some words. -/
theorem parse?_eq_some_iff {text : List Char} {s : Stage} :
    parse? text = some s ↔ ∃ words, Spells words text ∧ words.map Word.member = s.members := by
  have hmembers {words : List Word} (h : ∀ w ∈ words, w.IsPadded) :
      (words.map Word.text).map (fun piece => Member.ofName (String.ofList (trim piece))) =
        words.map Word.member := by
    rw [List.map_map]
    refine List.map_congr_left fun w hw => ?_
    exact congrArg (fun name => Member.ofName (String.ofList name)) (h w hw).trim_text
  rw [parse?_eq_some_iff_pieces]
  constructor
  · rintro ⟨hblank, hs⟩
    obtain ⟨words, hpadded, htext⟩ := exists_words hblank
    refine ⟨words, ⟨isCut_char_iff.mpr htext, hpadded⟩, ?_⟩
    rw [← hs, ← htext, hmembers hpadded]
  · rintro ⟨words, hwords, hs⟩
    rw [← isCut_char_iff.mp hwords.cut, hmembers hwords.padded]
    refine ⟨fun piece hpiece => ?_, hs⟩
    obtain ⟨w, hw, rfl⟩ := List.mem_map.mp hpiece
    rw [(hwords.padded w hw).trim_text]
    exact (hwords.padded w hw).name_ne_nil

/-- A text writes down no stage when one of its members is blank. -/
theorem parse?_eq_none_iff {text : List Char} : parse? text = none ↔ HasBlank text := by
  constructor
  · intro h
    refine ⟨piecesAt ',' text, isCut_char_iff.mpr rfl, ?_⟩
    by_contra hnone
    have hblank : ∀ piece ∈ piecesAt ',' text, trim piece ≠ [] :=
      fun piece hpiece hall => hnone ⟨piece, hpiece, trim_eq_nil_iff.mp hall⟩
    obtain ⟨words, hpadded, htext⟩ := exists_words hblank
    have hwords : Spells words text := ⟨isCut_char_iff.mpr htext, hpadded⟩
    obtain ⟨s, hs⟩ := hwords.exists_stage
    have hsome := parse?_eq_some_iff.mpr ⟨words, hwords, hs.symm⟩
    exact absurd (h.symm.trans hsome) (by simp)
  · rintro ⟨pieces, hcut, piece, hpiece, hall⟩
    refine Option.eq_none_iff_forall_not_mem.mpr fun s hs => ?_
    obtain ⟨hblank, -⟩ := parse?_eq_some_iff_pieces.mp hs
    exact hblank piece (isCut_char_iff.mp hcut ▸ hpiece) (trim_eq_nil_iff.mpr hall)

end Stage

/-! ### Flows -/

namespace Flow

/-- The words, stage by stage, are those of a flow with this text. -/
structure Spells (words : List (List Word)) (text : List Char) : Prop where
  two_stages : 2 ≤ words.length
  stages : ∃ pieces, IsCut arrow pieces text ∧ List.Forall₂ Stage.Spells words pieces

theorem spells_iff {words : List (List Word)} {text : List Char} : Spells words text ↔
    2 ≤ (piecesAtArrow text).length ∧ List.Forall₂ Stage.Spells words (piecesAtArrow text) := by
  constructor
  · rintro ⟨htwo, pieces, hcut, hall⟩
    obtain rfl := isCut_arrow_iff.mp hcut
    exact ⟨hall.length_eq ▸ htwo, hall⟩
  · rintro ⟨htwo, hall⟩
    exact ⟨hall.length_eq ▸ htwo, _, isCut_arrow_iff.mpr rfl, hall⟩

/-- A text is spelled by the words of one flow at most. -/
theorem Spells.unique {words words' : List (List Word)} {text : List Char} (h : Spells words text)
    (h' : Spells words' text) : words = words' := by
  obtain ⟨-, hall⟩ := spells_iff.mp h
  obtain ⟨-, hall'⟩ := spells_iff.mp h'
  clear h h'
  generalize piecesAtArrow text = pieces at hall hall'
  induction hall generalizing words' with
  | nil => exact (List.forall₂_nil_right_iff.mp hall').symm
  | cons hwords _ ih =>
    obtain ⟨ws, rest, hws, hrest, rfl⟩ := List.forall₂_cons_right_iff.mp hall'
    rw [hwords.unique hws, ih hrest]

/-- Pieces write down stages when they are spelled by words that name the members. -/
theorem forall₂_writes_iff {pieces : List (List Char)} {stages : List Stage} :
    List.Forall₂ Writes pieces stages ↔ ∃ words : List (List Word),
      List.Forall₂ Stage.Spells words pieces ∧
        words.map (List.map Word.member) = stages.map Stage.members := by
  induction pieces generalizing stages with
  | nil =>
    rw [List.forall₂_nil_left_iff]
    constructor
    · rintro rfl
      exact ⟨[], .nil, rfl⟩
    · rintro ⟨words, hall, hmembers⟩
      obtain rfl := List.forall₂_nil_right_iff.mp hall
      exact List.map_eq_nil_iff.mp hmembers.symm
  | cons piece rest ih =>
    rw [List.forall₂_cons_left_iff]
    constructor
    · rintro ⟨s, stages, hs, hrest, rfl⟩
      obtain ⟨ws, hws, hmembers⟩ := Stage.parse?_eq_some_iff.mp hs
      obtain ⟨words, hall, hall'⟩ := ih.mp hrest
      exact ⟨ws :: words, .cons hws hall, by rw [List.map_cons, hmembers, hall', List.map_cons]⟩
    · rintro ⟨words, hall, hmembers⟩
      obtain ⟨ws, words, hws, hrest, rfl⟩ := List.forall₂_cons_right_iff.mp hall
      obtain ⟨s, stages, rfl, hs, hrest'⟩ := List.map_eq_cons_iff.mp hmembers.symm
      exact ⟨s, stages, Stage.parse?_eq_some_iff.mpr ⟨ws, hws, hs.symm⟩,
        ih.mpr ⟨words, hrest, hrest'.symm⟩, rfl⟩

/-- A text writes down a flow when it is spelled by words that name the members. -/
theorem parse_eq_ok_iff_spells {text : String} {f : Flow} :
    parse text = .ok f ↔ ∃ words, Spells words text.toList ∧
      words.map (List.map Word.member) = f.stages.map Stage.members := by
  rw [parse_eq_ok_iff, forall₂_writes_iff]
  constructor
  · rintro ⟨htwo, words, hall, hmembers⟩
    exact ⟨words, spells_iff.mpr ⟨htwo, hall⟩, hmembers⟩
  · rintro ⟨words, hwords, hmembers⟩
    obtain ⟨htwo, hall⟩ := spells_iff.mp hwords
    exact ⟨htwo, words, hall, hmembers⟩

/-- Words that spell a flow are the members of stages. -/
theorem Spells.exists_stages {words : List (List Word)} {text : List Char}
    (h : Spells words text) :
    ∃ stages : List Stage, stages.map Stage.members = words.map (List.map Word.member) := by
  obtain ⟨-, pieces, -, hall⟩ := h
  induction hall with
  | nil => exact ⟨[], rfl⟩
  | cons hwords _ ih =>
    obtain ⟨s, hs⟩ := hwords.exists_stage
    obtain ⟨stages, hstages⟩ := ih
    exact ⟨s :: stages, by rw [List.map_cons, hs, hstages, List.map_cons]⟩

theorem parseStages_cons_eq_error_iff {index : Nat} {text : List Char} {rest : List (List Char)}
    {s : Stage} {e : FlowError} (h : Stage.parse? text = some s) :
    parseStages index (text :: rest) = .error e ↔ parseStages (index + 1) rest = .error e := by
  rw [parseStages, h]
  cases parseStages (index + 1) rest <;> simp

/-- The first text that writes down no stage is reported, with its index. -/
theorem parseStages_eq_error_iff {index : Nat} {texts : List (List Char)} {e : FlowError} :
    parseStages index texts = .error e ↔ ∃ before bad after,
      texts = before ++ bad :: after ∧ Stage.HasBlank bad ∧
        (∀ text ∈ before, ¬ Stage.HasBlank text) ∧ e = .emptyMember (index + before.length) := by
  induction texts generalizing index with
  | nil => simp [parseStages]
  | cons text rest ih =>
    cases hstage : Stage.parse? text with
    | none =>
      have hblank : Stage.HasBlank text := Stage.parse?_eq_none_iff.mp hstage
      rw [parseStages, hstage]
      constructor
      · rintro ⟨⟩
        exact ⟨[], text, rest, rfl, hblank, by simp, rfl⟩
      · rintro ⟨before, bad, after, htexts, -, hbefore, rfl⟩
        cases before with
        | nil => rfl
        | cons first before =>
          obtain ⟨rfl, -⟩ := List.cons.inj htexts
          exact absurd hblank (hbefore text List.mem_cons_self)
    | some s =>
      have hfull : ¬ Stage.HasBlank text := fun h => by
        simp [Stage.parse?_eq_none_iff.mpr h] at hstage
      rw [parseStages_cons_eq_error_iff hstage, ih]
      constructor
      · rintro ⟨before, bad, after, rfl, hbad, hbefore, rfl⟩
        refine ⟨text :: before, bad, after, rfl, hbad,
          List.forall_mem_cons.mpr ⟨hfull, hbefore⟩, ?_⟩
        rw [List.length_cons, Nat.add_assoc, Nat.add_comm 1]
      · rintro ⟨before, bad, after, htexts, hbad, hbefore, rfl⟩
        cases before with
        | nil =>
          obtain ⟨rfl, -⟩ := List.cons.inj htexts
          exact absurd hbad hfull
        | cons first before =>
          obtain ⟨rfl, rfl⟩ := List.cons.inj htexts
          refine ⟨before, bad, after, rfl, hbad, (List.forall_mem_cons.mp hbefore).2, ?_⟩
          rw [List.length_cons, Nat.add_assoc, Nat.add_comm 1]

/-- A text without an arrow is refused for that. A text with arrows is refused for the
first stage with a blank member. -/
theorem parse_eq_error_iff {text : String} {e : FlowError} :
    parse text = .error e ↔
      (¬ arrow <:+: text.toList ∧ e = .missingSeparator) ∨
      (arrow <:+: text.toList ∧ ∃ before bad after,
        IsCut arrow (before ++ bad :: after) text.toList ∧ Stage.HasBlank bad ∧
          (∀ piece ∈ before, ¬ Stage.HasBlank piece) ∧ e = .emptyMember before.length) := by
  have hlength : (piecesAtArrow text.toList).length < 2 ↔ ¬ arrow <:+: text.toList :=
    length_piecesAtArrow_lt_two_iff
  simp only [isCut_arrow_iff]
  rw [parse]
  split
  · next first second rest hpieces =>
    have harrow : arrow <:+: text.toList := by
      by_contra hnone
      have hlt := hlength.mpr hnone
      rw [hpieces, List.length_cons, List.length_cons] at hlt
      omega
    have hstages : parseStages 0 (first :: second :: rest) = .error e ↔ _ :=
      parseStages_eq_error_iff
    simp only [Nat.zero_add] at hstages
    simp only [harrow, not_true_eq_false, false_and, false_or, true_and, hpieces, eq_comm,
      ← hstages]
    cases parseStages 0 (first :: second :: rest) <;> simp
  · next hfew =>
    have hnone : ¬ arrow <:+: text.toList := by
      refine hlength.mp ?_
      cases hpieces : piecesAtArrow text.toList with
      | nil => simp
      | cons first others =>
        cases others with
        | nil => simp
        | cons second rest => exact absurd hpieces (hfew first second rest)
    simp [hnone, eq_comm]

/-- A text writes down stages exactly when words with those members spell it, and no
other words do. It is refused for want of an arrow exactly when it has none, and
otherwise for the first of its stages that has a blank member. -/
theorem parse_grammar (text : String) :
    (∀ stages : List (List Member),
      (∃ f, parse text = .ok f ∧ f.stages.map Stage.members = stages) ↔
        ∃ words, Spells words text.toList ∧ words.map (List.map Word.member) = stages) ∧
    (∀ words words', Spells words text.toList → Spells words' text.toList → words = words') ∧
    (∀ e, parse text = .error e ↔
      (¬ arrow <:+: text.toList ∧ e = .missingSeparator) ∨
      (arrow <:+: text.toList ∧ ∃ before bad after,
        IsCut arrow (before ++ bad :: after) text.toList ∧ Stage.HasBlank bad ∧
          (∀ piece ∈ before, ¬ Stage.HasBlank piece) ∧ e = .emptyMember before.length)) := by
  refine ⟨fun stages => ⟨?_, ?_⟩, fun _ _ h h' => h.unique h', fun e => parse_eq_error_iff⟩
  · rintro ⟨f, hparse, rfl⟩
    exact parse_eq_ok_iff_spells.mp hparse
  · rintro ⟨words, hwords, rfl⟩
    obtain ⟨stages, hstages⟩ := hwords.exists_stages
    exact ⟨⟨stages⟩, parse_eq_ok_iff_spells.mpr ⟨words, hwords, hstages.symm⟩, hstages⟩

/-- A hyphen before an arrow and the head of an arrow behind it belong to the names. -/
example : parse "\u2003A-->>B,H " = .ok ⟨[⟨.agent "A-", []⟩, ⟨.agent ">B", [.human]⟩]⟩ := by
  decide

end Flow

end Relay
