import Relay.Proofs.Flow.Grammar
import Relay.Flow.Validity

/-!
# Flows read back from their texts

A flow that was read from a text is well formed, and a well formed flow is read back
from its own text. So the text of a flow that was read says the same as the text that
it was read from, and two such flows with one text are the same.

The text of a flow has a comma and a blank between members, and an arrow with blanks
between stages. No comma and no arrow comes about where a name ends and a separator
begins: a name may end in a hyphen or begin with the head of an arrow, but then a
blank stands next to it.

## Main definitions

* `Member.CanStand` — the member is read back from its name.

## Main statements

* `Flow.wellFormed_of_parse` — what is read is well formed; so no agent that is read
  is called like the human.
* `Flow.WellFormed.parse_text` — what is well formed is read back.
* `Flow.parse_text_inverse` — reading and writing are inverse.
-/

namespace Relay

open Text

/-! ### Blanks around separators -/

namespace Text

variable {blanks text : List Char}

theorem ne_of_isBlank {c d : Char} (hc : isBlank c) (hd : isBlank d = false) : c ≠ d := by
  rintro rfl
  exact absurd hc (by simp [hd])

theorem forall_mem_space : ∀ c ∈ [' '], isBlank c :=
  List.forall_mem_singleton.mpr (by decide)

/-- Blanks in front of a text do not make an arrow. -/
theorem arrow_infix_blanks_append_iff (h : ∀ c ∈ blanks, isBlank c) :
    arrow <:+: blanks ++ text ↔ arrow <:+: text := by
  induction blanks with
  | nil => rfl
  | cons c rest ih =>
    obtain ⟨hc, hrest⟩ := List.forall_mem_cons.mp h
    have hcross := arrow_infix_append_cons_iff (l := []) (r := rest ++ text)
      (ne_of_isBlank hc (d := '-') (by decide)) (ne_of_isBlank hc (d := '>') (by decide))
    rw [List.cons_append, ← ih hrest]
    simpa using hcross

/-- Blanks behind a text do not make an arrow. -/
theorem arrow_infix_append_blanks_iff (h : ∀ c ∈ blanks, isBlank c) :
    arrow <:+: text ++ blanks ↔ arrow <:+: text := by
  cases blanks with
  | nil => rw [List.append_nil]
  | cons c rest =>
    obtain ⟨hc, hrest⟩ := List.forall_mem_cons.mp h
    have hnone : arrow <:+: rest ++ [] ↔ arrow <:+: [] := arrow_infix_blanks_append_iff hrest
    rw [List.append_nil] at hnone
    rw [arrow_infix_append_cons_iff (ne_of_isBlank hc (by decide)) (ne_of_isBlank hc (by decide)),
      hnone]
    simp

end Text

/-! ### Members -/

namespace Member

/-- The member is read back from its name, wherever the name stands between separators. -/
structure CanStand (m : Member) : Prop where
  padded : (⟨[], m.name.toList, []⟩ : Word).IsPadded
  no_comma : ',' ∉ m.name.toList
  no_arrow : ¬ arrow <:+: m.name.toList
  ofName_name : ofName m.name = m

theorem CanStand.isPadded {m : Member} (h : m.CanStand) {before after : List Char}
    (hbefore : ∀ c ∈ before, isBlank c) (hafter : ∀ c ∈ after, isBlank c) :
    (⟨before, m.name.toList, after⟩ : Word).IsPadded :=
  ⟨hbefore, hafter, h.padded.name_ne_nil, h.padded.first, h.padded.last⟩

theorem canStand_human : human.CanStand where
  padded := by
    have hname : human.name.toList = ['H'] := by decide
    rw [hname]
    refine ⟨by simp, by simp, by simp, ?_, ?_⟩
    · rintro c ⟨⟩
      decide
    · rintro c ⟨⟩
      decide
  no_comma := by decide
  no_arrow := by decide
  ofName_name := by decide

theorem canStand_agent_iff {name : String} : (agent name).CanStand ↔ Flow.IsName name := by
  have hempty : name.toList ≠ [] ↔ name ≠ "" := by simp
  constructor
  · intro h
    refine ⟨hempty.mp h.padded.name_ne_nil, h.padded.first, h.padded.last, h.no_comma,
      h.no_arrow, ?_⟩
    rintro rfl
    exact absurd h.ofName_name (by decide)
  · intro h
    refine ⟨⟨by simp, by simp, hempty.mpr h.ne_empty, h.first, h.last⟩, h.no_comma,
      h.no_arrow, ?_⟩
    exact if_neg h.ne_human

/-- Between commas and blanks, the names are found again. -/
theorem map_trim_piecesAt {ms : List Member} (hne : ms ≠ []) (h : ∀ m ∈ ms, m.CanStand)
    {before after : List Char} (hbefore : ∀ c ∈ before, isBlank c)
    (hafter : ∀ c ∈ after, isBlank c) :
    (piecesAt ',' (before ++ [',', ' '].intercalate (ms.map (·.name.toList)) ++ after)).map trim =
      ms.map (·.name.toList) := by
  have hblanks {blanks : List Char} (h : ∀ c ∈ blanks, isBlank c) : ',' ∉ blanks :=
    fun hmem => absurd (h ',' hmem) (by decide)
  -- The blank behind a comma comes before the next name, so `before` is not fixed.
  induction ms generalizing before with
  | nil => exact absurd rfl hne
  | cons m rest ih =>
    obtain ⟨hm, hrest⟩ := List.forall_mem_cons.mp h
    cases rest with
    | nil =>
      have hpiece : ',' ∉ before ++ m.name.toList ++ after := by
        simp [hblanks hbefore, hblanks hafter, hm.no_comma]
      rw [List.map_singleton, List.intercalate_singleton, piecesAt_of_notMem hpiece,
        List.map_singleton]
      exact congrArg (fun name => [name]) (hm.isPadded hbefore hafter).trim_text
    | cons next rest =>
      have hpiece : ',' ∉ before ++ m.name.toList := by simp [hblanks hbefore, hm.no_comma]
      have htext : before ++ [',', ' '].intercalate ((m :: next :: rest).map (·.name.toList)) ++
          after = (before ++ m.name.toList) ++ ',' ::
            ([' '] ++ [',', ' '].intercalate ((next :: rest).map (·.name.toList)) ++ after) := by
        simp [List.intercalate_cons_cons]
      have hpadded : (⟨before, m.name.toList, []⟩ : Word).IsPadded :=
        hm.isPadded hbefore (by simp)
      have hword := hpadded.trim_text
      rw [Word.text, List.append_nil] at hword
      rw [htext, piecesAt_append, piecesAt_of_notMem hpiece, List.map_append, List.map_singleton,
        hword, ih (by simp) hrest forall_mem_space]
      rfl

end Member

/-! ### Stages -/

namespace Stage

variable {s : Stage} {before after : List Char}

theorem toList_text (s : Stage) :
    s.text.toList = [',', ' '].intercalate (s.members.map (·.name.toList)) := by
  rw [text, String.toList_intercalate, List.map_map]
  rfl

/-- A stage is read back from its text, with blanks around it. -/
theorem writes_text (h : ∀ m ∈ s.members, m.CanStand) (hbefore : ∀ c ∈ before, isBlank c)
    (hafter : ∀ c ∈ after, isBlank c) :
    Flow.Writes (before ++ s.text.toList ++ after) s := by
  have hnames := Member.map_trim_piecesAt s.members_ne_nil h hbefore hafter
  rw [← toList_text] at hnames
  refine parse?_eq_some_iff_pieces.mpr ⟨fun piece hpiece => ?_, ?_⟩
  · obtain ⟨m, hm, hname⟩ := List.mem_map.mp (hnames ▸ List.mem_map_of_mem (f := trim) hpiece)
    rw [← hname]
    exact (h m hm).padded.name_ne_nil
  · have hread := congrArg (List.map fun name => Member.ofName (String.ofList name)) hnames
    rw [List.map_map, List.map_map] at hread
    refine hread.trans ?_
    refine (List.map_congr_left fun m hm => ?_).trans (List.map_id _)
    exact (congrArg Member.ofName String.ofList_toList).trans (h m hm).ofName_name

/-- There is no arrow in the text of a stage, with blanks around it. -/
theorem not_arrow_infix_text (h : ∀ m ∈ s.members, m.CanStand) (hbefore : ∀ c ∈ before, isBlank c)
    (hafter : ∀ c ∈ after, isBlank c) : ¬ arrow <:+: before ++ s.text.toList ++ after := by
  have hjoined {names : List (List Char)} (hnames : ∀ name ∈ names, ¬ arrow <:+: name) :
      ¬ arrow <:+: [',', ' '].intercalate names := by
    induction names with
    | nil => simp
    | cons name rest ih =>
      obtain ⟨hname, hrest⟩ := List.forall_mem_cons.mp hnames
      cases rest with
      | nil => rwa [List.intercalate_singleton]
      | cons next rest =>
        rw [List.intercalate_cons_cons, List.append_assoc, List.cons_append,
          arrow_infix_append_cons_iff (by decide) (by decide),
          arrow_infix_blanks_append_iff forall_mem_space]
        exact not_or.mpr ⟨hname, ih hrest⟩
  rw [arrow_infix_append_blanks_iff hafter, arrow_infix_blanks_append_iff hbefore, toList_text]
  refine hjoined fun name hname => ?_
  obtain ⟨m, hm, rfl⟩ := List.mem_map.mp hname
  exact (h m hm).no_arrow

end Stage

/-! ### Flows -/

namespace Flow

theorem toList_text (f : Flow) :
    f.text.toList = [' ', '-', '>', ' '].intercalate (f.stages.map (·.text.toList)) := by
  rw [text, String.toList_intercalate, List.map_map]
  rfl

/-- Between arrows and blanks, the stages are found again. -/
theorem forall₂_writes_text {stages : List Stage} (hne : stages ≠ [])
    (h : ∀ s ∈ stages, ∀ m ∈ s.members, m.CanStand) {before : List Char}
    (hbefore : ∀ c ∈ before, isBlank c) :
    List.Forall₂ Writes
      (piecesAtArrow
        (before ++ [' ', '-', '>', ' '].intercalate (stages.map (·.text.toList)))) stages := by
  -- The blank behind an arrow comes before the next stage.
  induction stages generalizing before with
  | nil => exact absurd rfl hne
  | cons s rest ih =>
    obtain ⟨hs, hrest⟩ := List.forall_mem_cons.mp h
    cases rest with
    | nil =>
      have hapart : ¬ arrow <:+: before ++ s.text.toList ++ [] :=
        Stage.not_arrow_infix_text hs hbefore (by simp)
      have hwrites : Writes (before ++ s.text.toList ++ []) s :=
        Stage.writes_text hs hbefore (by simp)
      rw [List.append_nil] at hapart hwrites
      rw [List.map_singleton, List.intercalate_singleton, piecesAtArrow_of_apart hapart]
      exact .cons hwrites .nil
    | cons next rest =>
      have htext : before ++
          [' ', '-', '>', ' '].intercalate ((s :: next :: rest).map (·.text.toList)) =
            (before ++ s.text.toList ++ [' ']) ++ '-' :: '>' ::
              ([' '] ++ [' ', '-', '>', ' '].intercalate ((next :: rest).map (·.text.toList))) := by
        simp [List.intercalate_cons_cons]
      rw [htext, piecesAtArrow_append,
        piecesAtArrow_of_apart (Stage.not_arrow_infix_text hs hbefore forall_mem_space)]
      exact .cons (Stage.writes_text hs hbefore forall_mem_space)
        (ih (by simp) hrest forall_mem_space)

theorem wellFormed_iff {f : Flow} :
    f.WellFormed ↔ 2 ≤ f.stages.length ∧ ∀ m ∈ f.members, m.CanStand := by
  constructor
  · intro h
    refine ⟨h.two_stages, fun m hm => ?_⟩
    cases m with
    | agent name => exact Member.canStand_agent_iff.mpr (h.names _ hm name rfl)
    | human => exact Member.canStand_human
  · rintro ⟨htwo, hmembers⟩
    refine ⟨htwo, fun m hm name hname => ?_⟩
    cases m with
    | agent n =>
      obtain rfl : n = name := Option.some.inj hname
      exact Member.canStand_agent_iff.mp (hmembers _ hm)
    | human => cases hname

/-- A well formed flow is read back from its text. -/
theorem WellFormed.parse_text {f : Flow} (h : f.WellFormed) : parse f.text = .ok f := by
  obtain ⟨htwo, hmembers⟩ := wellFormed_iff.mp h
  have hne : f.stages ≠ [] := by
    intro hnil
    rw [hnil] at htwo
    exact absurd htwo (by decide)
  have hall := forall₂_writes_text hne
    (fun s hs m hm => hmembers m (List.mem_flatMap.mpr ⟨s, hs, hm⟩)) (List.forall_mem_nil _)
  rw [List.nil_append, ← toList_text] at hall
  exact parse_eq_ok_iff.mpr ⟨hall.length_eq ▸ htwo, hall⟩

/-- What a word of a stage names can stand in a flow. -/
theorem canStand_of_spells {words : List Word} {text : List Char} (h : Stage.Spells words text)
    (harrow : ¬ arrow <:+: text) {w : Word} (hw : w ∈ words) : w.member.CanStand := by
  have hpadded := h.padded w hw
  have hword : w.name <:+: w.text := ⟨w.before, w.after, rfl⟩
  have htext : w.text <:+: text := h.cut.joined ▸ infix_intercalate_of_mem (List.mem_map_of_mem hw)
  have hcomma : ',' ∉ w.text := fun hmem =>
    h.cut.apart w.text (List.mem_map_of_mem hw) ((List.singleton_infix_iff _ _).mpr hmem)
  have hname : w.member.name.toList = w.name := by
    rw [Word.member, Member.name_ofName, String.toList_ofList]
  refine ⟨?_, ?_, ?_, congrArg Member.ofName (Member.name_ofName _)⟩
  · rw [hname]
    exact ⟨by simp, by simp, hpadded.name_ne_nil, hpadded.first, hpadded.last⟩
  · rw [hname]
    exact fun hmem => hcomma (hword.subset hmem)
  · rw [hname]
    exact fun hmem => harrow (hmem.trans (hword.trans htext))

/-- What is read from a text is well formed. -/
theorem wellFormed_of_parse {text : String} {f : Flow} (h : parse text = .ok f) :
    f.WellFormed := by
  obtain ⟨words, ⟨htwo, pieces, hcut, hall⟩, hmembers⟩ := parse_eq_ok_iff_spells.mp h
  refine wellFormed_iff.mpr ⟨?_, fun m hm => ?_⟩
  · have hlength := congrArg List.length hmembers
    rw [List.length_map, List.length_map] at hlength
    exact hlength ▸ htwo
  · have hmem : m ∈ (f.stages.map Stage.members).flatten := hm
    rw [← hmembers, List.mem_flatten] at hmem
    obtain ⟨_, hstage, hmem⟩ := hmem
    obtain ⟨ws, hws, rfl⟩ := List.mem_map.mp hstage
    obtain ⟨w, hw, rfl⟩ := List.mem_map.mp hmem
    obtain ⟨i, rfl⟩ := List.mem_iff_get.mp hws
    have hi : i < pieces.length := hall.length_eq ▸ i.isLt
    exact canStand_of_spells (hall.get i.isLt hi) (hcut.apart _ (List.get_mem pieces ⟨i, hi⟩)) hw

/-- The agents of a flow that was read have names that can stand in a flow. -/
theorem isName_of_parse {text : String} {f : Flow} (h : parse text = .ok f) {name : String}
    (hname : name ∈ f.agentNames) : IsName name := by
  obtain ⟨m, hm, hagent⟩ := List.mem_filterMap.mp hname
  exact (wellFormed_of_parse h).names m hm name hagent

/-- No agent of a flow that was read has the name of the human. -/
theorem ne_human_of_parse {text : String} {f : Flow} (h : parse text = .ok f) {name : String}
    (hname : name ∈ f.agentNames) : name ≠ humanName :=
  (isName_of_parse h hname).ne_human

/-- Reading and writing are inverse. What is read is well formed, and what is well
formed is read back from its own text. So flows that were read and have one text are
the same, and the text of a flow that was read says what the text before it said,
whichever agents there are. -/
theorem parse_text_inverse :
    (∀ text f, parse text = .ok f → f.WellFormed) ∧
    (∀ f : Flow, f.WellFormed → parse f.text = .ok f) ∧
    (∀ text text' f f', parse text = .ok f → parse text' = .ok f' → f.text = f'.text → f = f') ∧
    (∀ text f, parse text = .ok f → parse f.text = parse text ∧
      ∀ registered, check registered f.text = check registered text) := by
  have hback {text : String} {f : Flow} (h : parse text = .ok f) : parse f.text = .ok f :=
    (wellFormed_of_parse h).parse_text
  refine ⟨fun _ _ => wellFormed_of_parse, fun _ => WellFormed.parse_text,
    fun _ _ f f' h h' htext => ?_, fun text f h => ?_⟩
  · have hsame : (.ok f : Except FlowError Flow) = .ok f' := by
      rw [← hback h, ← hback h', htext]
    exact Except.ok.inj hsame
  · have hparse : parse f.text = parse text := (hback h).trans h.symm
    exact ⟨hparse, fun registered => by rw [check, check, hparse]⟩

end Flow

end Relay
