import Mathlib.Data.List.Forall2
import Relay.Json.Read
import Relay.Proofs.Json.Skipping

/-!
# Objects, lists and what is read from them

Between the brackets of an object or a list stand parts with commas between them, and blanks
around each. A record that is read from an object is changed by one member after the other:
a member whose name belongs to a field changes that field, and any other member changes
nothing. So the record that is read depends only on the members, not on the blanks between
them or on how their names are spelled.

## Main definitions

* `Json.Reads` — a text is read as a value, wherever it stands.
* `Json.Bracketed` — parts between brackets.
* `Json.IsMember` — a member of an object.

## Main statements

* `Json.reads_record` — a record is read from the members of an object.
* `Json.reads_tagged` — a value is read from an object with one member.
* `Json.reads_list` — a list is read from its items.
* `Json.Bracketed.intercalate` — parts that are written without blanks are such parts.
-/

namespace Relay.Json

variable {α β : Type} {cs rest blanks text : List Char}

/-! ### Values of one kind -/

/-- The text is read as the value, with any blanks before it, and with anything behind it that
may follow a value. -/
def Reads (read : Reader α) (text : List Char) (a : α) : Prop :=
  ∀ blanks rest, Spaces blanks → Ends rest → read (blanks ++ (text ++ rest)) = .ok (a, rest)

theorem Reads.map {read : Reader α} {a : α} (h : Reads read text a) (f : α → β) :
    Reads (fun cs => (read cs).map fun (a, rest) => (f a, rest)) text (f a) := by
  intro blanks rest hblanks hrest
  simp only [h blanks rest hblanks hrest, Except.map]

/-- A text that holds nothing else is read as the value. -/
theorem readWhole_of_reads {read : Reader α} {a : α} (h : Reads read text a)
    {before after : List Char} (hbefore : Spaces before) (hafter : Spaces after) :
    readWhole read (String.ofList (before ++ (text ++ after))) = .ok a := by
  have hends : Ends after := List.append_nil after ▸ Ends.append hafter ends_nil
  simp only [readWhole, String.toList_ofList, h before after hbefore hends,
    skipSpaces_of_spaces hafter, List.isEmpty_nil, if_true]

/-- The text of a value is read as what its compact form is read as. -/
theorem readWhole_text {read : Reader α} {v : Value} {a : α}
    (h : Reads read v.compact a) : readWhole read v.text = .ok a := by
  have hread := readWhole_of_reads h spaces_nil spaces_nil
  rwa [List.nil_append, List.append_nil] at hread

/-- A literal of the string, with any of its characters escaped. -/
inductive IsLiteral (s : String) : List Char → Prop
  | mk {cs : List Char} (h : Spells cs s.toList) : IsLiteral s ('"' :: (cs ++ ['"']))

theorem isLiteral_quote (s : String) : IsLiteral s (quote s) := by
  have hliteral : IsLiteral s ('"' :: (s.toList.flatMap escape ++ ['"'])) :=
    .mk (spells_escape s.toList)
  exact hliteral

theorem isSpace_quote : isSpace '"' = false := by decide

theorem reads_text {s : String} (h : IsLiteral s text) : Reads readText text s := by
  obtain ⟨h⟩ := h
  intro blanks rest hblanks _
  simp only [readText, List.cons_append, List.append_assoc, List.nil_append,
    skipSpaces_append_cons hblanks isSpace_quote, readString_of_spells h]

theorem reads_textOrNull_null : Reads readTextOrNull ['n', 'u', 'l', 'l'] none := by
  intro blanks rest hblanks _
  simp [readTextOrNull, skipSpaces_append_cons hblanks (show isSpace 'n' = false by decide),
    expectWord, Except.map]

theorem reads_textOrNull {s : String} (h : IsLiteral s text) :
    Reads readTextOrNull text (some s) := by
  intro blanks rest hblanks hrest
  have hread := reads_text h [] rest spaces_nil hrest
  obtain ⟨h⟩ := h
  rw [List.nil_append, List.cons_append] at hread
  simp [readTextOrNull, List.cons_append, -List.append_assoc,
    skipSpaces_append_cons hblanks isSpace_quote, hread, Except.map]

theorem reads_flag (b : Bool) : Reads readFlag (Value.bool b).compact b := by
  intro blanks rest hblanks _
  cases b with
  | false =>
    simp [readFlag, Value.compact,
      skipSpaces_append_cons hblanks (show isSpace 'f' = false by decide), expectWord, Except.map]
  | true =>
    simp [readFlag, Value.compact,
      skipSpaces_append_cons hblanks (show isSpace 't' = false by decide), expectWord, Except.map]

theorem reads_int32 (n : Int32) : Reads readInt32 (integerText n.toInt) n := by
  intro blanks rest hblanks hrest
  have hlow := Int32.minValue_le_toInt n
  have hhigh := Int32.toInt_le n
  have hmin : Int32.minValue.toInt = -0x80000000 := rfl
  have hmax : Int32.maxValue.toInt = 0x7fffffff := rfl
  have hread : readNumber (integerText n.toInt ++ rest) = .ok (.int n.toInt, rest) :=
    readNumber_integerText (by omega) (by omega) hrest
  obtain ⟨c, tail, hcons, hc⟩ := (hasText_integerText n.toInt).exists_cons
  obtain ⟨hspace, -⟩ := StartsValue.of_numeral hc
  have hstart : (c = '-' || c.isDigit) = true := by simpa using hc
  rw [hcons] at hread ⊢
  rw [List.cons_append] at hread ⊢
  simp only [readInt32, skipSpaces_append_cons hblanks hspace, hstart, if_true, hread, hlow, hhigh,
    decide_true, Bool.and_self, Int32.ofInt_toInt]

/-! ### Parts between brackets -/

/-- The text of one part or more, with commas between them and blanks around each. -/
inductive Separated (IsPart : α → List Char → Prop) : List α → List Char → Prop
  | last {a : α} {before part after : List Char} (hbefore : Spaces before) (hpart : IsPart a part)
      (hafter : Spaces after) : Separated IsPart [a] (before ++ (part ++ after))
  | cons {a : α} {as : List α} {before part after rest : List Char} (hbefore : Spaces before)
      (hpart : IsPart a part) (hafter : Spaces after) (hrest : Separated IsPart as rest) :
      Separated IsPart (a :: as) (before ++ (part ++ (after ++ ',' :: rest)))

/-- The text of any number of parts between brackets. -/
inductive Bracketed (b : Bracket) (IsPart : α → List Char → Prop) : List α → List Char → Prop
  | empty {blanks : List Char} (h : Spaces blanks) :
      Bracketed b IsPart [] (b.opening :: (blanks ++ [b.closing]))
  | filled {as : List α} {cs : List Char} (h : Separated IsPart as cs) :
      Bracketed b IsPart as (b.opening :: (cs ++ [b.closing]))

variable {IsPart : α → List Char → Prop} {as : List α} {b : Bracket}

theorem Separated.length_le (h : Separated IsPart as cs) : as.length ≤ cs.length + 1 := by
  induction h with
  | last _ _ _ => simp
  | cons _ _ _ _ ih =>
    simp only [List.length_cons, List.length_append]
    omega

/-- Parts that are written without blanks. -/
theorem Separated.intercalate {parts : List (List Char)} (h : List.Forall₂ IsPart as parts)
    (hne : as ≠ []) : Separated IsPart as ([','].intercalate parts) := by
  induction h with
  | nil => exact absurd rfl hne
  | @cons a part as parts hpart htail ih =>
    cases htail with
    | nil =>
      have hlast : Separated IsPart [a] ([] ++ (part ++ [])) :=
        .last spaces_nil hpart spaces_nil
      simpa using hlast
    | cons hnext htail =>
      have hcons := Separated.cons spaces_nil hpart spaces_nil (ih (by simp))
      rw [List.intercalate_cons_cons]
      simpa using hcons

/-- Parts that are written without blanks between brackets. -/
theorem Bracketed.intercalate (b : Bracket) {parts : List (List Char)}
    (h : List.Forall₂ IsPart as parts) :
    Bracketed b IsPart as (b.opening :: ([','].intercalate parts ++ [b.closing])) := by
  cases h with
  | nil => exact .empty spaces_nil
  | cons hpart htail => exact .filled (.intercalate (.cons hpart htail) (by simp))

theorem Separated.map {IsPart' : β → List Char → Prop} (f : α → β)
    (hpart : ∀ a cs, IsPart a cs → IsPart' (f a) cs) (h : Separated IsPart as cs) :
    Separated IsPart' (as.map f) cs := by
  induction h with
  | last hbefore h hafter => exact .last hbefore (hpart _ _ h) hafter
  | cons hbefore h hafter _ ih => exact .cons hbefore (hpart _ _ h) hafter ih

theorem Bracketed.map {IsPart' : β → List Char → Prop} (f : α → β)
    (hpart : ∀ a cs, IsPart a cs → IsPart' (f a) cs) (h : Bracketed b IsPart as cs) :
    Bracketed b IsPart' (as.map f) cs := by
  cases h with
  | empty hblanks => exact .empty hblanks
  | filled h => exact .filled (h.map f hpart)

/-! ### Members of objects -/

/-- A member of an object: a literal of its name, a colon, and a text for its value. -/
inductive IsMember (name : String) (IsText : List Char → Prop) : List Char → Prop
  | mk {literal before after value : List Char} (hname : Spells literal name.toList)
      (hbefore : Spaces before) (hafter : Spaces after) (hvalue : IsText value) :
      IsMember name IsText ('"' :: (literal ++ '"' :: (before ++ ':' :: (after ++ value))))

theorem IsMember.mono {name : String} {IsText IsText' : List Char → Prop}
    (himp : ∀ cs, IsText cs → IsText' cs) (h : IsMember name IsText cs) :
    IsMember name IsText' cs := by
  obtain ⟨hname, hbefore, hafter, hvalue⟩ := h
  exact .mk hname hbefore hafter (himp _ hvalue)

/-- A member that is written without blanks. -/
theorem isMember_quote {name : String} {IsText : List Char → Prop} (h : IsText cs) :
    IsMember name IsText (quote name ++ ':' :: cs) := by
  have hmember := IsMember.mk (spells_escape name.toList) spaces_nil spaces_nil h
  simpa [quote] using hmember

/-- The value does this to a record under the name: it is read into the field of that name,
or passed over if there is none. -/
inductive Changes (fields : List (RecordField α)) (name : String) :
    (α → α) → List Char → Prop
  | field {field : RecordField α} {change : α → α} {value : List Char}
      (hfield : fields.find? (·.name == name) = some field)
      (hvalue : ∀ record, Reads (field.read record) value (change record)) :
      Changes fields name change value
  | other {value : List Char} (hother : fields.find? (·.name == name) = none)
      (hvalue : IsValue value) : Changes fields name id value

variable {fields : List (RecordField α)} {name : String} {given : List String} {record : α}
  {change : α → α} {steps : Nat}

/-- A value is put into the field of the name. -/
theorem Changes.of_field {key : String} {read : Reader β} {put : β → α → α} {value : β}
    (hfield : fields.find? (·.name == name) = some (.of key read put))
    (hvalue : Reads read text value) (hchange : change = put value) :
    Changes fields name change text :=
  .field hfield fun record => hchange ▸ hvalue.map (put · record)

/-- The names given so far and this one, if it belongs to a field. -/
def noteGiven (fields : List (RecordField α)) (name : String) (given : List String) :
    List String :=
  if (fields.find? (·.name == name)).isSome then name :: given else given

theorem readMember_append (record : α) (h : IsMember name (Changes fields name change) cs)
    (hgiven : name ∉ given) (hblanks : Spaces blanks) (hrest : Ends rest) :
    readMember fields given record (blanks ++ (cs ++ rest)) =
      .ok ((change record, noteGiven fields name given), rest) := by
  obtain @⟨literal, before, after, value, hname, hbefore, hafter, hvalue⟩ := h
  have hstring : readString (literal ++ '"' :: (before ++ ':' :: (after ++ (value ++ rest)))) =
      .ok (name, before ++ ':' :: (after ++ (value ++ rest))) := readString_of_spells hname
  have hcolon : expectColon (before ++ ':' :: (after ++ (value ++ rest))) =
      .ok (after ++ (value ++ rest)) := expectColon_append hbefore
  simp only [readMember, List.cons_append, List.append_assoc,
    skipSpaces_append_cons hblanks isSpace_quote, if_true, hstring, if_neg hgiven, hcolon,
    noteGiven]
  cases hvalue with
  | field hfield hvalue =>
    simp only [hfield, hvalue record after rest hafter hrest, Except.map, Option.isSome_some,
      if_true]
  | other hother hvalue =>
    have hskip : skipValue (after ++ (value ++ rest)) = .ok rest :=
      skipValue_of_isValue hvalue hafter hrest
    simp [hother, hskip, Except.map]

theorem readMember_spaces (hblanks : Spaces blanks) :
    readMember fields given record (blanks ++ cs) = readMember fields given record cs := by
  simp only [readMember, skipSpaces_append hblanks]

/-! ### Records -/

/-- The member that starts behind the opening bracket or a comma, and all that follows. -/
def readEntry (fields : List (RecordField α)) (steps : Nat) (given : List String) (record : α) :
    Reader α := fun cs =>
  match readMember fields given record cs with
  | .error e => .error e
  | .ok ((record, given), rest) => readFields fields steps false given record rest

theorem readEntry_spaces (hblanks : Spaces blanks) :
    readEntry fields steps given record (blanks ++ cs) =
      readEntry fields steps given record cs := by
  simp only [readEntry, readMember_spaces hblanks]

theorem readFields_closing {first : Bool} (hblanks : Spaces blanks) :
    readFields fields (steps + 1) first given record (blanks ++ '\x7d' :: rest) =
      .ok (record, rest) := by
  simp only [readFields, skipSpaces_append_cons hblanks (show isSpace '\x7d' = false by decide),
    if_true]

theorem readFields_comma (hblanks : Spaces blanks) :
    readFields fields (steps + 1) false given record (blanks ++ ',' :: rest) =
      readEntry fields steps given record rest := by
  simp only [readFields, skipSpaces_append_cons hblanks (show isSpace ',' = false by decide),
    show ¬(',' = '\x7d') by decide, if_false, bne_self_eq_false, Bool.not_false, Bool.and_false,
    Bool.false_eq_true]
  rfl

theorem readFields_opening (hblanks : Spaces blanks) :
    readFields fields (steps + 1) true given record (blanks ++ '"' :: rest) =
      readEntry fields steps given record ('"' :: rest) := by
  simp only [readFields, skipSpaces_append_cons hblanks isSpace_quote,
    show ¬('"' = '\x7d') by decide, if_false, Bool.not_true, Bool.false_and, Bool.false_eq_true,
    if_true]
  rfl

/-- A part of a record's text: a name with a value that does this to the record. -/
abbrev IsChange (fields : List (RecordField α)) (part : String × (α → α)) : List Char → Prop :=
  IsMember part.1 (Changes fields part.1 part.2)

/-- The name of no field is given again. -/
def Distinct (fields : List (RecordField α)) (parts : List (String × (α → α))) : Prop :=
  parts.Pairwise fun p q => (fields.find? (·.name == p.1)).isSome → p.1 ≠ q.1

variable {parts : List (String × (α → α))}

theorem not_mem_noteGiven {other : String} (hgiven : other ∉ given)
    (hne : (fields.find? (·.name == name)).isSome → name ≠ other) :
    other ∉ noteGiven fields name given := by
  rw [noteGiven]
  split
  · next hfield => exact List.not_mem_cons_of_ne_of_not_mem (hne hfield).symm hgiven
  · exact hgiven

/-- The members are read one after the other. -/
theorem readEntry_of_separated (h : Separated (IsChange fields) parts cs)
    (hdistinct : Distinct fields parts) (hgiven : ∀ p ∈ parts, p.1 ∉ given)
    (hsteps : parts.length ≤ steps) :
    readEntry fields steps given record (cs ++ '\x7d' :: rest) =
      .ok (parts.foldl (fun record p => p.2 record) record, rest) := by
  induction h generalizing steps given record with
  | @last p before part after hbefore hpart hafter =>
    obtain ⟨steps, rfl⟩ := Nat.exists_eq_add_one.mpr (show 0 < steps from hsteps)
    have hends : Ends (after ++ '\x7d' :: rest) := Ends.append hafter (ends_cons (by decide))
    have hread := readMember_append record hpart (hgiven p List.mem_cons_self) hbefore hends
    simp only [readEntry, List.append_assoc, hread, readFields_closing hafter, List.foldl]
  | @cons p parts before part after tail hbefore hpart hafter _ ih =>
    obtain ⟨steps, rfl⟩ := Nat.exists_eq_add_one.mpr
      (show 0 < steps from Nat.lt_of_lt_of_le (Nat.succ_pos _) hsteps)
    have hends : Ends (after ++ ',' :: (tail ++ '\x7d' :: rest)) :=
      Ends.append hafter (ends_cons (.inl rfl))
    have hread := readMember_append record hpart (hgiven p List.mem_cons_self) hbefore hends
    obtain ⟨hfirst, hdistinct⟩ := List.pairwise_cons.mp hdistinct
    have hfresh : ∀ q ∈ parts, q.1 ∉ noteGiven fields p.1 given := fun q hq =>
      not_mem_noteGiven (hgiven q (List.mem_cons_of_mem p hq)) (hfirst q hq)
    simp only [readEntry, List.append_assoc, List.cons_append, hread, readFields_comma hafter,
      List.foldl]
    exact ih hdistinct hfresh (Nat.le_of_succ_le_succ hsteps)

/-- Each member starts with the literal of its name. -/
theorem Separated.exists_quote (h : Separated (IsChange fields) parts cs) :
    ∃ blanks tail, cs = blanks ++ '"' :: tail ∧ Spaces blanks := by
  cases h with
  | last hbefore hpart _ | cons hbefore hpart _ _ =>
    obtain ⟨_, _, _, _⟩ := hpart
    exact ⟨_, _, rfl, hbefore⟩

theorem readRecord_opening (start : α) (hblanks : Spaces blanks) :
    readRecord fields start (blanks ++ '\x7b' :: rest) =
      readFields fields (rest.length + 1) true [] start rest := by
  simp only [readRecord, skipSpaces_append_cons hblanks (show isSpace '\x7b' = false by decide),
    if_true]

/-- A record is read from the members of an object: what it holds depends on nothing else. -/
theorem reads_record (start : α) (h : Bracketed .object (IsChange fields) parts text)
    (hdistinct : Distinct fields parts) :
    Reads (readRecord fields start) text (parts.foldl (fun record p => p.2 record) start) := by
  intro blanks rest hblanks _
  cases h with
  | @empty inner hinner =>
    simp only [Bracket.opening, Bracket.closing, List.cons_append, List.append_assoc,
      List.nil_append]
    rw [readRecord_opening start hblanks]
    exact readFields_closing hinner
  | @filled _ cs h =>
    obtain ⟨inner, tail, rfl, hinner⟩ := h.exists_quote
    have hsteps : parts.length ≤ (inner ++ '"' :: tail ++ '\x7d' :: rest).length := by
      have hlength := h.length_le
      simp only [List.length_append, List.length_cons] at hlength ⊢
      omega
    have hfresh : ∀ p ∈ parts, p.1 ∉ ([] : List String) := fun _ _ => List.not_mem_nil
    calc readRecord fields start (blanks ++ ('\x7b' :: (inner ++ '"' :: tail ++ ['\x7d']) ++ rest))
        = readFields fields ((inner ++ '"' :: tail ++ '\x7d' :: rest).length + 1) true [] start
            (inner ++ '"' :: (tail ++ '\x7d' :: rest)) := by
          simp only [List.cons_append, List.append_assoc, List.nil_append]
          rw [readRecord_opening start hblanks]
      _ = readEntry fields (inner ++ '"' :: tail ++ '\x7d' :: rest).length [] start
            (inner ++ '"' :: tail ++ '\x7d' :: rest) := by
          rw [readFields_opening hinner, List.append_assoc, List.cons_append,
            readEntry_spaces hinner]
      _ = .ok (parts.foldl (fun record p => p.2 record) start, rest) :=
          readEntry_of_separated h hdistinct hfresh hsteps

/-! ### Tagged values -/

theorem expectTaggedEnd_append (hblanks : Spaces blanks) :
    expectTaggedEnd (blanks ++ '\x7d' :: rest) = .ok rest := by
  simp [expectTaggedEnd, skipSpaces_append_cons hblanks (show isSpace '\x7d' = false by decide)]

/-- An object with one member is read as a value of the kind that its name tells. -/
theorem reads_tagged {kinds : String → Option (Reader α)} {read : Reader α} {a : α}
    (hkind : kinds name = some read)
    (h : Bracketed .object (fun a => IsMember name (Reads read · a)) [a] text) :
    Reads (readTagged kinds) text a := by
  intro blanks rest hblanks _
  obtain - | h := h
  obtain @⟨_, first, _, last, hfirst, hmember, hlast⟩ | ⟨_, _, _, h⟩ := h
  · obtain @⟨literal, before, after, value, hname, hbefore, hafter, hvalue⟩ := hmember
    have hends : Ends (last ++ '\x7d' :: rest) := Ends.append hlast (ends_cons (by decide))
    have hread : read (after ++ (value ++ (last ++ '\x7d' :: rest))) =
        .ok (a, last ++ '\x7d' :: rest) := hvalue after _ hafter hends
    have hend : expectTaggedEnd (last ++ '\x7d' :: rest) = .ok rest := expectTaggedEnd_append hlast
    simp only [Bracket.opening, Bracket.closing, List.cons_append, List.append_assoc,
      List.nil_append, readTagged,
      skipSpaces_append_cons hblanks (show isSpace '\x7b' = false by decide), if_true,
      skipSpaces_append_cons hfirst isSpace_quote, readString_of_spells hname, hkind,
      expectColon_append hbefore, hread, hend, Except.map]
  · cases h

/-- An object with one member is read as its value, put into the kind that the name tells. -/
theorem reads_kind {kinds : String → Option (Reader β)} {read : Reader α}
    {wrap : α → β} {name : String} {v : Value} {a : α}
    (hkind : kinds name = some fun cs => (read cs).map fun (a, rest) => (wrap a, rest))
    (hvalue : Reads read v.compact a) :
    Reads (readTagged kinds) (Value.obj [(name, v)]).compact (wrap a) :=
  reads_tagged hkind (.intercalate .object (.cons (isMember_quote (hvalue.map wrap)) .nil))

/-! ### Lists -/

/-- The text of an item of a list. -/
def IsItem (read : Reader α) (a : α) (cs : List Char) : Prop :=
  Reads read cs a ∧ ∃ c tail, cs = c :: tail ∧ StartsValue c

/-- The item that starts behind the opening bracket or a comma, and all that follows. -/
def readItem (read : Reader α) (steps : Nat) (seen : List α) : Reader (List α) := fun cs =>
  match read (skipSpaces cs) with
  | .error e => .error e
  | .ok (value, rest) => readEach read steps false (value :: seen) rest

variable {read : Reader α} {seen : List α}

theorem readEach_closing {first : Bool} (hblanks : Spaces blanks) :
    readEach read (steps + 1) first seen (blanks ++ ']' :: rest) = .ok (seen.reverse, rest) := by
  simp only [readEach, skipSpaces_append_cons hblanks (show isSpace ']' = false by decide), if_true]

theorem readEach_opening {c : Char} (hblanks : Spaces blanks) (hc : StartsValue c) :
    readEach read (steps + 1) true seen (blanks ++ c :: rest) =
      readItem read steps seen (blanks ++ c :: rest) := by
  obtain ⟨hspace, hclosing⟩ := hc
  have hne : c ≠ ']' := hclosing .list
  cases hread : read (c :: rest) with
  | error e | ok item =>
    simp [readEach, readItem, skipSpaces_append_cons hblanks hspace, skipSpaces_cons hspace, hne,
      hread]

theorem readEach_comma {c : Char} {after : List Char} (hafter : Spaces after)
    (hblanks : Spaces blanks) (hc : StartsValue c) :
    readEach read (steps + 1) false seen (after ++ ',' :: (blanks ++ c :: rest)) =
      readItem read steps seen (blanks ++ c :: rest) := by
  obtain ⟨hspace, hclosing⟩ := hc
  have hne : c ≠ ']' := hclosing .list
  cases hread : read (c :: rest) with
  | error e | ok item =>
    simp [readEach, readItem, skipSpaces_append_cons hafter (show isSpace ',' = false by decide),
      skipSpaces_append_cons hblanks hspace, hne, hread]

theorem Separated.exists_cons (h : Separated (IsItem read) as cs) :
    ∃ blanks c tail, cs = blanks ++ c :: tail ∧ Spaces blanks ∧ StartsValue c := by
  cases h with
  | last hbefore hpart _ | cons hbefore hpart _ _ =>
    obtain ⟨_, c, tail, rfl, hc⟩ := hpart
    exact ⟨_, c, _, rfl, hbefore, hc⟩

theorem readItem_append {a : α} {before part : List Char} (hbefore : Spaces before)
    (hpart : IsItem read a part) (hrest : Ends rest) :
    readItem read steps seen (before ++ (part ++ rest)) =
      readEach read steps false (a :: seen) rest := by
  obtain ⟨hread, c, tail, rfl, hspace, -⟩ := hpart
  have hread : read (c :: (tail ++ rest)) = .ok (a, rest) := hread [] rest spaces_nil hrest
  simp only [readItem, List.cons_append, skipSpaces_append_cons hbefore hspace, hread]

/-- The items are read one after the other. -/
theorem readItem_of_separated (h : Separated (IsItem read) as cs) (hsteps : as.length ≤ steps) :
    readItem read steps seen (cs ++ ']' :: rest) = .ok (seen.reverse ++ as, rest) := by
  induction h generalizing steps seen with
  | @last a before part after hbefore hpart hafter =>
    obtain ⟨steps, rfl⟩ := Nat.exists_eq_add_one.mpr (show 0 < steps from hsteps)
    have hends : Ends (after ++ ']' :: rest) := Ends.append hafter (ends_cons (by decide))
    simp only [List.append_assoc]
    rw [readItem_append hbefore hpart hends, readEach_closing hafter, List.reverse_cons]
  | @cons a as before part after tail hbefore hpart hafter htail ih =>
    obtain ⟨steps, rfl⟩ := Nat.exists_eq_add_one.mpr
      (show 0 < steps from Nat.lt_of_lt_of_le (Nat.succ_pos _) hsteps)
    have hends : Ends (after ++ ',' :: (tail ++ ']' :: rest)) :=
      Ends.append hafter (ends_cons (.inl rfl))
    have hrest : readItem read steps (a :: seen) (tail ++ ']' :: rest) =
        .ok ((a :: seen).reverse ++ as, rest) := ih (Nat.le_of_succ_le_succ hsteps)
    obtain ⟨blanks, c, inner, rfl, hblanks, hc⟩ := htail.exists_cons
    simp only [List.append_assoc, List.cons_append] at hends hrest ⊢
    rw [readItem_append hbefore hpart hends, readEach_comma hafter hblanks hc, hrest,
      List.reverse_cons, List.append_assoc, List.singleton_append]

theorem readList_opening (hblanks : Spaces blanks) :
    readList read (blanks ++ '[' :: rest) = readEach read (rest.length + 1) true [] rest := by
  simp only [readList, skipSpaces_append_cons hblanks (show isSpace '[' = false by decide), if_true]

/-- A list is read from its items. -/
theorem reads_list (h : Bracketed .list (IsItem read) as text) :
    Reads (readList read) text as := by
  intro blanks rest hblanks _
  cases h with
  | @empty inner hinner =>
    simp only [Bracket.opening, Bracket.closing, List.cons_append, List.append_assoc,
      List.nil_append]
    rw [readList_opening hblanks]
    exact readEach_closing hinner
  | @filled _ cs h =>
    have hsteps : as.length ≤ (cs ++ ']' :: rest).length := by
      have hlength := h.length_le
      simp only [List.length_append, List.length_cons]
      omega
    have hitems : readItem read _ [] (cs ++ ']' :: rest) = .ok (as, rest) :=
      readItem_of_separated h hsteps
    obtain ⟨inner, c, tail, rfl, hinner, hc⟩ := h.exists_cons
    simp only [Bracket.opening, Bracket.closing, List.cons_append, List.append_assoc,
      List.nil_append] at hitems ⊢
    rw [readList_opening hblanks, readEach_opening hinner hc, hitems]

end Relay.Json
