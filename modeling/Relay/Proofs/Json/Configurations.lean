import Relay.Config
import Relay.Proofs.Json.Objects

/-!
# Configurations as JSON

A configuration is read from an object whose members come in any order, with blanks between
them and with their names and texts spelled in any way. Each member sets one field, or says
that there is no identifier, or has a name that is no field's and is passed over. So the
configuration that is read holds the values that are given, and the default in every field
that is not given.

A configuration is written as such an object, with all of its fields, and therefore is read
back as it was.

## Main definitions

* `Config.Setting` — a field of a configuration with a value.
* `Config.Entry` — a member of an object that a configuration is read from.
* `Config.IsText`, `Config.ofEntries` — an object with such members, and what they make.

## Main statements

* `Config.ofJson_of_isText` — the configuration that is read from an object.
* `Config.isIn_ofEntries` — what it holds.
* `Config.written_reads_back` — a configuration is read back as it was.
-/

namespace Relay.Config

open Json

/-! ### Fields with values -/

/-- A field of a configuration with a value. -/
inductive Setting where
  | id (id : String)
  | name (name : String)
  | description (description : String)
  | flow (flow : String)
  | maxLoops (loops : Int32)
  | verbose (verbose : Bool)
  | humanInTheLoop (enabled : Bool)
  | autosave (autosave : Bool)
  | directory (directory : String)

namespace Setting

/-- The name of the field in an object. -/
def key : Setting → String
  | .id _ => "id"
  | .name _ => "name"
  | .description _ => "description"
  | .flow _ => "flow"
  | .maxLoops _ => "max_loops"
  | .verbose _ => "verbose"
  | .humanInTheLoop _ => "human_in_the_loop"
  | .autosave _ => "autosave"
  | .directory _ => "metadata_output_dir"

/-- The configuration holds the value in the field. -/
def IsIn (c : Config) : Setting → Prop
  | .id s => c.id = some s
  | .name s => c.name = s
  | .description s => c.description = s
  | .flow s => c.flow = s
  | .maxLoops n => c.maxLoops = n
  | .verbose b => c.verbose = b
  | .humanInTheLoop b => c.humanInTheLoop = b
  | .autosave b => c.autosave = b
  | .directory s => c.directory = s

/-- The configuration with the value in the field. -/
def put : Setting → Config → Config
  | .id s, c => { c with id := some s }
  | .name s, c => { c with name := s }
  | .description s, c => { c with description := s }
  | .flow s, c => { c with flow := s }
  | .maxLoops n, c => { c with maxLoops := n }
  | .verbose b, c => { c with verbose := b }
  | .humanInTheLoop b, c => { c with humanInTheLoop := b }
  | .autosave b, c => { c with autosave := b }
  | .directory s, c => { c with directory := s }

/-- The text of the value. An integer has one text only: a negative zero or a numeral with a
fraction or an exponent means no integer. -/
def IsText : Setting → List Char → Prop
  | .id s | .name s | .description s | .flow s | .directory s => IsLiteral s
  | .maxLoops n => (· = integerText n.toInt)
  | .verbose b | .humanInTheLoop b | .autosave b => (· = (Value.bool b).compact)

theorem isIn_put (s t : Setting) (c : Config) :
    s.IsIn (t.put c) ↔ s = t ∨ t.key ≠ s.key ∧ s.IsIn c := by
  cases t <;> cases s <;> simp [IsIn, put, key, eq_comm]

/-- The field of the name is read as the value and put in its place. -/
theorem changes {s : Setting} {text : List Char} (h : s.IsText text) :
    Changes fields s.key s.put text := by
  cases s with
  | id s => exact .of_field rfl (reads_textOrNull h) rfl
  | name s | description s | flow s | directory s => exact .of_field rfl (reads_text h) rfl
  | maxLoops n =>
    obtain rfl : text = integerText n.toInt := h
    exact .of_field rfl (reads_int32 n) rfl
  | verbose b | humanInTheLoop b | autosave b =>
    obtain rfl : text = (Value.bool b).compact := h
    exact .of_field rfl (reads_flag b) rfl

end Setting

/-- A configuration is known by the values that it holds. -/
theorem ext_isIn {c d : Config} (h : ∀ s : Setting, s.IsIn c ↔ s.IsIn d) : c = d := by
  have hid : c.id = d.id := Option.ext fun id => h (.id id)
  have hname : d.name = c.name := (h (.name c.name)).mp rfl
  have hdescription : d.description = c.description := (h (.description c.description)).mp rfl
  have hflow : d.flow = c.flow := (h (.flow c.flow)).mp rfl
  have hloops : d.maxLoops = c.maxLoops := (h (.maxLoops c.maxLoops)).mp rfl
  have hverbose : d.verbose = c.verbose := (h (.verbose c.verbose)).mp rfl
  have hhuman : d.humanInTheLoop = c.humanInTheLoop := (h (.humanInTheLoop _)).mp rfl
  have hautosave : d.autosave = c.autosave := (h (.autosave c.autosave)).mp rfl
  have hdirectory : d.directory = c.directory := (h (.directory c.directory)).mp rfl
  cases c
  cases d
  simp_all

/-! ### Members of an object -/

/-- The names of the fields. -/
def keys : List String := fields.map (·.name)

/-- A member of an object that a configuration is read from. -/
inductive Entry where
  | setting (s : Setting)
  /-- There is no identifier. -/
  | noId
  /-- The name is no field's. -/
  | other (name : String) (h : name ∉ keys)

namespace Entry

/-- The name of the member. -/
def name : Entry → String
  | .setting s => s.key
  | .noId => "id"
  | .other name _ => name

/-- The name of the field, if there is one. -/
def key? : Entry → Option String
  | .setting s => some s.key
  | .noId => some "id"
  | .other _ _ => none

/-- The field with its value, if there is one. -/
def setting? : Entry → Option Setting
  | .setting s => some s
  | _ => none

theorem setting?_eq_some_iff {e : Entry} {s : Setting} : e.setting? = some s ↔ e = .setting s := by
  cases e <;> simp [setting?]

/-- What the member does to a configuration. -/
def put : Entry → Config → Config
  | .setting s => s.put
  | .noId => fun c => { c with id := none }
  | .other _ _ => fun c => c

/-- The text of the member. The value of a member that is passed over may be any. -/
def IsText : Entry → List Char → Prop
  | .setting s => IsMember s.key s.IsText
  | .noId => IsMember "id" (· = ['n', 'u', 'l', 'l'])
  | .other name _ => IsMember name IsValue

theorem changes (e : Entry) {text : List Char} (h : e.IsText text) :
    IsChange fields (e.name, e.put) text := by
  cases e with
  | setting s => exact h.mono fun _ htext => Setting.changes htext
  | noId =>
    refine h.mono ?_
    rintro _ rfl
    exact .of_field rfl reads_textOrNull_null rfl
  | other name hname =>
    have hother : fields.find? (·.name == name) = none := by
      rw [List.find?_eq_none]
      rintro field hfield hkey
      exact hname (List.mem_map.mpr ⟨field, hfield, beq_iff_eq.mp hkey⟩)
    exact h.mono fun _ hvalue => .other hother hvalue

/-- The name of a field is the name of its member. -/
theorem key?_eq (e : Entry) (h : e.name ∈ keys) : e.key? = some e.name := by
  cases e with
  | setting s => rfl
  | noId => rfl
  | other name hname => exact absurd h hname

end Entry

/-- No field is given twice. -/
def Once (entries : List Entry) : Prop := (entries.filterMap Entry.key?).Nodup

instance (entries : List Entry) : Decidable (Once entries) :=
  inferInstanceAs (Decidable (entries.filterMap Entry.key?).Nodup)

variable {entries : List Entry}

theorem mem_filterMap_setting? {s : Setting} :
    s ∈ entries.filterMap Entry.setting? ↔ .setting s ∈ entries := by
  simp [List.mem_filterMap, Entry.setting?_eq_some_iff]

theorem once_cons {e : Entry} :
    Once (e :: entries) ↔
      (∀ f ∈ entries, ∀ key, e.key? = some key → f.key? ≠ some key) ∧ Once entries := by
  simp only [Once, List.Nodup, List.pairwise_filterMap, List.pairwise_cons]
  refine and_congr_left fun _ => forall₂_congr fun f _ => ?_
  exact ⟨fun h key he hf => h key he key hf rfl, fun h key he _ hf hne => h key he (hne ▸ hf)⟩

theorem Once.settings (h : Once entries) :
    ((entries.filterMap Entry.setting?).map Setting.key).Nodup := by
  induction entries with
  | nil => exact .nil
  | cons e entries ih =>
    obtain ⟨hfirst, hrest⟩ := once_cons.mp h
    cases e with
    | setting s =>
      refine List.nodup_cons.mpr ⟨?_, ih hrest⟩
      simp only [List.mem_map, List.mem_filterMap]
      rintro ⟨t, ⟨f, hf, hsetting⟩, hkey⟩
      obtain rfl := Entry.setting?_eq_some_iff.mp hsetting
      exact hfirst _ hf s.key rfl (congrArg some hkey)
    | noId | other _ _ => exact ih hrest

/-- The default configuration, changed by one member after the other. -/
def ofEntries (entries : List Entry) : Config := entries.foldl (fun c e => e.put c) {}

/-- The text is an object with these members, and with blanks around it. -/
inductive IsText (entries : List Entry) : List Char → Prop
  | mk {before text after : List Char} (hbefore : Spaces before)
      (htext : Bracketed .object Entry.IsText entries text) (hafter : Spaces after) :
      IsText entries (before ++ (text ++ after))

theorem Once.distinct (h : Once entries) :
    Distinct fields (entries.map fun e => (e.name, e.put)) := by
  induction entries with
  | nil => exact .nil
  | cons e entries ih =>
    obtain ⟨hfirst, hrest⟩ := once_cons.mp h
    refine .cons ?_ (ih hrest)
    simp only [List.mem_map]
    rintro _ ⟨f, hf, rfl⟩ hfield (hname : e.name = f.name)
    obtain ⟨field, hfield⟩ := Option.isSome_iff_exists.mp hfield
    have hkey : e.name ∈ keys := List.mem_map.mpr ⟨field, List.mem_of_find?_eq_some hfield,
      by simpa using List.find?_some hfield⟩
    exact hfirst f hf e.name (e.key?_eq hkey) (hname ▸ f.key?_eq (hname ▸ hkey))

/-- What is read from an object is made of its members. -/
theorem ofJson_of_isText {text : String} (h : IsText entries text.toList) (honce : Once entries) :
    ofJson text = .ok (ofEntries entries) := by
  have hreads {cs : List Char} (hcs : Bracketed .object Entry.IsText entries cs) :
      Reads (readRecord fields {}) cs (ofEntries entries) := by
    have hchanges := hcs.map (fun e => (e.name, e.put)) fun e cs => e.changes
    have hread := reads_record {} hchanges honce.distinct
    rwa [List.foldl_map] at hread
  generalize hchars : text.toList = chars at h
  obtain rfl : text = String.ofList chars := by rw [← hchars, String.ofList_toList]
  obtain ⟨hbefore, htext, hafter⟩ := h
  exact readWhole_of_reads (hreads htext) hbefore hafter

/-! ### What is read -/

theorem Entry.isIn_put (e : Entry) (s : Setting) (c : Config) :
    s.IsIn (e.put c) ↔ e = .setting s ∨ e.key? ≠ some s.key ∧ s.IsIn c := by
  cases e with
  | setting t =>
    have hput := s.isIn_put t c
    simpa [put, key?, eq_comm] using hput
  | noId => cases s <;> simp [put, key?, Setting.IsIn, Setting.key]
  | other name _ => simp [put, key?]

/-- A configuration that has gone through members holds the values that they give, and keeps
the other values. -/
theorem isIn_foldl (honce : Once entries) (s : Setting) (c : Config) :
    s.IsIn (entries.foldl (fun c e => e.put c) c) ↔
      .setting s ∈ entries ∨ (∀ e ∈ entries, e.key? ≠ some s.key) ∧ s.IsIn c := by
  induction entries generalizing c with
  | nil => simp
  | cons e entries ih =>
    obtain ⟨hfirst, hrest⟩ := once_cons.mp honce
    have hfresh : e = .setting s → ∀ f ∈ entries, f.key? ≠ some s.key := by
      rintro rfl f hf
      exact hfirst f hf s.key rfl
    rw [List.foldl_cons, ih hrest, e.isIn_put, List.mem_cons, List.forall_mem_cons]
    have hsymm : Entry.setting s = e ↔ e = .setting s := eq_comm
    tauto

/-- What is read holds the values that are given, and the defaults elsewhere. -/
theorem isIn_ofEntries (honce : Once entries) (s : Setting) :
    s.IsIn (ofEntries entries) ↔
      .setting s ∈ entries ∨ (∀ t, .setting t ∈ entries → t.key ≠ s.key) ∧ s.IsIn {} := by
  rw [ofEntries, isIn_foldl honce]
  refine or_congr_right (and_congr_left fun hdefault => ⟨fun h t ht hkey => ?_, fun h e he => ?_⟩)
  · exact h _ ht (congrArg some hkey)
  · cases e with
    | setting t => exact fun hkey => h t he (Option.some.inj hkey)
    | noId =>
      -- By default there is no identifier.
      cases s with
      | id _ => exact absurd hdefault (by simp [Setting.IsIn])
      | _ => simp [Entry.key?, Setting.key]
    | other name _ => simp [Entry.key?]

/-- What is read is known by the values that are given. -/
theorem ofEntries_eq {others : List Entry} (honce : Once entries) (honce' : Once others)
    (h : ∀ s, .setting s ∈ entries ↔ .setting s ∈ others) :
    ofEntries entries = ofEntries others := by
  refine ext_isIn fun s => ?_
  rw [isIn_ofEntries honce, isIn_ofEntries honce']
  simp only [h]

/-! ### What is written -/

/-- The members that are written. -/
def members (c : Config) : List Entry :=
  [match c.id with
    | none => .noId
    | some id => .setting (.id id),
    .setting (.name c.name), .setting (.description c.description), .setting (.flow c.flow),
    .setting (.maxLoops c.maxLoops), .setting (.verbose c.verbose),
    .setting (.humanInTheLoop c.humanInTheLoop), .setting (.autosave c.autosave),
    .setting (.directory c.directory)]

theorem isText_text (c : Config) : IsText c.members c.text.toList := by
  have hid : Entry.IsText
      (match c.id with
        | none => .noId
        | some id => .setting (.id id))
      (quote "id" ++ ':' :: (Value.ofText? c.id).compact) := by
    cases c.id with
    | none => exact isMember_quote rfl
    | some id => exact isMember_quote (isLiteral_quote id)
  have hparts : List.Forall₂ Entry.IsText c.members (Value.compactMembers
      [("id", .ofText? c.id), ("name", .str c.name), ("description", .str c.description),
        ("flow", .str c.flow), ("max_loops", .int c.maxLoops.toInt), ("verbose", .bool c.verbose),
        ("human_in_the_loop", .bool c.humanInTheLoop), ("autosave", .bool c.autosave),
        ("metadata_output_dir", .str c.directory)]) :=
    .cons hid <| .cons (isMember_quote (isLiteral_quote _)) <|
      .cons (isMember_quote (isLiteral_quote _)) <| .cons (isMember_quote (isLiteral_quote _)) <|
      .cons (isMember_quote rfl) <| .cons (isMember_quote rfl) <| .cons (isMember_quote rfl) <|
      .cons (isMember_quote rfl) <| .cons (isMember_quote (isLiteral_quote _)) .nil
  have htext := IsText.mk spaces_nil (Bracketed.intercalate .object hparts) spaces_nil
  rw [List.nil_append, List.append_nil] at htext
  rw [text, Value.text, String.toList_ofList]
  exact htext

theorem once_members (c : Config) : Once c.members := by
  have hkeys : c.members.filterMap Entry.key? = keys := by
    obtain ⟨_ | _⟩ := c <;> rfl
  rw [Once, hkeys]
  decide

theorem ofEntries_members (c : Config) : ofEntries c.members = c := by
  obtain ⟨_ | _⟩ := c <;> rfl

theorem ofJson_text (c : Config) : ofJson c.text = .ok c := by
  rw [ofJson_of_isText c.isText_text c.once_members, ofEntries_members]

/-- A configuration is read back from its written form as it was, whatever its texts, its
number of loops and its flags are. So a text that is read as a configuration may be written
anew: what is read from then on is the same configuration, and what is written is the same
text. -/
theorem written_reads_back :
    (∀ c : Config, ofJson c.text = .ok c) ∧
      ∀ (text : String) (c : Config), ofJson text = .ok c →
        ∃ d : Config, ofJson c.text = .ok d ∧ d = c ∧ d.text = c.text :=
  ⟨ofJson_text, fun _ c _ => ⟨c, ofJson_text c, rfl, rfl⟩⟩

end Relay.Config
