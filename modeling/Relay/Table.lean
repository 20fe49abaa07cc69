/-!
# Tables keyed by name

A table holds at most one value under each name and lists its names in code
point order. Because the order is part of the type, two tables with the same
values under the same names are equal.

## Main definitions

* `Table` — entries in strictly increasing order of their names.
* `Table.find?`, `Table.insert`, `Table.erase`, `Table.keys`, `Table.ofList`.

## Main statements

* `Table.find?_insert`, `Table.find?_erase` — what each operation does to the
  view `find?`.
* `Table.contains_iff` — the names listed are those under which a value is found.
* `Table.ext_find?` — tables with the same view are equal.
-/

namespace Relay

/-- A table of values keyed by name, in strictly increasing order of names. -/
structure Table (α : Type) where
  /-- The names with their values. -/
  entries : List (String × α)
  /-- The names strictly increase. -/
  sorted : entries.Pairwise fun a b => a.1 < b.1

namespace Table

variable {α β : Type}

/-- The value of the first entry with this name. -/
def lookup (name : String) : List (String × α) → Option α
  | [] => none
  | (key, value) :: rest => if key = name then some value else lookup name rest

/-- The entries with the value put under the name, in its place. -/
def put (name : String) (value : α) : List (String × α) → List (String × α)
  | [] => [(name, value)]
  | (key, old) :: rest =>
    if name < key then (name, value) :: (key, old) :: rest
    else if key = name then (name, value) :: rest
    else (key, old) :: put name value rest

theorem mem_put {name : String} {value : α} {e : String × α} :
    ∀ {entries : List (String × α)}, e ∈ put name value entries → e = (name, value) ∨ e ∈ entries
  | [], h => by simpa [put] using h
  | (key, old) :: rest, h => by
    rw [put] at h
    split at h
    · simpa using h
    · split at h
      · rcases List.mem_cons.1 h with h | h
        · exact .inl h
        · exact .inr (List.mem_cons_of_mem _ h)
      · rcases List.mem_cons.1 h with h | h
        · exact .inr (h ▸ List.mem_cons_self)
        · exact (mem_put h).imp id (List.mem_cons_of_mem _)

theorem put_sorted {name : String} {value : α} :
    ∀ {entries : List (String × α)}, entries.Pairwise (fun a b => a.1 < b.1) →
      (put name value entries).Pairwise fun a b => a.1 < b.1
  | [], _ => by simp [put]
  | (key, old) :: rest, h => by
    obtain ⟨hhead, hrest⟩ := List.pairwise_cons.1 h
    rw [put]
    split
    · next hlt =>
      refine List.pairwise_cons.2 ⟨fun e he => ?_, h⟩
      rcases List.mem_cons.1 he with rfl | he
      · exact hlt
      · exact String.lt_trans hlt (hhead e he)
    · next hge =>
      split
      · next heq => exact List.pairwise_cons.2 ⟨fun e he => heq ▸ hhead e he, hrest⟩
      · next hne =>
        refine List.pairwise_cons.2 ⟨fun e he => ?_, put_sorted hrest⟩
        rcases mem_put he with rfl | he
        · have hle : key ≤ name := String.not_lt.1 hge
          exact Decidable.byContradiction fun hnot =>
            hne (String.le_antisymm hle (String.not_lt.1 hnot))
        · exact hhead e he

/-- The table without entries. -/
def empty : Table α := ⟨[], .nil⟩

instance : Inhabited (Table α) := ⟨empty⟩

/-- The value under a name. -/
def find? (t : Table α) (name : String) : Option α := lookup name t.entries

/-- Some value is under the name. -/
def contains (t : Table α) (name : String) : Bool := (t.find? name).isSome

/-- The table with the value under the name, in place of any value that was there. -/
def insert (t : Table α) (name : String) (value : α) : Table α :=
  ⟨put name value t.entries, put_sorted t.sorted⟩

/-- The table without the name. -/
def erase (t : Table α) (name : String) : Table α :=
  ⟨t.entries.filter (·.1 != name), t.sorted.sublist List.filter_sublist⟩

/-- The names in code point order. -/
def keys (t : Table α) : List String := t.entries.map Prod.fst

/-- The number of names. -/
def size (t : Table α) : Nat := t.entries.length

/-- The table has no entries. -/
def isEmpty (t : Table α) : Bool := t.entries.isEmpty

/-- The table of a list of entries; of several under one name the last counts. -/
def ofList (entries : List (String × α)) : Table α :=
  entries.foldl (fun t e => t.insert e.1 e.2) empty

/-! ### The view `find?` -/

theorem lookup_put {name key : String} {value : α} : ∀ {entries : List (String × α)},
    entries.Pairwise (fun a b => a.1 < b.1) →
      lookup key (put name value entries) = if name = key then some value else lookup key entries
  | [], _ => by simp [put, lookup]
  | (first, old) :: rest, h => by
    obtain ⟨-, hrest⟩ := List.pairwise_cons.1 h
    rw [put]
    split
    · rw [lookup]
    · split
      · next heq => subst heq; by_cases hk : first = key <;> simp [lookup, hk]
      · next hne =>
        rw [lookup, lookup_put hrest, lookup]
        by_cases hk : first = key
        · have : name ≠ key := fun hn => hne (hk.trans hn.symm)
          simp [hk, this]
        · simp [hk]

theorem lookup_filter {name key : String} : ∀ {entries : List (String × α)},
    lookup key (entries.filter (·.1 != name)) = if name = key then none else lookup key entries
  | [] => by simp [lookup]
  | (first, value) :: rest => by
    rw [List.filter_cons]
    split
    · next h =>
      have hne : first ≠ name := by simpa using h
      rw [lookup, lookup_filter, lookup]
      by_cases hk : first = key
      · have : name ≠ key := fun hn => hne (hk.trans hn.symm)
        simp [hk, this]
      · simp [hk]
    · next h =>
      have heq : first = name := by simpa using h
      rw [lookup_filter, lookup, heq]
      by_cases hn : name = key <;> simp [hn]

@[simp] theorem find?_empty (name : String) : (empty : Table α).find? name = none := rfl

theorem find?_insert (t : Table α) (name key : String) (value : α) :
    (t.insert name value).find? key = if name = key then some value else t.find? key :=
  lookup_put t.sorted

theorem find?_erase (t : Table α) (name key : String) :
    (t.erase name).find? key = if name = key then none else t.find? key :=
  lookup_filter

theorem contains_insert (t : Table α) (name key : String) (value : α) :
    (t.insert name value).contains key ↔ name = key ∨ t.contains key := by
  rw [contains, find?_insert]
  split
  · next heq => simp [heq]
  · next hne => simp [hne, contains]

theorem lookup_isSome_iff {name : String} : ∀ {entries : List (String × α)},
    (lookup name entries).isSome ↔ name ∈ entries.map Prod.fst
  | [] => by simp [lookup]
  | (key, value) :: rest => by
    rw [lookup]
    by_cases h : key = name
    · simp [h]
    · have : name ≠ key := fun hn => h hn.symm
      simp [h, this, lookup_isSome_iff]

theorem contains_iff {t : Table α} {name : String} : t.contains name ↔ name ∈ t.keys :=
  lookup_isSome_iff

theorem lookup_eq_some_iff {name : String} {value : α} : ∀ {entries : List (String × α)},
    entries.Pairwise (fun a b => a.1 < b.1) →
      (lookup name entries = some value ↔ (name, value) ∈ entries)
  | [], _ => by simp [lookup]
  | (key, first) :: rest, h => by
    obtain ⟨hhead, hrest⟩ := List.pairwise_cons.1 h
    rw [lookup]
    by_cases hk : key = name
    · subst hk
      have : (key, value) ∉ rest := fun hm => String.lt_irrefl key (hhead (key, value) hm)
      simp [this, eq_comm]
    · have : name ≠ key := fun hn => hk hn.symm
      simp [hk, this, lookup_eq_some_iff hrest]

/-- A value is found under a name exactly when the entry is listed. -/
theorem find?_eq_some_iff {t : Table α} {name : String} {value : α} :
    t.find? name = some value ↔ (name, value) ∈ t.entries :=
  lookup_eq_some_iff t.sorted

/-- Strictly increasing lists with the same members are equal. -/
theorem eq_of_mem_iff : ∀ {l r : List (String × α)}, l.Pairwise (fun a b => a.1 < b.1) →
    r.Pairwise (fun a b => a.1 < b.1) → (∀ e, e ∈ l ↔ e ∈ r) → l = r
  | [], [], _, _, _ => rfl
  | [], b :: r, _, _, h => absurd ((h b).2 List.mem_cons_self) List.not_mem_nil
  | a :: l, [], _, _, h => absurd ((h a).1 List.mem_cons_self) List.not_mem_nil
  | a :: l, b :: r, hl, hr, h => by
    obtain ⟨ha, hltail⟩ := List.pairwise_cons.1 hl
    obtain ⟨hb, hrtail⟩ := List.pairwise_cons.1 hr
    have hab : a = b := by
      rcases List.mem_cons.1 ((h a).1 List.mem_cons_self) with heq | hmem
      · exact heq
      · rcases List.mem_cons.1 ((h b).2 List.mem_cons_self) with heq | hmem'
        · exact heq.symm
        · exact absurd (ha b hmem') (String.lt_asymm (hb a hmem))
    subst hab
    refine congrArg (a :: ·) (eq_of_mem_iff hltail hrtail fun e => ?_)
    constructor
    · intro he
      rcases List.mem_cons.1 ((h e).1 (List.mem_cons_of_mem _ he)) with rfl | hmem
      · exact absurd (ha e he) (String.lt_irrefl _)
      · exact hmem
    · intro he
      rcases List.mem_cons.1 ((h e).2 (List.mem_cons_of_mem _ he)) with rfl | hmem
      · exact absurd (hb e he) (String.lt_irrefl _)
      · exact hmem

/-- Tables with the same view are equal. -/
theorem ext_find? {t u : Table α} (h : ∀ name, t.find? name = u.find? name) : t = u := by
  have hentries : t.entries = u.entries := eq_of_mem_iff t.sorted u.sorted fun ⟨name, value⟩ => by
    rw [← find?_eq_some_iff, ← find?_eq_some_iff, h]
  cases t; cases u; cases hentries; rfl

theorem keys_sorted (t : Table α) : t.keys.Pairwise (· < ·) :=
  List.pairwise_map.2 t.sorted

@[simp] theorem length_keys (t : Table α) : t.keys.length = t.size := by simp [keys, size]

end Table

end Relay
