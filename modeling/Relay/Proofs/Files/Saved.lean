import Relay.Files.Store

/-!
# Files that were saved

A file that was written holds what was written. Its path leads to the same place
afterwards: all that it goes through are directories, and a file takes the place of none.
No other file changes, since directories are only made where nothing is.

## Main definitions

* `Tree.fileAt?` — what the file at a place holds.
* `Tree.Saves` — one file was saved.
* `Tree.KeepsDirectories` — paths can be followed as far as before.

## Main statements

* `Tree.read_of_write` — what a file holds that was written.
* `Tree.saves_of_saveJson` — what was saved if that did not fail.
* `Tree.fileAt?_of_saveJson_error` — nothing was saved if it failed.
* `Tree.fst_saveJson` — whether something can be saved.
-/

namespace Relay

/-- What a file holds. -/
def Entry.bytes? : Entry → Option ByteArray
  | .directory => none
  | .file bytes => some bytes

namespace Tree

variable {t t' : Tree} {path : String} {bytes : ByteArray}

/-- What the file at a place holds, if there is one. -/
def fileAt? (t : Tree) (place : Place) : Option ByteArray := (t.find? place).bind Entry.bytes?

/-- From one tree to the other, one file was saved: its path leads to it, and at no other
place a file changed. -/
structure Saves (t : Tree) (path : String) (bytes : ByteArray) (t' : Tree) : Prop where
  load : t'.load path = .ok bytes
  fileAt : ∃ place, ∀ other,
    t'.fileAt? other = if other = place then some bytes else t.fileAt? other

/-- Every directory of the one tree is one of the other. -/
def KeepsDirectories (t t' : Tree) : Prop :=
  ∀ place, t.find? place = some .directory → t'.find? place = some .directory

/-! ### Files that are written -/

/-- An entry that is put where no directory is takes the place of none. -/
theorem keepsDirectories_put {place : Place} (hplace : place.names ≠ [])
    (hfree : t.find? place ≠ some .directory) (entry : Entry) :
    t.KeepsDirectories (t.put place entry) := by
  intro other hother
  have hne : other ≠ place := fun heq => hfree (heq ▸ hother)
  rw [find?_put t hplace entry, if_neg hne, hother]

/-- Parts that lead through directories still do. -/
theorem KeepsDirectories.descend (hkeeps : t.KeepsDirectories t') {start directory : Place}
    {parts : List String} (h : t.descend start parts = .ok directory) :
    t'.descend start parts = .ok directory := by
  induction parts generalizing start with
  | nil => exact h
  | cons part rest ih =>
    rw [Tree.descend] at h ⊢
    by_cases hstay : part = "" || part = "."
    · rw [if_pos hstay] at h ⊢
      exact ih h
    rw [if_neg hstay] at h ⊢
    by_cases hup : part = ".."
    · rw [if_pos hup] at h ⊢
      exact ih h
    rw [if_neg hup] at h ⊢
    by_cases hlong : isTooLong part
    · rw [if_pos hlong] at h
      exact nomatch h
    rw [if_neg hlong] at h ⊢
    cases hfind : t.find? (start.child part) with
    | none =>
      rw [hfind] at h
      exact nomatch h
    | some found =>
      rw [hfind] at h
      cases found with
      | file bytes => exact nomatch h
      | directory =>
        rw [hkeeps _ hfind]
        exact ih h

/-- A path still leads to what it led to. -/
theorem KeepsDirectories.resolve (hkeeps : t.KeepsDirectories t') {target : Target}
    (h : t.resolve path = .ok target) : t'.resolve path = .ok target := by
  rw [Tree.resolve] at h ⊢
  cases hcheck : checkPath path with
  | error e =>
    rw [hcheck] at h
    exact nomatch h
  | ok u =>
    rw [hcheck] at h
    simp only [bind, Except.bind] at h ⊢
    cases hlast : ((Path.parts path).filter (· != "")).getLast? with
    | none =>
      rw [hlast] at h
      exact h
    | some last =>
      rw [hlast] at h
      simp only at h ⊢
      cases hdescend :
        t.descend .working ((Path.parts path).filter (· != "")).dropLast with
      | error e =>
        rw [hdescend] at h
        exact nomatch h
      | ok place =>
        rw [hdescend] at h
        rw [hkeeps.descend hdescend]
        exact h

/-- What is written is put under a name that stands for no directory. -/
theorem exists_put_of_write (h : t.write path bytes = .ok t') : ∃ directory name,
    t.resolve path = .ok (.named directory name false) ∧ isTooLong name = false ∧
      t.find? (directory.child name) ≠ some .directory ∧
      t' = t.put (directory.child name) (.file bytes) := by
  rw [write] at h
  cases hresolve : t.resolve path with
  | error e =>
    rw [hresolve] at h
    exact nomatch h
  | ok target =>
    rw [hresolve] at h
    simp only [bind, Except.bind] at h
    cases target with
    | here => exact nomatch h
    | named directory name slash =>
      cases slash with
      | true => exact nomatch h
      | false =>
        simp only [Bool.false_eq_true, if_false] at h
        cases hlong : isTooLong name with
        | true =>
          simp only [hlong, if_true] at h
          exact nomatch h
        | false =>
          simp only [hlong, Bool.false_eq_true, if_false] at h
          refine ⟨directory, name, rfl, hlong, ?_⟩
          cases hfind : t.find? (directory.child name) with
          | none =>
            simp only [hfind] at h
            cases h
            exact ⟨nofun, rfl⟩
          | some found =>
            simp only [hfind] at h
            cases found with
            | directory => exact nomatch h
            | file old =>
              cases h
              exact ⟨nofun, rfl⟩

/-- A file that was written is read back. -/
theorem read_of_write (h : t.write path bytes = .ok t') : t'.read path = .ok bytes := by
  obtain ⟨directory, name, hresolve, hlong, hfree, rfl⟩ := exists_put_of_write h
  have hplace : (directory.child name).names ≠ [] := by simp
  have hfind := t.find?_put hplace (.file bytes) (directory.child name)
  rw [if_pos rfl] at hfind
  rw [read, (keepsDirectories_put hplace hfree _).resolve hresolve]
  simp only [bind, Except.bind, hlong, hfind]
  rfl

/-! ### Files that are saved -/

theorem fileAt?_put {place : Place} (hplace : place.names ≠ []) (entry : Entry) (other : Place) :
    (t.put place entry).fileAt? other =
      if other = place then entry.bytes? else t.fileAt? other := by
  rw [fileAt?, find?_put t hplace]
  split <;> rfl

/-- A directory is made where nothing is. -/
theorem exists_put_of_makeDirectory (h : t.makeDirectory path = .ok t') :
    ∃ directory name slash, t.resolve path = .ok (.named directory name slash) ∧
      isTooLong name = false ∧ t.find? (directory.child name) = none ∧
      t' = t.put (directory.child name) .directory := by
  rw [makeDirectory] at h
  cases hresolve : t.resolve path with
  | error e =>
    rw [hresolve] at h
    exact nomatch h
  | ok target =>
    rw [hresolve] at h
    simp only [bind, Except.bind] at h
    cases target with
    | here => exact nomatch h
    | named directory name slash =>
      cases hlong : isTooLong name with
      | true =>
        simp only [hlong, if_true] at h
        exact nomatch h
      | false =>
        simp only [hlong, Bool.false_eq_true, if_false] at h
        refine ⟨directory, name, slash, rfl, hlong, ?_⟩
        cases hfind : t.find? (directory.child name) with
        | some found =>
          simp only [hfind] at h
          exact nomatch h
        | none =>
          simp only [hfind] at h
          cases h
          exact ⟨rfl, rfl⟩

/-- No file changes when a directory is made. -/
theorem fileAt?_of_makeDirectory (h : t.makeDirectory path = .ok t') : t'.fileAt? = t.fileAt? := by
  obtain ⟨directory, name, slash, -, -, hfree, rfl⟩ := exists_put_of_makeDirectory h
  funext other
  rw [fileAt?_put (by simp)]
  split
  · next heq =>
    rw [heq, fileAt?, hfree]
    rfl
  · rfl

theorem fileAt?_acceptDirectory (t : Tree) (path : String) :
    (t.acceptDirectory path (t.makeDirectory path)).2.fileAt? = t.fileAt? := by
  cases h : t.makeDirectory path with
  | error e => rfl
  | ok made => exact fileAt?_of_makeDirectory h

theorem fileAt?_makeDirectoriesUp (t : Tree) (path : String) (levels : Nat) :
    (t.makeDirectoriesUp path levels).2.fileAt? = t.fileAt? := by
  induction levels generalizing path with
  | zero => rfl
  | succ levels ih =>
    rw [makeDirectoriesUp]
    by_cases hempty : path = ""
    · rw [if_pos hempty]
    rw [if_neg hempty]
    have haccept := t.fileAt?_acceptDirectory path
    split
    · have habove := ih (Path.parent path)
      generalize t.makeDirectoriesUp (Path.parent path) levels = made at habove
      obtain ⟨outcome, above⟩ := made
      cases outcome with
      | error e => exact habove
      | ok u => exact (above.fileAt?_acceptDirectory path).trans habove
    · exact haccept

theorem fileAt?_makeDirectories (t : Tree) (path : String) :
    (t.makeDirectories path).2.fileAt? = t.fileAt? :=
  t.fileAt?_makeDirectoriesUp path _

/-- A file that was saved is loaded again, and no other file changed. -/
theorem saves_of_save (h : t.save path bytes = (.ok (), t')) : t.Saves path bytes t' := by
  have hmade := t.fileAt?_makeDirectories (Path.parent path)
  rw [save] at h
  generalize t.makeDirectories (Path.parent path) = made at h hmade
  obtain ⟨outcome, above⟩ := made
  cases outcome with
  | error e => exact nomatch h
  | ok u =>
    cases hwrite : above.write path bytes with
    | error e => simp [hwrite] at h
    | ok written =>
      simp only [hwrite, Prod.mk.injEq, true_and] at h
      subst h
      constructor
      · rw [load, read_of_write hwrite]
      · obtain ⟨directory, name, -, -, -, rfl⟩ := exists_put_of_write hwrite
        exact ⟨directory.child name, fun other => hmade ▸ fileAt?_put (by simp) _ other⟩

/-- If saving fails, no file changed. -/
theorem fileAt?_of_save_error {e : StoreError} (h : t.save path bytes = (.error e, t')) :
    t'.fileAt? = t.fileAt? := by
  have hmade := t.fileAt?_makeDirectories (Path.parent path)
  rw [save] at h
  generalize t.makeDirectories (Path.parent path) = made at h hmade
  obtain ⟨outcome, above⟩ := made
  cases outcome with
  | error e =>
    cases h
    exact hmade
  | ok u =>
    cases hwrite : above.write path bytes with
    | error e =>
      simp only [hwrite] at h
      cases h
      exact hmade
    | ok written => simp [hwrite] at h

section Json

variable {v : Json.Value}

theorem saves_of_saveJson (h : t.saveJson path (.value v) = (.ok (), t')) :
    t.Saves path v.prettyText.toUTF8 t' := by
  rw [saveJson, Json.Datum.encode?] at h
  exact saves_of_save h

theorem fileAt?_of_saveJson_error {e : StoreError}
    (h : t.saveJson path (.value v) = (.error e, t')) : t'.fileAt? = t.fileAt? := by
  rw [saveJson, Json.Datum.encode?] at h
  exact fileAt?_of_save_error h

end Json

/-! ### What can be saved -/

/-- Whether a file can be written does not depend on what is written. -/
theorem map_write (t : Tree) (path : String) (bytes bytes' : ByteArray) :
    (t.write path bytes).map (fun _ => ()) = (t.write path bytes').map (fun _ => ()) := by
  rw [write, write]
  cases t.resolve path with
  | error e => rfl
  | ok target =>
    cases target with
    | here => rfl
    | named directory name slash =>
      simp only [bind, Except.bind]
      cases slash with
      | true => rfl
      | false =>
        cases isTooLong name with
        | true => rfl
        | false =>
          cases t.find? (directory.child name) with
          | none => rfl
          | some found => cases found <;> rfl

theorem fst_save (t : Tree) (path : String) (bytes bytes' : ByteArray) :
    (t.save path bytes).1 = (t.save path bytes').1 := by
  rw [save, save]
  obtain ⟨outcome, above⟩ := t.makeDirectories (Path.parent path)
  cases outcome with
  | error e => rfl
  | ok u =>
    have hsame := above.map_write path bytes bytes'
    simp only
    generalize above.write path bytes = r at hsame ⊢
    generalize above.write path bytes' = r' at hsame ⊢
    cases r with
    | error e =>
      cases r' with
      | error e' =>
        cases hsame
        rfl
      | ok written' => exact nomatch hsame
    | ok written =>
      cases r' with
      | error e' => exact nomatch hsame
      | ok written' => rfl

end Tree

end Relay
