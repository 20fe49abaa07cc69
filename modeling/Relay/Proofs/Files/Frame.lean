import Relay.Proofs.Files.Places

/-!
# What saving leaves alone

Before a file is saved, the directories are made that its path goes through, as far as they
are missing. So a tree only ever grows: whatever was there stays as it was, and what is new
are directories on the way and the file itself. That holds wherever saving breaks off, and
then the file is not there either, nor is it changed.

## Main definitions

* `Tree.KeptAt`, `Tree.Grows` — nothing changed but that directories were made.
* `Tree.SaveEnds` — how saving ends.

## Main statements

* `Tree.grows_makeDirectories` — making directories.
* `Tree.Grows.load` — what could be loaded still can be.
* `Tree.save_frame` — saving bytes, and saving data as JSON.
-/

namespace Relay

namespace Tree

/-- What stood at the place stands there still, or nothing did and a directory was made
there, which is at a place of this kind. -/
def KeptAt (t : Tree) (place : Place) (new : Place → Prop) (t' : Tree) : Prop :=
  t'.find? place = t.find? place ∨
    t.find? place = none ∧ t'.find? place = some .directory ∧ new place

/-- From the one tree to the other directories were made, at places of this kind, and nothing
else changed. -/
def Grows (t : Tree) (new : Place → Prop) (t' : Tree) : Prop :=
  ∀ place, t.KeptAt place new t'

/-- How saving the bytes under the path ends. -/
inductive SaveEnds (t : Tree) (path : String) (bytes : ByteArray) :
    Except StoreError Unit × Tree → Prop
  /-- The file is there, at the place of the path, and holds the bytes. Elsewhere directories
  were made that the path goes through. All other files are loaded as before. -/
  | saved {t' : Tree} (hload : t'.load path = .ok bytes)
      (hwas : t.find? (Path.place path) ≠ some .directory)
      (hfile : t'.find? (Path.place path) = some (.file bytes))
      (hothers : ∀ place, place ≠ Path.place path → t.KeptAt place (Path.GoesThrough path) t')
      (hloads : ∀ other old, Path.place other ≠ Path.place path → t.load other = .ok old →
        t'.load other = .ok old) :
      SaveEnds t path bytes (.ok (), t')
  /-- Directories were made that the path goes through, and that is all. All files are loaded
  as before. -/
  | failed {e : StoreError} {t' : Tree} (hgrows : t.Grows (Path.GoesThrough path) t')
      (hloads : ∀ other old, t.load other = .ok old → t'.load other = .ok old) :
      SaveEnds t path bytes (.error e, t')

variable {t t' t'' : Tree} {path : String} {bytes : ByteArray} {new : Place → Prop}

/-! ### Trees that grow -/

namespace Grows

theorem refl (t : Tree) (new : Place → Prop) : t.Grows new t := fun _ => .inl rfl

theorem trans (h : t.Grows new t') (h' : t'.Grows new t'') : t.Grows new t'' := by
  intro place
  rcases h' place with hsame' | ⟨hnone, hmade, hnew⟩
  · rw [KeptAt, hsame']
    exact h place
  · rcases h place with hsame | ⟨-, hmade', -⟩
    · exact .inr ⟨hsame ▸ hnone, hmade, hnew⟩
    · exact nomatch hmade'.symm.trans hnone

theorem mono {new' : Place → Prop} (hnew : ∀ place, new place → new' place)
    (h : t.Grows new t') : t.Grows new' t' :=
  fun place => (h place).imp_right fun ⟨hnone, hmade, hplace⟩ => ⟨hnone, hmade, hnew place hplace⟩

theorem keepsDirectories (h : t.Grows new t') : t.KeepsDirectories t' := by
  intro place hplace
  rcases h place with hsame | ⟨hnone, -, -⟩
  · rw [hsame, hplace]
  · exact nomatch hplace.symm.trans hnone

/-- A file is where it was and holds what it held. -/
theorem find?_file (h : t.Grows new t') {place : Place}
    (hfile : t.find? place = some (.file bytes)) : t'.find? place = some (.file bytes) := by
  rcases h place with hsame | ⟨hnone, -, -⟩
  · rw [hsame, hfile]
  · exact nomatch hfile.symm.trans hnone

end Grows

/-! ### Files that are loaded -/

/-- What is loaded is what stands at the place that the path is followed to. -/
theorem load_eq_ok_iff : t.load path = .ok bytes ↔ ∃ directory name,
    t.resolve path = .ok (.named directory name false) ∧ isTooLong name = false ∧
      t.find? (directory.child name) = some (.file bytes) := by
  rw [load, read]
  cases hresolve : t.resolve path with
  | error e => simp [bind, Except.bind]
  | ok target =>
    simp only [bind, Except.bind]
    cases target with
    | here => simp [throw, throwThe, MonadExceptOf.throw]
    | named directory name slash =>
      cases hlong : isTooLong name with
      | true => simp [hlong, throw, throwThe, MonadExceptOf.throw]
      | false =>
        cases hfind : t.find? (directory.child name) with
        | none => simp [hlong, hfind, throw, throwThe, MonadExceptOf.throw]
        | some found =>
          cases found with
          | directory => simp [hlong, hfind, throw, throwThe, MonadExceptOf.throw]
          | file old =>
            cases slash <;>
              simp [hlong, hfind, pure, Except.pure, throw, throwThe, MonadExceptOf.throw]

/-- A file that stands where it stood can be loaded as before. -/
theorem load_of_keeps (hkeeps : t.KeepsDirectories t')
    (hfile : ∀ old, t.find? (Path.place path) = some (.file old) →
      t'.find? (Path.place path) = some (.file old))
    (h : t.load path = .ok bytes) : t'.load path = .ok bytes := by
  obtain ⟨directory, name, hresolve, hlong, hfind⟩ := load_eq_ok_iff.mp h
  rw [place_of_resolve hresolve] at hfind
  refine load_eq_ok_iff.mpr ⟨directory, name, hkeeps.resolve hresolve, hlong, ?_⟩
  rw [place_of_resolve hresolve]
  exact hfile bytes hfind

/-- What could be loaded still can be. -/
theorem Grows.load (h : t.Grows new t') (hload : t.load path = .ok bytes) :
    t'.load path = .ok bytes :=
  load_of_keeps h.keepsDirectories (fun _ => h.find?_file) hload

/-! ### Directories that are made -/

/-- A directory is made at the place of the path. -/
theorem grows_makeDirectory (h : t.makeDirectory path = .ok t') :
    t.Grows (Path.IsOnWay path) t' := by
  obtain ⟨directory, name, slash, hresolve, -, hfree, rfl⟩ := exists_put_of_makeDirectory h
  intro other
  rw [KeptAt, find?_put t (by simp) .directory other]
  by_cases heq : other = directory.child name
  · rw [if_pos heq, heq]
    exact .inr ⟨hfree, rfl, _, List.prefix_refl _, place_of_resolve hresolve⟩
  · rw [if_neg heq]
    exact .inl rfl

theorem grows_acceptDirectory (t : Tree) (path : String) :
    t.Grows (Path.IsOnWay path) (t.acceptDirectory path (t.makeDirectory path)).2 := by
  cases h : t.makeDirectory path with
  | error e => exact .refl t _
  | ok made => exact grows_makeDirectory h

/-- All directories that are made are on the way. -/
theorem grows_makeDirectoriesUp (t : Tree) (path : String) (levels : Nat) :
    t.Grows (fun place => path ≠ "" ∧ Path.IsOnWay path place)
      (t.makeDirectoriesUp path levels).2 := by
  induction levels generalizing path with
  | zero => exact .refl t _
  | succ levels ih =>
    rw [makeDirectoriesUp]
    by_cases hempty : path = ""
    · rw [if_pos hempty]
      exact .refl t _
    rw [if_neg hempty]
    have haccept (t : Tree) := (t.grows_acceptDirectory path).mono fun _ h => And.intro hempty h
    split
    · have habove := (ih (Path.parent path)).mono fun place h =>
        And.intro hempty (h.2.goesThrough h.1).isOnWay
      generalize t.makeDirectoriesUp (Path.parent path) levels = made at habove
      obtain ⟨outcome, above⟩ := made
      cases outcome with
      | error e => exact habove
      | ok u => exact habove.trans (haccept above)
    · exact haccept t

/-- The directories that are made for a file are those that its path goes through. -/
theorem grows_makeDirectories (t : Tree) (path : String) :
    t.Grows (Path.GoesThrough path) (t.makeDirectories (Path.parent path)).2 :=
  (t.grows_makeDirectoriesUp (Path.parent path) _).mono fun _ h => h.2.goesThrough h.1

/-! ### Saving -/

/-- If the tree has grown, and then the file is written, it is saved. -/
theorem saveEnds_of_write (h : t.Grows (Path.GoesThrough path) t')
    (hwrite : t'.write path bytes = .ok t'') : t.SaveEnds path bytes (.ok (), t'') := by
  have hload : t''.load path = .ok bytes := by rw [load, read_of_write hwrite]
  obtain ⟨directory, name, hresolve, -, hfree, rfl⟩ := exists_put_of_write hwrite
  rw [place_of_resolve hresolve] at hfree hload ⊢
  have hplace : (Path.place path).names ≠ [] := by
    rw [← place_of_resolve hresolve]
    simp
  have hfind := t'.find?_put hplace (.file bytes)
  refine .saved hload (fun hdir => hfree (h.keepsDirectories _ hdir)) ?_ (fun place hne => ?_)
    fun other old hne hold => ?_
  · rw [hfind, if_pos rfl]
  · rw [KeptAt, hfind, if_neg hne]
    exact h place
  · refine load_of_keeps (keepsDirectories_put hplace hfree _) (fun old hfile => ?_) (h.load hold)
    rw [hfind, if_neg hne, hfile]

theorem save_ends (t : Tree) (path : String) (bytes : ByteArray) :
    t.SaveEnds path bytes (t.save path bytes) := by
  have hgrows := t.grows_makeDirectories path
  rw [save]
  generalize t.makeDirectories (Path.parent path) = made at hgrows ⊢
  obtain ⟨outcome, above⟩ := made
  cases outcome with
  | error e => exact .failed hgrows fun _ _ => hgrows.load
  | ok u =>
    simp only
    cases hwrite : above.write path bytes with
    | error e => exact .failed hgrows fun _ _ => hgrows.load
    | ok written => exact saveEnds_of_write hgrows hwrite

/-- If saving succeeds, the file is loaded as it was saved. All else that was there stays as
it was, and what is new besides are directories that the path goes through. If it fails, such
directories are all that can be new. Data without a JSON form change nothing, and other data
are saved as they are written over several lines. -/
theorem save_frame :
    (∀ (t : Tree) (path : String) (bytes : ByteArray),
      t.SaveEnds path bytes (t.save path bytes)) ∧
    ∀ (t : Tree) (path : String) (data : Json.Datum), match data.encode? with
      | none => t.saveJson path data = (.error .keyNotString, t)
      | some v => t.SaveEnds path v.prettyText.toUTF8 (t.saveJson path data) := by
  refine ⟨save_ends, fun t path data => ?_⟩
  rw [saveJson]
  cases data.encode? with
  | none => rfl
  | some v => exact t.save_ends path _

/-- A file stands in the way: two directories were made before it was met. -/
example :
    let t := (Tree.empty.save "f" "x".toUTF8).2
    let ended := t.save "a/b/../../f/c" "y".toUTF8
    ended.1 = .error (.io .alreadyExists) ∧
      ended.2.entries.map (·.1.names) = [["a", "b"], ["a"], ["f"]] := by
  decide +kernel

end Tree

end Relay
