import Relay.Proofs.Files.Frame

/-!
# Room for files

A file can be saved under a path if the directories that its path goes through are there or
can be made, and no directory stands in its own place. The last is not only a matter of what
is there at first: directories are made for the file, and if its path goes through its own
place, one of them takes it.

Once a file is saved, its directory is there. So whatever else could be saved in that
directory still can be, and no directory has to be made for it.

## Main definitions

* `Tree.Admits` — a file can be saved under the path.
* `Tree.Stands` — a directory at a place, and directories above it.

## Main statements

* `Tree.isDirectory_of_makeDirectories` — directories that were made are there.
* `Tree.makeDirectories_of_isDirectory` — directories that are there are not made again.
* `Tree.admits_join_iff` — when a file can be saved in a directory.
* `Tree.Admits.of_save` — one file after another in one directory.
-/

namespace Relay

namespace Tree

/-- A file can be saved under the path. -/
def Admits (t : Tree) (path : String) : Prop := (t.save path .empty).1 = .ok ()

instance (t : Tree) (path : String) : Decidable (t.Admits path) :=
  inferInstanceAs (Decidable (_ = _))

variable {t t' : Tree} {path : String} {bytes : ByteArray}

/-- Whether a file can be saved does not depend on what it is to hold. -/
theorem admits_iff (bytes : ByteArray) : t.Admits path ↔ (t.save path bytes).1 = .ok () := by
  rw [Admits, t.fst_save path .empty bytes]

/-! ### Parts in sequence -/

theorem descend_append (t : Tree) (start : Place) (front back : List String) :
    t.descend start (front ++ back) = t.descend start front >>= fun place =>
      t.descend place back := by
  induction front generalizing start with
  | nil => rfl
  | cons part rest ih =>
    rw [List.cons_append, descend, descend]
    split
    · exact ih start
    · split
      · exact ih start.up
      · split
        · rfl
        · cases t.find? (start.child part) with
          | none => rfl
          | some found =>
            cases found with
            | file bytes => rfl
            | directory => exact ih (start.child part)

/-- Empty parts lead nowhere. -/
theorem descend_filter (t : Tree) (start : Place) (parts : List String) :
    t.descend start (parts.filter (· != "")) = t.descend start parts := by
  induction parts generalizing start with
  | nil => rfl
  | cons part rest ih =>
    by_cases hempty : part = ""
    · rw [List.filter_cons_of_neg (by simp [hempty]), descend, if_pos (by simp [hempty])]
      exact ih start
    · rw [List.filter_cons_of_pos (by simp [hempty]), descend, descend]
      split
      · exact ih start
      · split
        · exact ih start.up
        · split
          · rfl
          · cases t.find? (start.child part) with
            | none => rfl
            | some found =>
              cases found with
              | file bytes => rfl
              | directory => exact ih (start.child part)

/-- Parts that lead nowhere are followed to where they start. -/
theorem descend_idle (start : Place) {parts : List String}
    (h : ∀ part ∈ parts, part = "" ∨ part = ".") : t.descend start parts = .ok start := by
  induction parts with
  | nil => rfl
  | cons part rest ih =>
    obtain ⟨hpart, hrest⟩ := List.forall_mem_cons.mp h
    rw [descend, if_pos (by simpa using hpart)]
    exact ih hrest

/-- A name is followed if it is that of a directory. -/
theorem descend_name_iff {start directory : Place} {name : String} (hempty : name ≠ "")
    (hdot : name ≠ ".") (hdots : name ≠ "..") :
    t.descend start [name] = .ok directory ↔ isTooLong name = false ∧
      t.find? (start.child name) = some .directory ∧ directory = start.child name := by
  rw [descend, if_neg (by simp [hempty, hdot]), if_neg hdots]
  cases isTooLong name with
  | true => simp
  | false =>
    cases t.find? (start.child name) with
    | none => simp
    | some found =>
      cases found with
      | file bytes => simp
      | directory => simp [descend, eq_comm]

/-- A path can be followed up to a name if it can be followed to the directory. -/
theorem resolve_of_descend {front : List String} {directory : Place} {name : String}
    (hcheck : checkPath path = .ok ()) (hparts : Path.parts path = front ++ [name])
    (hdescend : t.descend .working front = .ok directory) (hempty : name ≠ "") (hdot : name ≠ ".")
    (hdots : name ≠ "..") :
    t.resolve path = .ok (.named directory name (path.toList.getLast? == some '/')) := by
  have hfilter : (Path.parts path).filter (· != "") = front.filter (· != "") ++ [name] := by
    rw [hparts, List.filter_append, List.filter_cons_of_pos (by simpa using hempty),
      List.filter_nil]
  rw [resolve, hcheck]
  simp only [bind, Except.bind, hfilter, List.getLast?_concat, List.dropLast_concat,
    descend_filter, hdescend]
  rw [if_neg (by simp [hdot, hdots])]
  rfl

/-! ### Directories that are there -/

theorem isDirectory_iff : t.isDirectory path = true ↔ checkPath path = .ok () ∧
    ∃ directory, t.descend .working (Path.parts path) = .ok directory := by
  rw [isDirectory]
  cases checkPath path with
  | error e => simp
  | ok u => cases t.descend .working (Path.parts path) <;> simp

theorem KeepsDirectories.isDirectory (hkeeps : t.KeepsDirectories t')
    (h : t.isDirectory path = true) : t'.isDirectory path = true := by
  obtain ⟨hcheck, directory, hdescend⟩ := isDirectory_iff.mp h
  exact isDirectory_iff.mpr ⟨hcheck, directory, hkeeps.descend hdescend⟩

/-- A directory that was made is there. -/
theorem isDirectory_of_makeDirectory (h : t.makeDirectory path = .ok t') :
    t'.isDirectory path = true := by
  obtain ⟨directory, name, slash, hresolve, hlong, hfree, rfl⟩ := exists_put_of_makeDirectory h
  obtain ⟨front, hcheck, hparts, hdescend, hempty, hdot, hdots, -⟩ :=
    exists_descend_of_resolve hresolve
  have hplace : (directory.child name).names ≠ [] := by simp
  have hkeeps : t.KeepsDirectories (t.put (directory.child name) .directory) :=
    keepsDirectories_put hplace (by simp [hfree]) _
  refine isDirectory_iff.mpr ⟨hcheck, directory.child name, ?_⟩
  rw [← descend_filter, hparts, descend_append, hkeeps.descend hdescend]
  refine (descend_name_iff hempty hdot hdots).mpr ⟨hlong, ?_, rfl⟩
  rw [find?_put t hplace, if_pos rfl]

theorem isDirectory_of_acceptDirectory
    (h : t.acceptDirectory path (t.makeDirectory path) = (.ok (), t')) :
    t'.isDirectory path = true := by
  cases hmake : t.makeDirectory path with
  | ok made =>
    rw [hmake, acceptDirectory] at h
    cases h
    exact isDirectory_of_makeDirectory hmake
  | error e =>
    rw [hmake, acceptDirectory] at h
    by_cases hthere : t.isDirectory path = true
    · rw [if_pos hthere] at h
      cases h
      exact hthere
    · rw [if_neg hthere] at h
      exact nomatch h

/-- Directories that were made are there. -/
theorem isDirectory_of_makeDirectories (h : t.makeDirectories path = (.ok (), t')) :
    path = "" ∨ t'.isDirectory path = true := by
  rw [makeDirectories, makeDirectoriesUp] at h
  by_cases hempty : path = ""
  · exact .inl hempty
  rw [if_neg hempty] at h
  refine .inr ?_
  split at h
  · generalize t.makeDirectoriesUp (Path.parent path) _ = made at h
    obtain ⟨outcome, above⟩ := made
    cases outcome with
    | error e => cases h
    | ok u => exact isDirectory_of_acceptDirectory h
  · exact isDirectory_of_acceptDirectory h

/-- A directory that is there is not made again. -/
theorem makeDirectory_of_isDirectory (h : t.isDirectory path = true) :
    t.makeDirectory path = .error .alreadyExists := by
  obtain ⟨hcheck, directory, hdescend⟩ := isDirectory_iff.mp h
  rw [← descend_filter] at hdescend
  rw [makeDirectory, resolve, hcheck]
  simp only [bind, Except.bind]
  cases hlast : ((Path.parts path).filter (· != "")).getLast? with
  | none => rfl
  | some last =>
    obtain ⟨front, hfront⟩ := List.getLast?_eq_some_iff.mp hlast
    rw [hfront, descend_append] at hdescend
    simp only [hfront, List.dropLast_concat]
    cases hdown : t.descend .working front with
    | error e =>
      rw [hdown] at hdescend
      cases hdescend
    | ok place =>
      rw [hdown] at hdescend
      by_cases hdots : last = "." || last = ".."
      · simp only [hdots, if_true]
        rfl
      · have hname := hdots
        simp only [Bool.or_eq_true, decide_eq_true_eq, not_or] at hname
        obtain ⟨hlong, hfind, -⟩ :=
          (descend_name_iff (Path.last_ne_empty hlast) hname.1 hname.2).mp hdescend
        simp only [hdots, Bool.false_eq_true, if_false, pure, Except.pure, hlong, hfind]
        rfl

/-- Directories that are there are not made again. -/
theorem makeDirectories_of_isDirectory (h : path = "" ∨ t.isDirectory path = true) :
    t.makeDirectories path = (.ok (), t) := by
  rw [makeDirectories, makeDirectoriesUp]
  by_cases hempty : path = ""
  · rw [if_pos hempty]
  · have hthere := h.resolve_left hempty
    rw [if_neg hempty, makeDirectory_of_isDirectory hthere]
    simp only [acceptDirectory, hthere, if_true]

/-! ### Directories on the way -/

/-- A directory is at the place, and so it is at all places above. -/
def Stands (t : Tree) (place : Place) : Prop :=
  ∀ levels, t.find? (Place.up^[levels] place) = some .directory

theorem stands_working (t : Tree) : t.Stands .working := by
  intro levels
  have hnames : (Place.up^[levels] Place.working).names = [] := by
    induction levels with
    | zero => rfl
    | succ levels ih => rw [Function.iterate_succ_apply', Place.up, if_pos ih]
  rw [find?, if_pos hnames]

theorem Stands.up {place : Place} (h : t.Stands place) : t.Stands place.up := by
  intro levels
  rw [← Function.iterate_succ_apply]
  exact h (levels + 1)

theorem Stands.child {place : Place} {name : String} (h : t.Stands place)
    (hfind : t.find? (place.child name) = some .directory) : t.Stands (place.child name) := by
  intro levels
  cases levels with
  | zero => exact hfind
  | succ levels =>
    rw [Function.iterate_succ_apply, Place.up_child]
    exact h levels

/-- Parts are followed through directories to a directory. -/
theorem Stands.descend {start directory : Place} {parts : List String} (h : t.Stands start)
    (hdescend : t.descend start parts = .ok directory) : t.Stands directory := by
  induction parts generalizing start with
  | nil =>
    cases hdescend
    exact h
  | cons part rest ih =>
    rw [Tree.descend] at hdescend
    split at hdescend
    · exact ih h hdescend
    · split at hdescend
      · exact ih h.up hdescend
      · split at hdescend
        · cases hdescend
        · split at hdescend
          · cases hdescend
          · cases hdescend
          · next hfind => exact ih (h.child hfind) hdescend

/-- There are directories at all places that a path goes through, once it can be followed to
the directory of its last part. -/
theorem find?_of_goesThrough {front : List String} {directory place : Place} {name : String}
    (hparts : Path.parts path = front ++ [name])
    (hdescend : t.descend .working front = .ok directory) (h : Path.GoesThrough path place) :
    t.find? place = some .directory := by
  obtain ⟨before, back, hsplit, rfl, part, hpart, -⟩ := h
  obtain ⟨between, last, rfl⟩ : ∃ between last, back = between ++ [last] :=
    ⟨_, _, (List.dropLast_concat_getLast (List.ne_nil_of_mem hpart)).symm⟩
  rw [hparts, ← List.append_assoc] at hsplit
  obtain ⟨rfl, -⟩ := List.append_inj' hsplit rfl
  rw [descend_append] at hdescend
  cases hbefore : t.descend .working before with
  | error e =>
    rw [hbefore] at hdescend
    cases hdescend
  | ok there =>
    rw [← place_of_descend hbefore]
    exact (t.stands_working.descend hbefore) 0

/-! ### Where there is room -/

/-- A file can be written where the path leads to a name of no directory. -/
theorem write_eq_ok_iff : (∃ t', t.write path bytes = .ok t') ↔ ∃ directory name,
    t.resolve path = .ok (.named directory name false) ∧ isTooLong name = false ∧
      t.find? (directory.child name) ≠ some .directory := by
  constructor
  · rintro ⟨t', h⟩
    obtain ⟨directory, name, hresolve, hlong, hfree, -⟩ := exists_put_of_write h
    exact ⟨directory, name, hresolve, hlong, hfree⟩
  · rintro ⟨directory, name, hresolve, hlong, hfree⟩
    rw [write, hresolve]
    simp only [bind, Except.bind, hlong]
    cases hfind : t.find? (directory.child name) with
    | none => exact ⟨_, rfl⟩
    | some found =>
      cases found with
      | file old => exact ⟨_, rfl⟩
      | directory => exact absurd hfind hfree

/-- To the directory above a file in a directory lead the parts in front of the name of the
file, but for parts at their end that lead nowhere. -/
theorem exists_descend_above (directory : String) : ∃ front,
    ∀ (t : Tree) (name : String), '/' ∉ name.toList → name ≠ "" → name ≠ "." →
      Path.parts (Path.join directory name) = front ++ [name] ∧
        t.descend .working (Path.parts (Path.parent (Path.join directory name))) =
          t.descend .working front := by
  obtain ⟨front, -, hparts⟩ := Path.exists_parts_join directory
  refine ⟨front, fun t name hslash hempty hdot => ⟨hparts name hslash, ?_⟩⟩
  obtain ⟨idle, hsplit, hidle⟩ := Path.exists_idle_append_dropIdle front.reverse
  have hfront : front = (Path.dropIdle front.reverse).reverse ++ idle.reverse := by
    rw [← List.reverse_append, ← hsplit, List.reverse_reverse]
  have hback (place : Place) : t.descend place idle.reverse = .ok place :=
    descend_idle place fun part hpart => hidle part (List.mem_reverse.mp hpart)
  have hwhole : t.descend .working front =
      t.descend .working (Path.dropIdle front.reverse).reverse := by
    nth_rewrite 1 [hfront]
    rw [descend_append]
    simp only [hback]
    exact bind_pure _
  rw [Path.parent_of_parts (hparts name hslash) hempty hdot, hwhole]
  by_cases hnone : (Path.dropIdle front.reverse).reverse = []
  · rw [hnone]
    rfl
  · rw [Path.parts_intercalate hnone fun part hpart => ?_]
    have hmem : part ∈ Path.parts (Path.join directory name) := by
      rw [hparts name hslash, hfront]
      exact List.mem_append_left _ (List.mem_append_left _ hpart)
    exact Path.slash_notMem_of_mem_parts hmem

/-- A file can be written under a name in a directory to which its path can be followed. -/
theorem write_name_iff {front : List String} {directory : Place} {name : String}
    (hparts : Path.parts path = front ++ [name])
    (hdescend : t.descend .working front = .ok directory)
    (hend : path.toList.getLast? ≠ some '/') (hempty : name ≠ "") (hdot : name ≠ ".")
    (hdots : name ≠ "..") (hlong : isTooLong name = false) :
    (∃ t', t.write path bytes = .ok t') ↔
      checkPath path = .ok () ∧ t.find? (Path.place path) ≠ some .directory := by
  rw [write_eq_ok_iff]
  constructor
  · rintro ⟨place', name', hresolve, -, hfree⟩
    obtain ⟨-, hcheck, -⟩ := exists_descend_of_resolve hresolve
    exact ⟨hcheck, place_of_resolve hresolve ▸ hfree⟩
  · rintro ⟨hcheck, hfree⟩
    have hresolve := resolve_of_descend hcheck hparts hdescend hempty hdot hdots
    rw [beq_false_of_ne hend] at hresolve
    exact ⟨directory, name, hresolve, hlong, place_of_resolve hresolve ▸ hfree⟩

/-- A file can be saved if its directory can be made and the file can then be written. -/
theorem admits_iff_write : t.Admits path ↔ ∃ above,
    t.makeDirectories (Path.parent path) = (.ok (), above) ∧
      ∃ t', above.write path .empty = .ok t' := by
  rw [Admits, save]
  generalize t.makeDirectories (Path.parent path) = made
  obtain ⟨outcome, above⟩ := made
  cases outcome with
  | error e => simp
  | ok u => cases hwrite : above.write path .empty <;> simp [hwrite]

/-- A file can be saved in a directory if its path is not too long, its directory can be made,
and no directory stands in its own place: neither from the first, nor because the path goes
through the place itself. -/
theorem admits_join_iff (directory : String) {name : String} (hslash : '/' ∉ name.toList)
    (hempty : name ≠ "") (hdot : name ≠ ".") (hdots : name ≠ "..")
    (hlong : isTooLong name = false) :
    let path := Path.join directory name
    t.Admits path ↔ checkPath path = .ok () ∧ (t.makeDirectories (Path.parent path)).1 = .ok () ∧
      t.find? (Path.place path) ≠ some .directory ∧ ¬ Path.GoesThrough path (Path.place path) := by
  intro path
  obtain ⟨front, hparts⟩ := exists_descend_above directory
  have hgrows := t.grows_makeDirectories path
  rw [admits_iff_write]
  generalize hmade : t.makeDirectories (Path.parent path) = made at hgrows
  obtain ⟨outcome, above⟩ := made
  cases outcome with
  | error e => simp
  | ok u =>
    obtain ⟨hsplit, habove⟩ := hparts above name hslash hempty hdot
    obtain ⟨place, hdescend⟩ : ∃ place, above.descend .working front = .ok place := by
      rw [← habove]
      rcases isDirectory_of_makeDirectories hmade with hroot | hthere
      · exact ⟨.working, hroot ▸ rfl⟩
      · exact (isDirectory_iff.mp hthere).2
    have hwrite := @write_name_iff above path .empty front place name hsplit hdescend
      (Path.getLast?_join directory hslash hempty) hempty hdot hdots hlong
    have hfree : above.find? (Path.place path) ≠ some .directory ↔
        t.find? (Path.place path) ≠ some .directory ∧
          ¬ Path.GoesThrough path (Path.place path) := by
      constructor
      · exact fun h => ⟨fun hdir => h (hgrows.keepsDirectories _ hdir),
          fun hthrough => h (find?_of_goesThrough hsplit hdescend hthrough)⟩
      · rintro ⟨hthere, hway⟩
        rcases hgrows (Path.place path) with hsame | ⟨-, -, hthrough⟩
        · rwa [hsame]
        · exact absurd hthrough hway
    rw [hfree] at hwrite
    simpa using hwrite

/-! ### One file after another -/

/-- What could be saved in the directory of a file still can be once the file is saved. -/
theorem Admits.of_save {other : String} (h : t.Admits other)
    (hparent : Path.parent other = Path.parent path)
    (hsave : t.save path bytes = (.ok (), t')) : t'.Admits other := by
  obtain ⟨above, hmade, hother⟩ := admits_iff_write.mp h
  rw [hparent] at hmade
  rw [save, hmade] at hsave
  simp only at hsave
  cases hwrite : above.write path bytes with
  | error e =>
    rw [hwrite] at hsave
    cases hsave
  | ok written =>
    rw [hwrite] at hsave
    cases hsave
    obtain ⟨d, n, -, -, hfree, rfl⟩ := exists_put_of_write hwrite
    have hplace : (d.child n).names ≠ [] := by simp
    have hkeeps : above.KeepsDirectories (above.put (d.child n) (.file bytes)) :=
      keepsDirectories_put hplace hfree _
    have hthere := (isDirectory_of_makeDirectories hmade).imp_right hkeeps.isDirectory
    refine admits_iff_write.mpr ⟨_, hparent ▸ makeDirectories_of_isDirectory hthere, ?_⟩
    obtain ⟨directory, name, hresolve, hlong, hfree'⟩ := write_eq_ok_iff.mp hother
    refine write_eq_ok_iff.mpr ⟨directory, name, hkeeps.resolve hresolve, hlong, ?_⟩
    rw [find?_put above hplace]
    split
    · simp
    · exact hfree'

end Tree

end Relay
