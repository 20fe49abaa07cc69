import Relay.Proofs.Files.Saved
import Relay.Proofs.Text.Cuts

/-!
# Where paths lead

The parts of a path lead to a place, step by step, whatever stands there. If a path can be
followed in a tree, it is followed to that place. On the way it goes through the places to
which its first parts lead, and those are the places of the directories above it.

## Main definitions

* `Place.follow`, `Path.place` — where parts and paths lead.
* `Path.IsOnWay` — the path leads to the place or goes through it.
* `Path.GoesThrough` — the path goes through the place and leads on from there.

## Main statements

* `Tree.place_of_resolve` — a name that a path is followed to is at the place of the path.
* `Path.parts_parent` — the parts of the path of the directory above.
* `Path.place_join` — where the path of a file in a directory leads.
-/

namespace Relay

namespace Place

/-- The place that the parts lead to, whatever stands on the way. -/
def follow : Place → List String → Place
  | place, [] => place
  | place, part :: rest =>
    if part = "" || part = "." then place.follow rest
    else if part = ".." then place.up.follow rest
    else (place.child part).follow rest

variable {place : Place}

theorem follow_append (place : Place) (front back : List String) :
    place.follow (front ++ back) = (place.follow front).follow back := by
  induction front generalizing place with
  | nil => rfl
  | cons part rest ih =>
    rw [List.cons_append, follow, follow]
    split
    · exact ih place
    · split
      · exact ih place.up
      · exact ih (place.child part)

/-- Empty parts lead nowhere. -/
theorem follow_filter (place : Place) (parts : List String) :
    place.follow (parts.filter (· != "")) = place.follow parts := by
  induction parts generalizing place with
  | nil => rfl
  | cons part rest ih =>
    by_cases hempty : part = ""
    · rw [List.filter_cons_of_neg (by simp [hempty]), follow, if_pos (by simp [hempty])]
      exact ih place
    · rw [List.filter_cons_of_pos (by simp [hempty]), follow, follow]
      split
      · exact ih place
      · split
        · exact ih place.up
        · exact ih (place.child part)

/-- A name leads to the place that it has in the directory. -/
theorem follow_name {name : String} (hempty : name ≠ "") (hdot : name ≠ ".")
    (hdots : name ≠ "..") : place.follow [name] = place.child name := by
  simp [follow, hempty, hdot, hdots]

end Place

namespace Path

/-- The place that the path leads to, whatever stands there. -/
def place (path : String) : Place := Place.working.follow (parts path)

/-- The path leads to the place, or goes through it. -/
def IsOnWay (path : String) (place : Place) : Prop :=
  ∃ front, front <+: parts path ∧ place = Place.working.follow front

/-- The path goes through the place: a part behind it leads on. -/
def GoesThrough (path : String) (place : Place) : Prop :=
  ∃ front back, parts path = front ++ back ∧ place = Place.working.follow front ∧
    ∃ part ∈ back, part ≠ "" ∧ part ≠ "."

variable {path directory name : String}

theorem GoesThrough.isOnWay {place : Place} (h : GoesThrough path place) : IsOnWay path place := by
  obtain ⟨front, back, hparts, hplace, -⟩ := h
  exact ⟨front, hparts ▸ List.prefix_append front back, hplace⟩

/-! ### Parts -/

/-- No part holds a slash. -/
theorem slash_notMem_of_mem_parts {part : String} (h : part ∈ parts path) :
    '/' ∉ part.toList := by
  obtain ⟨piece, hpiece, rfl⟩ := List.mem_map.mp h
  rw [String.toList_ofList]
  exact Text.notMem_of_mem_piecesAt hpiece

theorem last_ne_empty {last : String}
    (h : ((parts path).filter (· != "")).getLast? = some last) : last ≠ "" := by
  simpa using (List.mem_filter.mp (List.mem_of_getLast? h)).2

/-- Parts that are joined with slashes are the parts of the whole. -/
theorem parts_intercalate {ps : List String} (hne : ps ≠ []) (h : ∀ p ∈ ps, '/' ∉ p.toList) :
    parts ("/".intercalate ps) = ps := by
  have hcut : Text.IsCut ['/'] (ps.map String.toList) ("/".intercalate ps).toList := by
    refine ⟨by simpa using hne, ?_, fun piece hpiece => ?_⟩
    · rw [String.toList_intercalate]
      rfl
    · obtain ⟨p, hp, rfl⟩ := List.mem_map.mp hpiece
      rw [List.singleton_infix_iff]
      exact h p hp
  rw [parts, ← Text.isCut_char_iff.mp hcut, List.map_map]
  have hsame : String.ofList ∘ String.toList = id := funext fun _ => String.ofList_toList
  rw [hsame, List.map_id]

/-- The parts that are left out at the end lead nowhere. -/
theorem exists_idle_append_dropIdle (ps : List String) :
    ∃ idle, ps = idle ++ dropIdle ps ∧ ∀ part ∈ idle, part = "" ∨ part = "." := by
  induction ps with
  | nil => exact ⟨[], rfl, by simp⟩
  | cons part earlier ih =>
    rw [dropIdle]
    split
    · next hidle =>
      obtain ⟨idle, hsplit, hall⟩ := ih
      simp only [Bool.or_eq_true, Bool.and_eq_true, decide_eq_true_eq] at hidle
      exact ⟨part :: idle, congrArg (part :: ·) hsplit,
        List.forall_mem_cons.mpr ⟨hidle.imp_right And.left, hall⟩⟩
    · exact ⟨[], rfl, by simp⟩

/-- What is left behind idle parts leads on, unless it is a dot at the start. -/
theorem leads_of_dropIdle {ps earlier : List String} {part : String}
    (h : dropIdle ps = part :: earlier) : part ≠ "" ∧ (part = "." → earlier = []) := by
  induction ps with
  | nil => exact nomatch h
  | cons p rest ih =>
    rw [dropIdle] at h
    split at h
    · exact ih h
    · next hkeep =>
      cases h
      simpa [not_or] using hkeep

/-- The path of the directory above has the parts in front of a name, but for those at their
end that lead nowhere. -/
theorem parent_of_parts {front : List String} (hparts : parts path = front ++ [name])
    (hempty : name ≠ "") (hdot : name ≠ ".") :
    parent path = "/".intercalate (dropIdle front.reverse).reverse := by
  rw [parent, hparts, List.reverse_append, List.reverse_singleton, List.singleton_append, dropIdle,
    if_neg (by simp [hempty, hdot])]

/-- The path of the directory above has the first parts of the path, or none at all. The
parts that it lacks lead on. -/
theorem parts_parent (path : String) : parent path = "" ∨
    ∃ back, parts path = parts (parent path) ++ back ∧ ∃ part ∈ back, part ≠ "" ∧ part ≠ "." := by
  rw [parent]
  cases hdrop : dropIdle (parts path).reverse with
  | nil => exact .inl rfl
  | cons last earlier =>
    simp only
    by_cases hnone : dropIdle earlier = []
    · rw [hnone]
      exact .inl rfl
    · obtain ⟨hempty, hdot⟩ := leads_of_dropIdle hdrop
      obtain ⟨idle, hidle, -⟩ := exists_idle_append_dropIdle (parts path).reverse
      obtain ⟨idle', hidle', -⟩ := exists_idle_append_dropIdle earlier
      have hsplit : parts path =
          (dropIdle earlier).reverse ++ (idle'.reverse ++ last :: idle.reverse) := by
        rw [← List.reverse_reverse (parts path), hidle, hdrop]
        nth_rewrite 1 [hidle']
        simp
      have hslash : ∀ p ∈ (dropIdle earlier).reverse, '/' ∉ p.toList := fun p hp =>
        slash_notMem_of_mem_parts (hsplit ▸ List.mem_append_left _ hp)
      rw [parts_intercalate (by simpa using hnone) hslash]
      refine .inr ⟨_, hsplit, last, by simp, hempty, fun h => hnone ?_⟩
      rw [hdot h]
      rfl

/-- What is on the way to the directory above is gone through. -/
theorem IsOnWay.goesThrough {place : Place} (hparent : parent path ≠ "")
    (h : IsOnWay (parent path) place) : GoesThrough path place := by
  obtain ⟨front, ⟨between, hfront⟩, hplace⟩ := h
  obtain ⟨back, hparts, part, hpart, hleads⟩ := (parts_parent path).resolve_left hparent
  refine ⟨front, between ++ back, ?_, hplace, part, List.mem_append_right _ hpart, hleads⟩
  rw [hparts, ← hfront, List.append_assoc]

/-! ### Files in a directory -/

/-- The parts of the path of a file in a directory are the name of the file behind parts that
lead to the directory, which do not depend on the name. -/
theorem exists_parts_join (directory : String) : ∃ front,
    place directory = Place.working.follow front ∧
      ∀ name : String, '/' ∉ name.toList → parts (join directory name) = front ++ [name] := by
  have hname {name : String} (h : '/' ∉ name.toList) :
      (Text.piecesAt '/' name.toList).map String.ofList = [name] := by
    rw [Text.piecesAt_of_notMem h, List.map_singleton, String.ofList_toList]
  by_cases hend : directory = "" || directory.toList.getLast? = some '/'
  · by_cases hempty : directory = ""
    · subst hempty
      refine ⟨[], rfl, fun name h => ?_⟩
      have hjoin : join "" name = name := String.empty_append
      rw [hjoin, parts, hname h, List.nil_append]
    · obtain ⟨front, hfront⟩ : ∃ front, directory.toList = front ++ ['/'] := by
        simp only [hempty, decide_false, Bool.false_or, decide_eq_true_eq] at hend
        exact List.getLast?_eq_some_iff.mp hend
      refine ⟨(Text.piecesAt '/' front).map String.ofList, ?_, fun name h => ?_⟩
      · rw [place, parts, hfront, Text.piecesAt_append, List.map_append, Place.follow_append]
        rfl
      · rw [join, if_pos hend, parts, String.toList_append, hfront, List.append_assoc,
          List.singleton_append, Text.piecesAt_append, List.map_append, hname h]
  · refine ⟨parts directory, rfl, fun name h => ?_⟩
    rw [join, if_neg hend, parts, String.toList_append, String.toList_append, List.append_assoc]
    change (Text.piecesAt '/' (directory.toList ++ '/' :: name.toList)).map _ = _
    rw [Text.piecesAt_append, List.map_append, hname h]
    rfl

/-- The path of a file in a directory leads to the name in the directory. -/
theorem place_join (directory : String) (hslash : '/' ∉ name.toList) (hempty : name ≠ "")
    (hdot : name ≠ ".") (hdots : name ≠ "..") :
    place (join directory name) = (place directory).child name := by
  obtain ⟨front, hplace, hparts⟩ := exists_parts_join directory
  rw [place, hparts name hslash, Place.follow_append, ← hplace,
    Place.follow_name hempty hdot hdots]

/-- The path of a file in a directory does not end in a slash. -/
theorem getLast?_join (directory : String) (hslash : '/' ∉ name.toList)
    (hempty : name ≠ "") : (join directory name).toList.getLast? ≠ some '/' := by
  obtain ⟨front, hfront⟩ : ∃ front, (join directory name).toList = front ++ name.toList := by
    rw [join]
    split <;> exact ⟨_, String.toList_append⟩
  have hlast : name.toList.getLast? ≠ some '/' := fun h => hslash (List.mem_of_getLast? h)
  rw [hfront, List.getLast?_append_of_ne_nil _ (by simpa using hempty)]
  exact hlast

/-- All files in a directory have the same directory above. -/
theorem exists_parent_join (directory : String) : ∃ above, ∀ name : String,
    '/' ∉ name.toList → name ≠ "" → name ≠ "." → parent (join directory name) = above := by
  obtain ⟨front, -, hparts⟩ := exists_parts_join directory
  exact ⟨_, fun name hslash hempty hdot => parent_of_parts (hparts name hslash) hempty hdot⟩

end Path

/-! ### Paths that are followed -/

namespace Tree

variable {t : Tree} {path : String}

/-- Parts that are followed are followed to where they lead. -/
theorem place_of_descend {start directory : Place} {parts : List String}
    (h : t.descend start parts = .ok directory) : directory = start.follow parts := by
  induction parts generalizing start with
  | nil =>
    cases h
    rfl
  | cons part rest ih =>
    rw [descend] at h
    rw [Place.follow]
    by_cases hstay : part = "" || part = "."
    · rw [if_pos hstay] at h ⊢
      exact ih h
    rw [if_neg hstay] at h ⊢
    by_cases hup : part = ".."
    · rw [if_pos hup] at h ⊢
      exact ih h
    rw [if_neg hup] at h ⊢
    by_cases hlong : isTooLong part
    · rw [if_pos hlong] at h
      cases h
    rw [if_neg hlong] at h
    cases hfind : t.find? (start.child part) with
    | none =>
      rw [hfind] at h
      cases h
    | some found =>
      rw [hfind] at h
      cases found with
      | file bytes => cases h
      | directory => exact ih h

/-- What a path is resolved to: the directory that all parts but the last lead to, and the
last part, which is a name. -/
theorem exists_descend_of_resolve {directory : Place} {name : String} {slash : Bool}
    (h : t.resolve path = .ok (.named directory name slash)) : ∃ front,
      checkPath path = .ok () ∧ (Path.parts path).filter (· != "") = front ++ [name] ∧
      t.descend .working front = .ok directory ∧ name ≠ "" ∧ name ≠ "." ∧ name ≠ ".." ∧
      slash = (path.toList.getLast? == some '/') := by
  rw [resolve] at h
  cases hcheck : checkPath path with
  | error e =>
    rw [hcheck] at h
    cases h
  | ok u =>
    rw [hcheck] at h
    simp only [bind, Except.bind] at h
    cases hlast : ((Path.parts path).filter (· != "")).getLast? with
    | none =>
      rw [hlast] at h
      cases h
    | some last =>
      rw [hlast] at h
      simp only at h
      obtain ⟨front, hfront⟩ := List.getLast?_eq_some_iff.mp hlast
      rw [hfront, List.dropLast_concat] at h
      cases hdescend : t.descend .working front with
      | error e =>
        rw [hdescend] at h
        cases h
      | ok place =>
        rw [hdescend] at h
        simp only at h
        by_cases hdots : last = "." || last = ".."
        · rw [if_pos hdots] at h
          cases h
        rw [if_neg hdots] at h
        cases h
        simp only [Bool.or_eq_true, decide_eq_true_eq, not_or] at hdots
        exact ⟨front, rfl, hfront, hdescend, Path.last_ne_empty hlast, hdots.1, hdots.2, rfl⟩

/-- A name that a path is followed to is at the place of the path. -/
theorem place_of_resolve {directory : Place} {name : String} {slash : Bool}
    (h : t.resolve path = .ok (.named directory name slash)) :
    directory.child name = Path.place path := by
  obtain ⟨front, -, hparts, hdescend, hempty, hdot, hdots, -⟩ := exists_descend_of_resolve h
  rw [Path.place, ← Place.follow_filter, hparts, Place.follow_append, ← place_of_descend hdescend,
    Place.follow_name hempty hdot hdots]

end Tree

end Relay
