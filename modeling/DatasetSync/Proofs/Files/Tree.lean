/-
What stands where in a tree of files.

A tree is read through what stands at its places.  Putting something at a place and
taking it away change what is read there and nowhere else, as long as no place stands
twice in the tree, which both of them see to.

A path is followed through directories only.  So two trees with the same directories
lead every path to the same place, and writing a file never changes where a path leads.
-/
import DatasetSync.Files.Tree
import DatasetSync.Proofs.Results
import DatasetSync.Proofs.Text.Utf8

namespace DatasetSync.Files

variable {files later : Files} {place other : Place}

/-! ### What stands at a place -/

/-- No place stands twice in the tree. -/
def Keyed (files : Files) : Prop :=
  (files.entries.map Prod.fst).Nodup

instance (files : Files) : Decidable files.Keyed :=
  inferInstanceAs (Decidable (List.Nodup _))

theorem node?_of_ne_nil (files : Files) (h : place ≠ []) :
    files.node? place = files.entries.lookup place := by
  simp [node?, h]

theorem lookup_replace (entries : List (Place × Node)) (place : Place) (node : Node)
    (other : Place) :
    (entries.map fun e => if e.1 = place then (place, node) else e).lookup other =
      if other = place then (entries.lookup place).map fun _ => node
      else entries.lookup other := by
  induction entries with
  | nil => simp
  | cons entry rest ih =>
      obtain ⟨key, old⟩ := entry
      by_cases hkey : key = place
      · subst hkey
        by_cases hother : other = key
        · subst hother
          simp
        · simp [List.lookup_cons, hother, beq_eq_false_iff_ne.mpr hother, ih]
      · by_cases hother : other = key
        · subst hother
          simp [hkey]
        · simp [List.lookup_cons, hkey, beq_eq_false_iff_ne.mpr hother,
            beq_eq_false_iff_ne.mpr (Ne.symm hkey), ih]

theorem lookup_concat (entries : List (Place × Node)) (place : Place) (node : Node)
    (other : Place) :
    (entries ++ [(place, node)]).lookup other =
      (entries.lookup other).or (if other = place then some node else none) := by
  induction entries with
  | nil =>
      by_cases hother : other = place
      · subst hother
        simp
      · simp [List.lookup_cons, hother, beq_eq_false_iff_ne.mpr hother]
  | cons entry rest ih =>
      obtain ⟨key, old⟩ := entry
      by_cases hother : other = key
      · subst hother
        simp
      · simp [List.lookup_cons, beq_eq_false_iff_ne.mpr hother, ih]

/-- What is put at a place stands there, and everything else where it was. -/
theorem node?_put (files : Files) (h : place ≠ []) (node : Node) (other : Place) :
    (files.put place node).node? other =
      if other = place then some node else files.node? other := by
  by_cases htop : other = []
  · subst htop
    simp [node?, Ne.symm h]
  rw [node?_of_ne_nil _ htop, node?_of_ne_nil _ htop, put]
  by_cases hthere : (files.entries.lookup place).isSome = true
  · rw [if_pos hthere, lookup_replace]
    obtain ⟨old, hold⟩ := Option.isSome_iff_exists.mp hthere
    simp [hold]
  · rw [if_neg hthere, lookup_concat]
    by_cases hother : other = place
    · subst hother
      simp [Option.not_isSome_iff_eq_none.mp hthere]
    · simp [hother]

theorem lookup_isSome_iff {entries : List (Place × Node)} {place : Place} :
    (entries.lookup place).isSome = true ↔ place ∈ entries.map Prod.fst := by
  induction entries with
  | nil => simp
  | cons entry rest ih =>
      obtain ⟨key, node⟩ := entry
      by_cases hkey : place = key
      · subst hkey
        simp
      · rw [List.lookup_cons, beq_eq_false_iff_ne.mpr hkey, List.map_cons, List.mem_cons]
        simp only [ih, hkey, false_or]

theorem Keyed.put (h : files.Keyed) (place : Place) (node : Node) :
    (files.put place node).Keyed := by
  unfold Files.put
  split
  · have hkeys : (files.entries.map fun e => if e.1 = place then (place, node) else e).map
        Prod.fst = files.entries.map Prod.fst := by
      rw [List.map_map]
      refine List.map_congr_left fun e _ => ?_
      by_cases hkey : e.1 = place <;> simp [hkey]
    show List.Nodup _
    rw [hkeys]
    exact h
  · rename_i hnew
    have hnew : place ∉ files.entries.map Prod.fst := fun hmem => hnew (lookup_isSome_iff.mpr hmem)
    show List.Nodup (List.map Prod.fst (files.entries ++ [(place, node)]))
    rw [List.map_append, List.nodup_append]
    refine ⟨h, by simp, ?_⟩
    rintro a ha b hb rfl
    rw [List.mem_singleton.mp hb] at ha
    exact hnew ha

/-- The tree without what stands at one place. -/
def without (files : Files) (place : Place) : Files :=
  { files with entries := files.entries.filter fun e => e.1 != place }

/-- What is taken away is gone, and everything else stands where it was. -/
theorem node?_without (files : Files) (h : place ≠ []) (other : Place) :
    (files.without place).node? other =
      if other = place then none else files.node? other := by
  by_cases htop : other = []
  · subst htop
    simp [node?, Ne.symm h]
  rw [node?_of_ne_nil _ htop, node?_of_ne_nil _ htop, without]
  induction files.entries with
  | nil => simp
  | cons entry rest ih =>
      obtain ⟨key, node⟩ := entry
      by_cases hkey : key = place
      · subst hkey
        by_cases hother : other = key
        · subst hother
          simpa using ih
        · simpa [List.lookup_cons, hother, beq_eq_false_iff_ne.mpr hother] using ih
      · by_cases hother : other = key
        · subst hother
          simp [hkey]
        · simpa [List.lookup_cons, hkey, beq_eq_false_iff_ne.mpr hother] using ih

theorem Keyed.without (h : files.Keyed) (place : Place) : (files.without place).Keyed :=
  h.sublist (List.filter_sublist.map Prod.fst)

/-! ### What is in a directory -/

/-- The name of an entry, if it stands directly in a directory. -/
def nameIn? (place : Place) (e : Place × Node) : Option String :=
  match e.1.getLast? with
  | some name => if e.1.dropLast = place then some name else none
  | none => none

theorem childNames_eq (files : Files) (place : Place) :
    files.childNames place = files.entries.filterMap (nameIn? place) := rfl

theorem nameIn?_eq_some_iff {e : Place × Node} {name : String} :
    nameIn? place e = some name ↔ e.1 = place ++ [name] := by
  unfold nameIn?
  constructor
  · intro h
    split at h
    · rename_i last hlast
      split at h
      · rename_i hplace
        cases h
        obtain ⟨before, hbefore⟩ := List.getLast?_eq_some_iff.mp hlast
        rw [hbefore, List.dropLast_concat] at hplace
        rw [hbefore, hplace]
      · contradiction
    · contradiction
  · intro h
    simp [h]

theorem mem_childNames {name : String} :
    name ∈ files.childNames place ↔ ∃ node, files.node? (place ++ [name]) = some node := by
  rw [node?_of_ne_nil _ (by simp), ← Option.isSome_iff_exists, lookup_isSome_iff, childNames_eq,
    List.mem_filterMap, List.mem_map]
  simp only [nameIn?_eq_some_iff]

theorem Keyed.nodup_childNames (h : files.Keyed) (place : Place) :
    (files.childNames place).Nodup := by
  rw [childNames_eq]
  refine List.Pairwise.filterMap _ ?_ (List.pairwise_map.mp h)
  intro e e' hne name hname name' hname' heq
  rw [nameIn?_eq_some_iff] at hname hname'
  exact hne (by rw [hname, hname', heq])

/-! ### Where paths lead -/

/-- The trees have the same directories. -/
structure SameDirectories (files later : Files) : Prop where
  root : later.root = files.root
  here : later.here = files.here
  directory : ∀ place, later.node? place = some .directory ↔ files.node? place = some .directory

theorem SameDirectories.refl (files : Files) : files.SameDirectories files :=
  ⟨rfl, rfl, fun _ => Iff.rfl⟩

theorem SameDirectories.trans {first second third : Files} (h : first.SameDirectories second)
    (h' : second.SameDirectories third) : first.SameDirectories third :=
  ⟨h'.root.trans h.root, h'.here.trans h.here,
    fun place => (h'.directory place).trans (h.directory place)⟩

/-- Parts behind a name are only followed from a directory. -/
theorem walk_cons_eq_ok_iff {here place : Place} {part : String} {rest : List String} :
    files.walk here (part :: rest) = .ok place ↔
      if part = "" ∨ part = "." then files.walk here rest = .ok place
      else if part = ".." then files.walk here.dropLast rest = .ok place
      else (Text.Utf8.encode part).length ≤ maxNameSize ∧
        if rest = [] then place = here ++ [part]
        else files.node? (here ++ [part]) = some .directory ∧
          files.walk (here ++ [part]) rest = .ok place := by
  rw [walk]
  split
  · rfl
  · split
    · rfl
    · split
      · rename_i hlong
        simp [Nat.not_le.mpr hlong]
      · rename_i hshort
        have hfits : (Text.Utf8.encode part).length ≤ maxNameSize := Nat.not_lt.mp hshort
        cases rest with
        | nil => simp [hfits, eq_comm]
        | cons next more =>
            cases hnode : files.node? (here ++ [part]) with
            | none => simp [hnode]
            | some node => cases node <;> simp [hnode, hfits]

theorem SameDirectories.walk_eq_ok_iff (h : files.SameDirectories later) {here place : Place}
    {parts : List String} :
    later.walk here parts = .ok place ↔ files.walk here parts = .ok place := by
  induction parts generalizing here with
  | nil => rfl
  | cons part rest ih => simp only [walk_cons_eq_ok_iff, ih, h.directory]

theorem SameDirectories.locate_eq_ok_iff (h : files.SameDirectories later) {path : String} :
    later.locate path = .ok place ↔ files.locate path = .ok place := by
  have hbegin : later.begin? path = files.begin? path := by
    rw [begin?, begin?, h.root, h.here]
  unfold locate
  rw [hbegin]
  split
  · simp
  · split
    · simp
    · split
      · simp
      · split
        · simp
        · exact h.walk_eq_ok_iff

/-- Putting a file where no directory stands leaves the directories alone. -/
theorem sameDirectories_put (files : Files) (h : place ≠ [])
    (hnone : files.node? place ≠ some .directory) (content : Content) :
    files.SameDirectories (files.put place (.file content)) where
  root := by
    unfold put
    split <;> rfl
  here := by
    unfold put
    split <;> rfl
  directory other := by
    rw [node?_put files h]
    split
    · rename_i hother
      subst hother
      simp [hnone]
    · rfl

/-- Where a file is written no directory stands. -/
theorem writeContent_eq_ok_iff {path : String} {content : Content} :
    files.writeContent path content = .ok later ↔
      ∃ place, files.locate path = .ok place ∧ files.node? place ≠ some .directory ∧
        later = files.put place (.file content) := by
  unfold writeContent
  cases hlocated : files.locate path with
  | error fault => simp
  | ok place =>
      cases hnode : files.node? place with
      | none => simp [hnode, eq_comm]
      | some node => cases node <;> simp [hnode, eq_comm]

theorem ne_nil_of_not_directory (h : files.node? place ≠ some .directory) : place ≠ [] := by
  rintro rfl
  exact h rfl

theorem sameDirectories_writeContent {path : String} {content : Content}
    (h : files.writeContent path content = .ok later) : files.SameDirectories later := by
  obtain ⟨place, -, hnone, rfl⟩ := writeContent_eq_ok_iff.mp h
  exact sameDirectories_put files (ne_nil_of_not_directory hnone) hnone content

/-- What was written to a path stands there. -/
theorem find_writeContent {path : String} {content : Content}
    (h : files.writeContent path content = .ok later) :
    later.find path = .ok (.file content) := by
  have hsame := sameDirectories_writeContent h
  obtain ⟨place, hlocated, hnone, rfl⟩ := writeContent_eq_ok_iff.mp h
  rw [find, hsame.locate_eq_ok_iff.mpr hlocated]
  simp [node?_put files (ne_nil_of_not_directory hnone)]

/-- A text that was written to a path is read from it. -/
theorem readText_write {path text : String}
    (h : files.write path (Text.Utf8.encode text) = .ok later) :
    later.readText path = .ok text := by
  have hfind := find_writeContent h
  simp [readText, read, hfind, Text.Utf8.decode_encode]

end DatasetSync.Files
