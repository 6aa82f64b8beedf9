/-
Names beside each other in a directory.

The path of a name in a directory is a text that depends on the directory alone, with
the name behind it.  So all these paths are cut into the same parts but for the last
one, begin at the same place, and if one of them leads below some directory, the others
lead below the same one.

Nothing is asked of the tree or of the directory here.  A path can also be that of the
top, and then it leads to the top whatever its parts are.
-/
import DatasetSync.Proofs.Files.Path

namespace DatasetSync

namespace Path

/-- What stands in front of every name in its path in a directory. -/
def lead (directory : String) : List Char :=
  if directory.isEmpty || directory.toList.getLast? == some '/' then directory.toList
  else directory.toList ++ ['/']

theorem toList_join (directory : String) {name : String} (h : '/' ∉ name.toList) :
    (join directory name).toList = lead directory ++ name.toList := by
  rw [join, Files.isAbsolute_eq_false h, if_neg Bool.false_ne_true, lead]
  split <;> simp

/-- A text that ends where a part of a path can begin. -/
def Opens (cs : List Char) : Prop :=
  cs = [] ∨ ∃ before, cs = before ++ ['/']

theorem opens_lead (directory : String) : Opens (lead directory) := by
  unfold lead
  split
  · rename_i h
    rw [Bool.or_eq_true, String.isEmpty_iff, beq_iff_eq, List.getLast?_eq_some_iff] at h
    rcases h with rfl | hslash
    · exact Or.inl rfl
    · exact Or.inr hslash
  · exact Or.inr ⟨_, rfl⟩

/-- The parts that such a text puts in front of the next one. -/
def partsBefore (cs : List Char) : List String :=
  ((splitOn '/' cs).dropLast).map String.ofList

theorem parts_of_opens {cs name : List Char} (h : Opens cs) (hname : '/' ∉ name) :
    parts (String.ofList (cs ++ name)) = partsBefore cs ++ [String.ofList name] := by
  rcases h with rfl | ⟨before, rfl⟩
  · simp [parts, partsBefore, splitOn, splitOn_of_not_mem hname]
  · have hempty : '/' ∉ ([] : List Char) := List.not_mem_nil
    rw [partsBefore, splitOn_append before hempty, List.dropLast_concat, List.append_assoc,
      List.singleton_append, parts_append before hname, parts, String.toList_ofList]

end Path

namespace Files

variable {files later : Files} {place : Place} {directory name other : String}

/-! ### Where the paths begin -/

/-- Where the path of a name in a directory begins, and the parts in front of the name, if it is not
the path of the top. -/
def start? (files : Files) (directory : String) : Option (Place × List String) :=
  let lead := Path.lead directory
  let root := files.root.toList
  if root ++ ['/'] <+: lead then some ([], Path.partsBefore (lead.drop root.length))
  else if lead.head? = some '/' then none
  else some (files.here, Path.partsBefore lead)

theorem head?_append_name {cs name : List Char} (h : Path.Opens cs) (hname : '/' ∉ name) :
    (cs ++ name).head? = some '/' ↔ cs.head? = some '/' := by
  rcases h with rfl | ⟨before, rfl⟩
  · cases name with
    | nil => rfl
    | cons c rest =>
        rw [List.mem_cons, not_or] at hname
        simp [Ne.symm hname.1]
  · rw [List.head?_append, List.head?_append]
    cases before.head? <;> simp

/-- All paths of names in a directory begin alike, but for the path of the top. -/
theorem begin?_join_of_ne (hname : '/' ∉ name.toList)
    (hnotTop : Path.join directory name ≠ files.root) :
    files.begin? (Path.join directory name) =
      (files.start? directory).map fun (start, parts) => (start, parts ++ [name]) := by
  have hopens := Path.opens_lead directory
  have hpath := Path.toList_join directory hname
  have hbelow : files.BelowTop (Path.join directory name).toList ↔
      files.root.toList ++ ['/'] <+: Path.lead directory := by
    rw [BelowTop, String.toList_inj, or_iff_right hnotTop, hpath, slash_prefix_append_iff hname]
  unfold start?
  dsimp only
  split
  · rename_i htop
    have hlength : files.root.toList.length ≤ (Path.lead directory).length :=
      Nat.le_of_succ_le (by simpa using htop.length_le)
    have hdropped : Path.Opens ((Path.lead directory).drop files.root.toList.length) := by
      obtain ⟨more, hmore⟩ := htop
      rcases hopens with hnil | ⟨before, hbefore⟩
      · simp [hnil] at hmore
      · have hshort : files.root.toList.length ≤ before.length := by
          have hlengths := congrArg List.length hmore
          rw [hbefore] at hlengths
          simp only [List.length_append, List.length_singleton] at hlengths
          omega
        rw [hbefore, List.drop_append_of_le_length hshort]
        exact Or.inr ⟨_, rfl⟩
    rw [begin?_of_belowTop (hbelow.mpr htop), hpath, List.drop_append_of_le_length hlength,
      Path.parts_of_opens hdropped hname, String.ofList_toList]
    rfl
  · rename_i htop
    have habsolute : Path.isAbsolute (Path.join directory name) = true ↔
        (Path.lead directory).head? = some '/' := by
      rw [Path.isAbsolute, hpath, beq_iff_eq, head?_append_name hopens hname]
    rw [begin?_of_not_belowTop (mt hbelow.mp htop)]
    simp only [habsolute]
    split
    · rfl
    · rw [← String.ofList_toList (s := Path.join directory name), hpath,
        Path.parts_of_opens hopens hname, String.ofList_toList]
      rfl

/-- The path of a name leads on from where all paths of names in the directory begin. -/
theorem locate_join_eq (files : Files) (directory : String) (hname : IsName name) :
    files.locate (Path.join directory name) =
      if '\x00' ∈ Path.lead directory then .error .nulInPath
      else if maxPathSize < (Text.Utf8.encode (Path.join directory name)).length then
        .error .nameTooLong
      else if Path.join directory name = files.root then .ok []
      else
        match files.start? directory with
        | none => .error .notFound
        | some (start, parts) => files.walk start (parts ++ [name]) := by
  have hpath := Path.toList_join directory hname.no_slash
  have hnul : '\x00' ∈ (Path.join directory name).toList ↔ '\x00' ∈ Path.lead directory := by
    rw [hpath, List.mem_append, or_iff_left hname.no_nul]
  have hempty : (Path.join directory name).isEmpty = false := by
    rw [Bool.eq_false_iff, ne_eq, String.isEmpty_iff, ← String.toList_eq_nil_iff, hpath,
      List.append_eq_nil_iff, String.toList_eq_nil_iff]
    exact fun h => hname.ne_empty h.2
  simp only [locate, hnul, hempty, Bool.false_eq_true, if_false]
  by_cases htop : Path.join directory name = files.root
  · have hbegin : files.begin? (Path.join directory name) = some ([], [""]) := by
      rw [begin?_of_belowTop (Or.inl (congrArg String.toList htop)), htop, List.drop_length]
      rfl
    rw [hbegin, if_pos htop]
    simp [walk]
  · rw [begin?_join_of_ne hname.no_slash htop, if_neg htop]
    cases files.start? directory <;> rfl

/-! ### Where they lead -/

/-- If the way to a name comes to its end, the way to any other name in its place does, below the
same directory, and in every tree with the same directories. -/
theorem walk_beside {here : Place} {parts : List String} (hname : IsName name)
    (h : files.walk here (parts ++ [name]) = .ok place) :
    ∃ parent, place = parent ++ [name] ∧ ∀ {later : Files} {other : String},
      files.SameDirectories later → IsName other →
      later.walk here (parts ++ [other]) =
        if (Text.Utf8.encode other).length ≤ maxNameSize then .ok (parent ++ [other])
        else .error .nameTooLong := by
  induction parts generalizing here with
  | nil =>
      rw [List.nil_append, walk_name hname] at h
      split at h
      · cases h
        exact ⟨here, rfl, fun _ hother => walk_name hother here⟩
      · contradiction
  | cons part rest ih =>
      rw [List.cons_append, walk_cons_eq_ok_iff] at h
      simp only [List.cons_append]
      split at h
      · rename_i hpart
        obtain ⟨parent, hplace, hbeside⟩ := ih h
        refine ⟨parent, hplace, fun hsame hother => ?_⟩
        rw [walk, if_pos hpart, hbeside hsame hother]
      · rename_i hpart
        split at h
        · rename_i habove
          obtain ⟨parent, hplace, hbeside⟩ := ih h
          refine ⟨parent, hplace, fun hsame hother => ?_⟩
          rw [walk, if_neg hpart, if_pos habove, hbeside hsame hother]
        · rename_i habove
          rw [if_neg (by simp)] at h
          obtain ⟨hfits, hthere, h⟩ := h
          obtain ⟨parent, hplace, hbeside⟩ := ih h
          refine ⟨parent, hplace, fun hsame hother => ?_⟩
          rw [walk, if_neg hpart, if_neg habove, if_neg (Nat.not_lt.mpr hfits)]
          simp [(hsame.directory _).mpr hthere, hbeside hsame hother]

/-- Where the path of a name leads, if those of its directory lead below a place. -/
def below (root : String) (directory : String) (parent : Place) (name : String) :
    Except Fault Place :=
  if maxPathSize < (Text.Utf8.encode (Path.join directory name)).length then .error .nameTooLong
  else if Path.join directory name = root then .ok []
  else if (Text.Utf8.encode name).length ≤ maxNameSize then .ok (parent ++ [name])
  else .error .nameTooLong

/-- If the path of a name leads below the top, those of all names in its directory lead below the
same place, in every tree with the same directories. -/
theorem locate_beside (hname : IsName name)
    (h : files.locate (Path.join directory name) = .ok place) (hplace : place ≠ []) :
    ∃ parent, place = parent ++ [name] ∧ ∀ {later : Files} {other : String},
      files.SameDirectories later → IsName other →
      later.locate (Path.join directory other) = below files.root directory parent other := by
  rw [locate_join_eq files directory hname] at h
  split at h
  · contradiction
  rename_i hnul
  split at h
  · contradiction
  split at h
  · exact absurd (Except.ok.inj h).symm hplace
  split at h
  · contradiction
  rename_i start parts hstart
  obtain ⟨parent, hparent, hbeside⟩ := walk_beside hname h
  refine ⟨parent, hparent, fun {later other} hsame hother => ?_⟩
  have hlater : later.start? directory = some (start, parts) := by
    rw [start?, hsame.root, hsame.here]
    exact hstart
  rw [locate_join_eq later directory hother, if_neg hnul, hsame.root, hlater, below]
  simp only [hbeside hsame hother]

/-- **Writing a file changes nothing that is found at another name of its directory.** -/
theorem find_write_beside {content : Content} (hname : IsName name) (hother : IsName other)
    (hne : other ≠ name)
    (h : files.writeContent (Path.join directory name) content = .ok later) :
    later.find (Path.join directory other) = files.find (Path.join directory other) := by
  have hsame := sameDirectories_writeContent h
  obtain ⟨place, hlocated, hnone, rfl⟩ := writeContent_eq_ok_iff.mp h
  have hplace := ne_nil_of_not_directory hnone
  obtain ⟨parent, rfl, hbeside⟩ := locate_beside hname hlocated hplace
  have hnode : ∀ there, below files.root directory parent other = .ok there →
      (files.put (parent ++ [name]) (.file content)).node? there = files.node? there := by
    intro there hthere
    rw [node?_put files hplace, if_neg]
    rintro rfl
    unfold below at hthere
    split at hthere
    · contradiction
    · split at hthere
      · exact absurd (Except.ok.inj hthere).symm hplace
      · split at hthere
        · exact hne (by simpa using hthere)
        · contradiction
  rw [find, find, hbeside hsame hother, hbeside (.refl files) hother]
  cases hthere : below files.root directory parent other with
  | error fault => rfl
  | ok there =>
      rw [ok_bind, ok_bind, hnode there hthere]

end Files
end DatasetSync
