/-
Where the path of a name in a directory leads.

A path is cut at its slashes, and a name has none.  So the parts of the joined path are
those of the directory and the name behind them, and it leads to the name below the
place of the directory, unless it is too long for the system.
-/
import DatasetSync.Proofs.Files.Tree

namespace DatasetSync

namespace Path

/-! ### Parts -/

theorem splitOn_ne_nil (separator : Char) (cs : List Char) : splitOn separator cs ≠ [] := by
  induction cs with
  | nil => simp [splitOn]
  | cons c rest ih =>
      unfold splitOn
      split
      · simp
      · split <;> simp

theorem splitOn_of_not_mem {separator : Char} {cs : List Char} (h : separator ∉ cs) :
    splitOn separator cs = [cs] := by
  induction cs with
  | nil => rfl
  | cons c rest ih =>
      rw [List.mem_cons, not_or] at h
      simp [splitOn, Ne.symm h.1, ih h.2]

theorem splitOn_append {separator : Char} (before : List Char) {name : List Char}
    (h : separator ∉ name) :
    splitOn separator (before ++ separator :: name) = splitOn separator before ++ [name] := by
  induction before with
  | nil => simp [splitOn, splitOn_of_not_mem h]
  | cons c rest ih =>
      by_cases hc : c = separator
      · simp [splitOn, hc, ih]
      · obtain ⟨part, parts, hrest⟩ := List.exists_cons_of_ne_nil (splitOn_ne_nil separator rest)
        simp [splitOn, hc, ih, hrest]

/-- Behind every separator at the end there is an empty part. -/
theorem splitOn_append_replicate (separator : Char) (cs : List Char) (n : Nat) :
    splitOn separator (cs ++ List.replicate n separator) =
      splitOn separator cs ++ List.replicate n [] := by
  induction n with
  | zero => simp
  | succ n ih =>
      rw [List.replicate_succ', ← List.append_assoc, splitOn_append _ List.not_mem_nil, ih,
        List.append_assoc, ← List.replicate_succ']

/-- What is joined to a path is its last part. -/
theorem parts_append (before : List Char) {name : List Char} (h : '/' ∉ name) :
    parts (String.ofList (before ++ '/' :: name)) =
      parts (String.ofList before) ++ [String.ofList name] := by
  simp [parts, splitOn_append before h]

end Path

namespace Files

variable {files : Files} {place : Place}

/-! ### Names -/

/-- A text that can be the name of a file. -/
structure IsName (name : String) : Prop where
  ne_empty : name ≠ ""
  ne_here : name ≠ "."
  ne_above : name ≠ ".."
  no_slash : '/' ∉ name.toList
  no_nul : '\x00' ∉ name.toList

instance (name : String) : Decidable (IsName name) :=
  decidable_of_decidable_of_iff
    (p := name ≠ "" ∧ name ≠ "." ∧ name ≠ ".." ∧ '/' ∉ name.toList ∧ '\x00' ∉ name.toList)
    ⟨fun ⟨hempty, hhere, habove, hslash, hnul⟩ => ⟨hempty, hhere, habove, hslash, hnul⟩,
      fun h => ⟨h.ne_empty, h.ne_here, h.ne_above, h.no_slash, h.no_nul⟩⟩

/-- The path of a name in a directory is not too long, nor is the name. -/
def Fits (directory name : String) : Prop :=
  (Text.Utf8.encode (Path.join directory name)).length ≤ maxPathSize ∧
    (Text.Utf8.encode name).length ≤ maxNameSize

instance (directory name : String) : Decidable (Fits directory name) :=
  inferInstanceAs (Decidable (_ ∧ _))

/-- The path of the top is absolute, or a single word that stands for it. -/
def Rooted (files : Files) : Prop :=
  '/' ∉ files.root.toList ∨
    Path.isAbsolute files.root = true ∧ files.root.toList.getLast? ≠ some '/'

/-! ### Following a path -/

theorem walk_name {name : String} (h : IsName name) (here : Place) :
    files.walk here [name] =
      if (Text.Utf8.encode name).length ≤ maxNameSize then .ok (here ++ [name])
      else .error .nameTooLong := by
  by_cases hfits : (Text.Utf8.encode name).length ≤ maxNameSize
  · simp [walk, h.ne_empty, h.ne_here, h.ne_above, hfits, Nat.not_lt.mpr hfits]
  · simp [walk, h.ne_empty, h.ne_here, h.ne_above, hfits, Nat.not_le.mp hfits]

/-- Where the way to a directory goes on to a name. -/
theorem walk_concat {here : Place} {parts : List String} {name : String}
    (h : files.walk here parts = .ok place) (hthere : files.node? place = some .directory) :
    files.walk here (parts ++ [name]) = files.walk place [name] := by
  induction parts generalizing here with
  | nil =>
      cases h
      rfl
  | cons part rest ih =>
      rw [walk_cons_eq_ok_iff] at h
      rw [List.cons_append, walk]
      split at h
      · rename_i hpart
        rw [if_pos hpart, ih h]
      · rename_i hpart
        rw [if_neg hpart]
        split at h
        · rename_i habove
          rw [if_pos habove, ih h]
        · rename_i habove
          rw [if_neg habove, if_neg (Nat.not_lt.mpr h.1)]
          obtain ⟨-, h⟩ := h
          split at h
          · rename_i hlast
            subst h
            simp [hlast, hthere]
          · simp [h.1, ih h.2]

/-- Nothing between slashes leads nowhere else. -/
theorem walk_replicate (files : Files) (here : Place) (n : Nat) :
    files.walk here (List.replicate n "") = .ok here := by
  induction n with
  | zero => rfl
  | succ n ih => rw [List.replicate_succ, walk, if_pos (Or.inl rfl), ih]

/-- A slash behind a path leads nowhere else. -/
theorem walk_of_slash {here : Place} {parts : List String}
    (h : files.walk here (parts ++ [""]) = .ok place) : files.walk here parts = .ok place := by
  induction parts generalizing here with
  | nil => simpa [walk] using h
  | cons part rest ih =>
      rw [List.cons_append, walk_cons_eq_ok_iff] at h
      rw [walk_cons_eq_ok_iff]
      split
      · rename_i hpart
        rw [if_pos hpart] at h
        exact ih h
      · rename_i hpart
        rw [if_neg hpart] at h
        split
        · rename_i habove
          rw [if_pos habove] at h
          exact ih h
        · rename_i habove
          rw [if_neg habove, if_neg (by simp)] at h
          obtain ⟨hfits, hthere, h⟩ := h
          refine ⟨hfits, ?_⟩
          split
          · rename_i hlast
            subst hlast
            have hend : files.walk (here ++ [part]) [] = .ok place := ih h
            cases hend
            rfl
          · exact ⟨hthere, ih h⟩

/-! ### The path of a name in a directory -/

theorem isAbsolute_eq_false {name : String} (h : '/' ∉ name.toList) :
    Path.isAbsolute name = false := by
  unfold Path.isAbsolute
  cases hname : name.toList with
  | nil => rfl
  | cons c rest =>
      rw [hname, List.mem_cons, not_or] at h
      simp [Ne.symm h.1]

/-- A joined path is that of the directory, but for a slash at its end, and the name behind a
slash. -/
theorem exists_toList_join {directory name : String} (hname : '/' ∉ name.toList)
    (hdirectory : directory ≠ "") :
    ∃ before, (Path.join directory name).toList = before ++ '/' :: name.toList ∧
      (directory.toList = before ∨ directory.toList = before ++ ['/']) := by
  have hempty : directory.isEmpty = false := by simpa using hdirectory
  unfold Path.join
  rw [isAbsolute_eq_false hname, hempty]
  by_cases hslash : directory.toList.getLast? = some '/'
  · obtain ⟨before, hbefore⟩ := List.getLast?_eq_some_iff.mp hslash
    exact ⟨before, by simp [hbefore], Or.inr hbefore⟩
  · exact ⟨directory.toList, by simp [hslash], Or.inl rfl⟩

theorem isAbsolute_join {directory name : String} (hdirectory : directory ≠ "")
    (hname : '/' ∉ name.toList) :
    Path.isAbsolute (Path.join directory name) = Path.isAbsolute directory := by
  obtain ⟨before, hjoined, hbefore⟩ := exists_toList_join hname hdirectory
  unfold Path.isAbsolute
  cases before with
  | nil =>
      rcases hbefore with heq | heq
      · exact absurd (String.toList_eq_nil_iff.mp heq) hdirectory
      · rw [hjoined, heq]
        rfl
  | cons c more =>
      rcases hbefore with heq | heq
      · rw [hjoined, heq]
        rfl
      · rw [hjoined, heq]
        rfl

/-- The path begins with that of the top. -/
def BelowTop (files : Files) (path : List Char) : Prop :=
  path = files.root.toList ∨ files.root.toList ++ ['/'] <+: path

theorem begin?_of_belowTop {path : String} (h : files.BelowTop path.toList) :
    files.begin? path =
      some ([], Path.parts (String.ofList (path.toList.drop files.root.toList.length))) := by
  have hcond : (path.toList = files.root.toList ||
      (files.root.toList ++ ['/']).isPrefixOf path.toList) = true := by
    simpa [BelowTop] using h
  rw [begin?, if_pos hcond]

theorem begin?_of_not_belowTop {path : String} (h : ¬files.BelowTop path.toList) :
    files.begin? path =
      if Path.isAbsolute path then none else some (files.here, Path.parts path) := by
  have hcond : ¬(path.toList = files.root.toList ||
      (files.root.toList ++ ['/']).isPrefixOf path.toList) = true := by
    simpa [BelowTop] using h
  rw [begin?, if_neg hcond]

/-- No slash of a path lies in the name at its end. -/
theorem slash_prefix_append_iff {top cs name : List Char} (hname : '/' ∉ name) :
    top ++ ['/'] <+: cs ++ name ↔ top ++ ['/'] <+: cs := by
  refine ⟨fun h => ?_, fun h => h.trans (List.prefix_append _ _)⟩
  rcases List.prefix_or_prefix_of_prefix h (List.prefix_append cs name) with hbefore | ⟨more, hmore⟩
  · exact hbefore
  · rcases List.eq_nil_or_concat more with rfl | ⟨middle, last, rfl⟩
    · exact ⟨[], by rw [List.append_nil, ← hmore, List.append_nil]⟩
    · have hlast : last = '/' := by
        have hends := congrArg List.getLast? hmore
        simpa [← List.append_assoc] using hends
      have hbehind : middle ++ [last] <+: name := by
        rw [List.concat_eq_append] at hmore
        rwa [← hmore, List.prefix_append_right_inj] at h
      exact absurd (hbehind.subset (by simp [hlast])) hname

/-- A path that ends in a name begins like the path of its directory, or is the path of the top. -/
theorem belowTop_append {before name : List Char} (hname : '/' ∉ name) :
    files.BelowTop (before ++ '/' :: name) ↔
      files.BelowTop before ∨ before ++ '/' :: name = files.root.toList := by
  have hbegins : files.root.toList ++ ['/'] <+: before ++ '/' :: name ↔
      before = files.root.toList ∨ files.root.toList ++ ['/'] <+: before := by
    rw [List.append_cons before, slash_prefix_append_iff hname, List.prefix_concat_iff,
      List.append_left_inj, eq_comm]
  unfold BelowTop
  rw [hbegins]
  exact or_comm

/-- Where the path of a directory begins, that of a name in it begins as well. -/
theorem begin?_join {directory name : String} (hroot : files.Rooted) (hname : '/' ∉ name.toList)
    (hdirectory : directory ≠ "") {start : Place} {parts : List String}
    (h : files.begin? directory = some (start, parts)) :
    ∃ before, files.begin? (Path.join directory name) = some (start, before ++ [name]) ∧
      (parts = before ∨ parts = before ++ [""]) := by
  obtain ⟨before, hjoined, hbefore⟩ := exists_toList_join hname hdirectory
  have hempty : '/' ∉ ([] : List Char) := by simp
  -- Only a path of the top with a slash at its end would make a difference.
  have hslash : before ++ ['/'] ≠ files.root.toList := by
    intro heq
    rcases hroot with hnone | ⟨-, hlast⟩
    · exact hnone (by simp [← heq])
    · exact hlast (by simp [← heq])
  have hbelow : files.BelowTop directory.toList ↔ files.BelowTop before := by
    rcases hbefore with heq | heq
    · rw [heq]
    · rw [heq, belowTop_append hempty, or_iff_left hslash]
  by_cases htop : files.BelowTop before
  · have hlength : files.root.toList.length ≤ before.length := by
      rcases htop with rfl | htop
      · exact Nat.le_refl _
      · exact Nat.le_of_succ_le (by simpa using htop.length_le)
    have hjoinedTop : files.BelowTop (Path.join directory name).toList := by
      rw [hjoined, belowTop_append hname]
      exact Or.inl htop
    rw [begin?_of_belowTop (hbelow.mpr htop)] at h
    cases h
    refine ⟨Path.parts (String.ofList (before.drop files.root.toList.length)), ?_, ?_⟩
    · rw [begin?_of_belowTop hjoinedTop, hjoined, List.drop_append_of_le_length hlength,
        Path.parts_append _ hname, String.ofList_toList]
    · rcases hbefore with heq | heq
      · rw [heq]
        exact Or.inl rfl
      · rw [heq, List.drop_append_of_le_length hlength, Path.parts_append _ hempty]
        exact Or.inr rfl
  · rw [begin?_of_not_belowTop (mt hbelow.mp htop)] at h
    split at h
    · contradiction
    · rename_i hrelative
      cases h
      have hjoinedRelative : Path.isAbsolute (Path.join directory name) = false := by
        rw [isAbsolute_join hdirectory hname]
        simpa using hrelative
      have hjoinedTop : ¬files.BelowTop (Path.join directory name).toList := by
        rw [hjoined, belowTop_append hname]
        rintro (hbefore | heq)
        · exact htop hbefore
        · rw [← hjoined, String.toList_inj] at heq
          rw [heq] at hjoinedRelative hjoined
          rcases hroot with hnone | ⟨habsolute, -⟩
          · exact hnone (by simp [hjoined])
          · rw [hjoinedRelative] at habsolute
            contradiction
      refine ⟨Path.parts (String.ofList before), ?_, ?_⟩
      · rw [begin?_of_not_belowTop hjoinedTop, hjoinedRelative,
          ← String.ofList_toList (s := Path.join directory name), hjoined,
          Path.parts_append _ hname, String.ofList_toList]
        rfl
      · rw [← String.ofList_toList (s := directory)]
        rcases hbefore with heq | heq
        · rw [heq]
          exact Or.inl rfl
        · rw [heq, Path.parts_append _ hempty]
          exact Or.inr rfl

/-- **The path of a name in a directory leads to the name below the place of the directory**, unless
it is too long. -/
theorem locate_join {directory name : String} (hroot : files.Rooted) (hname : IsName name)
    (hlocated : files.locate directory = .ok place)
    (hthere : files.node? place = some .directory) :
    files.locate (Path.join directory name) =
      if Fits directory name then .ok (place ++ [name]) else .error .nameTooLong := by
  unfold locate at hlocated
  split at hlocated
  · contradiction
  rename_i hnul
  split at hlocated
  · contradiction
  rename_i hempty
  split at hlocated
  · contradiction
  split at hlocated
  · contradiction
  rename_i start parts hbegin
  have hdirectory : directory ≠ "" := by simpa using hempty
  obtain ⟨before, hjoined, hparts⟩ := begin?_join hroot hname.no_slash hdirectory hbegin
  obtain ⟨path, hpath, hends⟩ := exists_toList_join hname.no_slash hdirectory
  have hbefore : files.walk start before = .ok place := by
    rcases hparts with rfl | rfl
    · exact hlocated
    · exact walk_of_slash hlocated
  have hnulJoined : '\x00' ∉ (Path.join directory name).toList := by
    have hbeforeNul : '\x00' ∉ path := by
      intro hmem
      rcases hends with heq | heq
      · exact hnul (heq ▸ hmem)
      · exact hnul (by simp [heq, hmem])
    rw [hpath, List.mem_append, List.mem_cons]
    rintro (hmem | heq | hmem)
    · exact hbeforeNul hmem
    · exact absurd heq (by decide)
    · exact hname.no_nul hmem
  have hemptyJoined : (Path.join directory name).isEmpty = false := by
    rw [Bool.eq_false_iff, ne_eq, String.isEmpty_iff, ← String.toList_eq_nil_iff, hpath]
    simp
  rw [locate, if_neg hnulJoined, hemptyJoined, hjoined]
  dsimp only
  rw [walk_concat hbefore hthere, walk_name hname]
  by_cases hpathFits : (Text.Utf8.encode (Path.join directory name)).length ≤ maxPathSize
  · by_cases hnameFits : (Text.Utf8.encode name).length ≤ maxNameSize
    · simp [Fits, hpathFits, hnameFits, Nat.not_lt.mpr hpathFits]
    · simp [Fits, hnameFits, Nat.not_lt.mpr hpathFits]
  · simp [Fits, hpathFits, Nat.not_le.mp hpathFits]

end Files
end DatasetSync
