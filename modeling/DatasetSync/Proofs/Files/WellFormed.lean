/-
Trees as there can be ones.

A tree is a list of places, and not every list is one that a file system could have: a
place can stand in it twice, and a name can hold a slash.  What files and directories
are put at comes from following paths, and a path is cut at its slashes.  So whatever is
written, removed or created leaves a tree as there can be one.
-/
import DatasetSync.Proofs.Files.Path

namespace DatasetSync

namespace Path

/-- The parts of a text hold its characters, and no separator. -/
theorem mem_splitOn {separator : Char} {cs part : List Char} (h : part ∈ splitOn separator cs) :
    separator ∉ part ∧ ∀ c ∈ part, c ∈ cs := by
  induction cs generalizing part with
  | nil =>
      rw [splitOn, List.mem_singleton] at h
      simp [h]
  | cons first rest ih =>
      obtain ⟨begun, parts, hrest⟩ := List.exists_cons_of_ne_nil (splitOn_ne_nil separator rest)
      by_cases hfirst : first = separator
      · rw [splitOn, if_pos hfirst, List.mem_cons] at h
        rcases h with rfl | hmem
        · simp
        · exact ⟨(ih hmem).1, fun c hc => List.mem_cons_of_mem first ((ih hmem).2 c hc)⟩
      · rw [splitOn, if_neg hfirst, hrest] at h
        rcases List.mem_cons.mp h with rfl | hmem
        · obtain ⟨hnone, hin⟩ := ih (hrest ▸ List.mem_cons_self)
          refine ⟨by simp [hnone, Ne.symm hfirst], fun c hc => ?_⟩
          exact List.mem_cons.mpr ((List.mem_cons.mp hc).imp_right (hin c))
        · obtain ⟨hnone, hin⟩ := ih (hrest ▸ List.mem_cons_of_mem begun hmem)
          exact ⟨hnone, fun c hc => List.mem_cons_of_mem first (hin c hc)⟩

end Path

namespace Files

variable {files later : Files} {place : Place} {path : String}

/-- A text that can stand between the slashes of a path. -/
def IsPart (part : String) : Prop :=
  '/' ∉ part.toList ∧ '\x00' ∉ part.toList

theorem isPart_of_mem_parts {cs : List Char} (hnul : '\x00' ∉ cs) {part : String}
    (h : part ∈ Path.parts (String.ofList cs)) : IsPart part := by
  rw [Path.parts, List.mem_map, String.toList_ofList] at h
  obtain ⟨chars, hmem, rfl⟩ := h
  obtain ⟨hslash, hin⟩ := Path.mem_splitOn hmem
  rw [IsPart, String.toList_ofList]
  exact ⟨hslash, fun hmem => hnul (hin _ hmem)⟩

/-- A tree as there can be one: its top is an absolute path or a single word, no place stands twice
in it, and the names that lead to a place can be those of files. -/
structure WellFormed (files : Files) : Prop where
  rooted : files.Rooted
  keyed : files.Keyed
  here : ∀ name ∈ files.here, IsName name
  named : ∀ e ∈ files.entries, ∀ name ∈ e.1, IsName name

theorem WellFormed.isName_of_mem_childNames (h : files.WellFormed) {name : String}
    (hname : name ∈ files.childNames place) : IsName name := by
  rw [childNames_eq, List.mem_filterMap] at hname
  obtain ⟨e, hmem, he⟩ := hname
  rw [nameIn?_eq_some_iff] at he
  exact h.named e hmem name (by simp [he])

/-! ### Where paths lead -/

/-- The names on the way of a path are those of files. -/
theorem isName_of_walk {here : Place} {parts : List String} (hhere : ∀ name ∈ here, IsName name)
    (hparts : ∀ part ∈ parts, IsPart part) (h : files.walk here parts = .ok place) :
    ∀ name ∈ place, IsName name := by
  induction parts generalizing here with
  | nil =>
      cases h
      exact hhere
  | cons part rest ih =>
      have hrest : ∀ part ∈ rest, IsPart part :=
        fun other hother => hparts other (List.mem_cons_of_mem part hother)
      rw [walk_cons_eq_ok_iff] at h
      split at h
      · exact ih hhere hrest h
      · rename_i hpart
        split at h
        · exact ih (fun name hname => hhere name (List.dropLast_subset here hname)) hrest h
        · rename_i habove
          obtain ⟨-, h⟩ := h
          obtain ⟨hslash, hnul⟩ := hparts part List.mem_cons_self
          have hthere : ∀ name ∈ here ++ [part], IsName name := by
            intro name hname
            rcases List.mem_append.mp hname with hname | hname
            · exact hhere name hname
            · rw [List.mem_singleton.mp hname]
              exact ⟨fun heq => hpart (Or.inl heq), fun heq => hpart (Or.inr heq), habove, hslash,
                hnul⟩
          split at h
          · rw [h]
            exact hthere
          · exact ih hthere hrest h.2

theorem WellFormed.begin? (h : files.WellFormed) (hnul : '\x00' ∉ path.toList) {start : Place}
    {parts : List String} (hbegin : files.begin? path = some (start, parts)) :
    (∀ name ∈ start, IsName name) ∧ ∀ part ∈ parts, IsPart part := by
  unfold Files.begin? at hbegin
  dsimp only at hbegin
  split at hbegin
  · cases hbegin
    exact ⟨by simp, fun part => isPart_of_mem_parts fun hmem => hnul (List.mem_of_mem_drop hmem)⟩
  · split at hbegin
    · contradiction
    · cases hbegin
      rw [← String.ofList_toList (s := path)]
      exact ⟨h.here, fun part => isPart_of_mem_parts hnul⟩

theorem WellFormed.isName_of_locate (h : files.WellFormed)
    (hlocated : files.locate path = .ok place) : ∀ name ∈ place, IsName name := by
  unfold locate at hlocated
  split at hlocated
  · contradiction
  rename_i hnul
  split at hlocated
  · contradiction
  split at hlocated
  · contradiction
  split at hlocated
  · contradiction
  rename_i hbegin
  obtain ⟨hstart, hparts⟩ := h.begin? hnul hbegin
  exact isName_of_walk hstart hparts hlocated

/-! ### What keeps a tree well-formed -/

theorem WellFormed.put (h : files.WellFormed) (hplace : ∀ name ∈ place, IsName name) (node : Node) :
    (files.put place node).WellFormed := by
  have hroot : (files.put place node).root = files.root := by
    unfold Files.put
    split <;> rfl
  have hhere : (files.put place node).here = files.here := by
    unfold Files.put
    split <;> rfl
  refine ⟨?_, h.keyed.put place node, ?_, ?_⟩
  · have hrooted := h.rooted
    unfold Rooted at hrooted ⊢
    rwa [hroot]
  · rw [hhere]
    exact h.here
  · intro e he
    unfold Files.put at he
    split at he
    · obtain ⟨old, hold, rfl⟩ := List.mem_map.mp he
      split
      · exact hplace
      · exact h.named old hold
    · rcases List.mem_append.mp he with hold | hnew
      · exact h.named e hold
      · rw [List.mem_singleton.mp hnew]
        exact hplace

theorem WellFormed.without (h : files.WellFormed) (place : Place) :
    (files.without place).WellFormed where
  rooted := h.rooted
  keyed := h.keyed.without place
  here := h.here
  named e he := h.named e (List.mem_filter.mp he).1

theorem WellFormed.writeContent (h : files.WellFormed) {content : Content}
    (hwritten : files.writeContent path content = .ok later) : later.WellFormed := by
  obtain ⟨place, hlocated, -, rfl⟩ := writeContent_eq_ok_iff.mp hwritten
  exact h.put (h.isName_of_locate hlocated) _

theorem WellFormed.removeFile (h : files.WellFormed)
    (hremoved : files.removeFile path = .ok later) : later.WellFormed := by
  unfold Files.removeFile at hremoved
  obtain ⟨place, -, hremoved⟩ := bind_eq_ok.mp hremoved
  split at hremoved
  · contradiction
  · contradiction
  · cases hremoved
    exact h.without place

theorem WellFormed.makeDirectory (h : files.WellFormed) {start : Place} {parts : List String}
    (hstart : ∀ name ∈ start, IsName name) (hparts : ∀ part ∈ parts, IsPart part)
    (hmade : files.makeDirectory start parts = .ok later) : later.WellFormed := by
  unfold Files.makeDirectory at hmade
  obtain ⟨place, hwalked, hmade⟩ := bind_eq_ok.mp hmade
  split at hmade
  · contradiction
  · cases hmade
    exact h.put (isName_of_walk hstart hparts hwalked) _

theorem WellFormed.ensureDirectory (h : files.WellFormed) {start : Place} {parts : List String}
    (hstart : ∀ name ∈ start, IsName name) (hparts : ∀ part ∈ parts, IsPart part)
    (hmade : files.ensureDirectory start parts = .ok later) : later.WellFormed := by
  unfold Files.ensureDirectory at hmade
  split at hmade
  · rename_i hcreated
    cases hmade
    exact h.makeDirectory hstart hparts hcreated
  · split at hmade
    · split at hmade
      · cases hmade
        exact h
      · contradiction
    · contradiction

theorem WellFormed.makeDirectoriesFrom (h : files.WellFormed) {start : Place} {parts : List String}
    (hstart : ∀ name ∈ start, IsName name) (hparts : ∀ part ∈ parts, IsPart part)
    (hmade : files.makeDirectoriesFrom start parts = .ok later) : later.WellFormed := by
  induction parts generalizing later with
  | nil =>
      cases hmade
      exact h
  | cons last before ih =>
      have hall : ∀ part ∈ (last :: before).reverse, IsPart part :=
        fun part hpart => hparts part (List.mem_reverse.mp hpart)
      have hbefore : ∀ part ∈ before, IsPart part :=
        fun part hpart => hparts part (List.mem_cons_of_mem last hpart)
      unfold Files.makeDirectoriesFrom at hmade
      dsimp only at hmade
      split at hmade
      · obtain ⟨halfway, hfirst, hmade⟩ := bind_eq_ok.mp hmade
        exact (ih hbefore hfirst).ensureDirectory hstart hall hmade
      · exact h.ensureDirectory hstart hall hmade

theorem WellFormed.makeDirectories (h : files.WellFormed)
    (hmade : files.makeDirectories path = .ok later) : later.WellFormed := by
  unfold Files.makeDirectories at hmade
  split at hmade
  · cases hmade
    exact h
  split at hmade
  · contradiction
  rename_i hnul
  split at hmade
  · contradiction
  split at hmade
  · contradiction
  rename_i hbegin
  obtain ⟨hstart, hparts⟩ := h.begin? hnul hbegin
  refine h.makeDirectoriesFrom hstart (fun part hpart => hparts part ?_) hmade
  exact (List.mem_filter.mp (List.mem_reverse.mp hpart)).1

end Files
end DatasetSync
