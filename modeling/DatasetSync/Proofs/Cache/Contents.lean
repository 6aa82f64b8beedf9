/-
What a cache keeps, apart from its files.

Under each name a cache keeps the bytes of a copy and the address that the copy is
recorded to come from, and either can be there without the other.  Its directory holds
these contents if the two files of each name hold the two, and nothing else is in it.

Each operation of the cache is then a small change of the contents: a copy is read off
them, storing sets the bytes and then the address of one name, and clearing leaves
nothing.
-/
import DatasetSync.Cache
import DatasetSync.Proofs.Files.Directory
import DatasetSync.Proofs.Names
import DatasetSync.Proofs.Text.Utf8

namespace DatasetSync.Cache

open Files (IsName Fits Stands)
open Text.Utf8 (encode encode_append)

variable {cache : Cache} {files later : Files} {place : Files.Place} {name : String}

/-! ### The names of the files -/

/-- What the names of the cache's files end in: those of the copies and those of the records. -/
def endings : List String := [".csv", ".url"]

theorem isName_append (h : isTableName name = true) {ending : String}
    (hending : ending ∈ endings) : IsName (name ++ ending) := by
  obtain ⟨c, rest, hname, -, hparts⟩ := toList_of_isTableName h
  have hnot : ∀ x, isNamePart x = false → x ∉ ending.toList → x ∉ (name ++ ending).toList := by
    intro x hx hend
    rw [String.toList_append, List.mem_append, not_or]
    exact ⟨fun hmem => by rw [hparts x hmem] at hx; contradiction, hend⟩
  have hlong : 4 < (name ++ ending).toList.length := by
    rw [String.toList_append, hname]
    simp only [endings, List.mem_cons, List.not_mem_nil, or_false] at hending
    rcases hending with rfl | rfl <;> simp
  have hslash : '/' ∉ ending.toList ∧ '\x00' ∉ ending.toList := by
    simp only [endings, List.mem_cons, List.not_mem_nil, or_false] at hending
    rcases hending with rfl | rfl <;> decide
  have hne : ∀ short : String, short.toList.length ≤ 4 → name ++ ending ≠ short := by
    intro short hshort heq
    rw [heq] at hlong
    exact absurd hlong (Nat.not_lt.mpr hshort)
  exact ⟨hne "" (by decide), hne "." (by decide), hne ".." (by decide),
    hnot '/' (by decide) hslash.1, hnot '\x00' nul_not_isNamePart hslash.2⟩

theorem length_of_mem_endings {ending : String} (h : ending ∈ endings) :
    ending.toList.length = 4 := by
  simp only [endings, List.mem_cons, List.not_mem_nil, or_false] at h
  rcases h with rfl | rfl <;> rfl

/-- The name of a file that the cache keeps. -/
def IsKept (child : String) : Prop :=
  ∃ name, isTableName name = true ∧ ∃ ending ∈ endings, child = name ++ ending

/-- No two names share a file, nor does a copy share one with a record. -/
theorem append_ending_inj {other ending ending' : String} (h : name ++ ending = other ++ ending')
    (hending : ending ∈ endings) (hending' : ending' ∈ endings) :
    name = other ∧ ending = ending' := by
  have hlists : name.toList ++ ending.toList = other.toList ++ ending'.toList := by
    rw [← String.toList_append, ← String.toList_append, h]
  have hlengths : ending.toList.length = ending'.toList.length := by
    rw [length_of_mem_endings hending, length_of_mem_endings hending']
  obtain ⟨hname, hend⟩ := List.append_inj' hlists hlengths
  exact ⟨String.toList_inj.mp hname, String.toList_inj.mp hend⟩

/-- The record of a name has a path as long as that of its copy. -/
theorem fits_url_iff (h : isTableName name = true) (directory : String) :
    Fits directory (name ++ ".url") ↔ Fits directory (name ++ ".csv") := by
  have hending : (encode ".url").length = (encode ".csv").length := by decide
  have hname : (encode (name ++ ".url")).length = (encode (name ++ ".csv")).length := by
    rw [encode_append, encode_append, List.length_append, List.length_append, hending]
  have hpath : (encode (Path.join directory (name ++ ".url"))).length =
      (encode (Path.join directory (name ++ ".csv"))).length := by
    unfold Path.join
    rw [Files.isAbsolute_eq_false (isName_append h (by decide)).no_slash,
      Files.isAbsolute_eq_false (isName_append h (by decide)).no_slash, if_neg Bool.false_ne_true,
      if_neg Bool.false_ne_true]
    split
    · rw [encode_append, List.length_append, hname, ← List.length_append, ← encode_append]
    · rw [encode_append, List.length_append, hname, ← List.length_append, ← encode_append]
  unfold Fits
  rw [hname, hpath]

/-- The ending is the extension by which the files are told. -/
theorem extension?_append (h : isTableName name = true) {ending : String}
    (hending : ending ∈ endings) :
    Path.extension? (name ++ ending) = some "csv" ∨
      Path.extension? (name ++ ending) = some "url" := by
  obtain ⟨c, rest, hname, -, -⟩ := toList_of_isTableName h
  have habove := (isName_append h hending).ne_above
  simp only [endings, List.mem_cons, List.not_mem_nil, or_false] at hending
  rcases hending with rfl | rfl
  · left
    simp [Path.extension?, hname, habove]
  · right
    simp [Path.extension?, hname, habove]

/-! ### Contents -/

/-- What a cache keeps: under each name the bytes of a copy and the address it is recorded to come
from. -/
@[ext]
structure Contents where
  copy : String → Option (List UInt8)
  origin : String → Option String

namespace Contents

/-- Nothing is kept. -/
def empty : Contents :=
  ⟨fun _ => none, fun _ => none⟩

/-- The contents with the bytes of one copy set. -/
def setCopy (contents : Contents) (name : String) (bytes : List UInt8) : Contents :=
  { contents with copy := fun other => if other = name then some bytes else contents.copy other }

/-- The contents with the address of one copy set. -/
def setOrigin (contents : Contents) (name url : String) : Contents :=
  { contents with origin := fun other => if other = name then some url else contents.origin other }

/-- The copy that is served for an address: the one under the name, if it is recorded to come from
there. -/
def served (contents : Contents) (name url : String) : Option (List UInt8) :=
  match contents.origin name with
  | some origin => if Text.trim origin = url then contents.copy name else none
  | none => none

/-- What the file of a name and an ending holds. -/
def held (contents : Contents) (name ending : String) : Option (List UInt8) :=
  if ending = ".csv" then contents.copy name
  else (contents.origin name).map encode

@[simp] theorem held_csv (contents : Contents) (name : String) :
    contents.held name ".csv" = contents.copy name := if_pos rfl

@[simp] theorem held_url (contents : Contents) (name : String) :
    contents.held name ".url" = (contents.origin name).map encode := if_neg (by decide)

theorem held_setCopy (contents : Contents) (name : String) (bytes : List UInt8)
    {other ending : String} (hending : ending ∈ endings) :
    (contents.setCopy name bytes).held other ending =
      if other = name ∧ ending = ".csv" then some bytes else contents.held other ending := by
  simp only [endings, List.mem_cons, List.not_mem_nil, or_false] at hending
  rcases hending with rfl | rfl <;> simp [setCopy]

theorem held_setOrigin (contents : Contents) (name url : String) {other ending : String}
    (hending : ending ∈ endings) :
    (contents.setOrigin name url).held other ending =
      if other = name ∧ ending = ".url" then some (encode url) else contents.held other ending := by
  simp only [endings, List.mem_cons, List.not_mem_nil, or_false] at hending
  rcases hending with rfl | rfl
  · simp [setOrigin]
  · by_cases hother : other = name <;> simp [setOrigin, hother]

end Contents

variable {contents : Contents}

/-- The cache's directory is there, its files hold the contents, and nothing else is in it. -/
structure Holds (cache : Cache) (place : Files.Place) (files : Files) (contents : Contents) :
    Prop where
  stands : files.Stands cache.directory place
  node : ∀ name, isTableName name = true → ∀ ending ∈ endings,
    files.node? (place ++ [name ++ ending]) =
      (contents.held name ending).map fun bytes => .file (.bytes bytes)
  only : ∀ child node, files.node? (place ++ [child]) = some node →
    Fits cache.directory child ∧ IsKept child

/-- An empty directory holds empty contents. -/
theorem holds_empty (h : files.Stands cache.directory place)
    (hempty : ∀ child, files.node? (place ++ [child]) = none) :
    cache.Holds place files Contents.empty where
  stands := h
  node name _ ending _ := by
    rw [hempty]
    simp [Contents.held, Contents.empty]
  only child node hnode := by
    rw [hempty] at hnode
    contradiction

/-- The cache's directory is there, and nothing is in it. -/
def IsEmpty (cache : Cache) (files : Files) : Prop :=
  ∃ place, files.Stands cache.directory place ∧ ∀ child, files.node? (place ++ [child]) = none

theorem IsEmpty.holds (h : cache.IsEmpty files) :
    ∃ place, cache.Holds place files Contents.empty := by
  obtain ⟨place, hstands, hnone⟩ := h
  exact ⟨place, holds_empty hstands hnone⟩

/-- A directory for a cache, with nothing in it. -/
def emptyCache : Files where
  entries := [(["cache"], .directory)]

theorem isEmpty_emptyCache : Cache.IsEmpty ⟨"cache"⟩ emptyCache := by
  refine ⟨["cache"], ⟨Or.inl (by decide), by decide, by rfl, rfl⟩, fun child => ?_⟩
  simp [Files.node?, emptyCache, List.lookup_cons]

/-- What comes last in a list is the last of its kind. -/
theorem find?_reverse_concat {α : Type} (p : α → Bool) (items : List α) (item : α) :
    (items ++ [item]).reverse.find? p =
      if p item = true then some item else items.reverse.find? p := by
  rw [List.reverse_append, List.reverse_singleton, List.singleton_append, List.find?_cons]
  cases p item <;> rfl

/-! ### Reading -/

theorem Holds.fits (h : cache.Holds place files contents) (hname : isTableName name = true)
    {ending : String} (hending : ending ∈ endings) {bytes : List UInt8}
    (hheld : contents.held name ending = some bytes) : Fits cache.directory (name ++ ending) := by
  have hnode := h.node name hname ending hending
  rw [hheld] at hnode
  exact (h.only _ _ hnode).1

/-- What is held is found at the path of its file. -/
theorem Holds.find_of_held (h : cache.Holds place files contents) (hname : isTableName name = true)
    {ending : String} (hending : ending ∈ endings) {bytes : List UInt8}
    (hheld : contents.held name ending = some bytes) :
    files.find (Path.join cache.directory (name ++ ending)) = .ok (.file (.bytes bytes)) := by
  rw [h.stands.find_join (isName_append hname hending), if_pos (h.fits hname hending hheld),
    h.node name hname ending hending, hheld]
  rfl

/-- What is not held is not found. -/
theorem Holds.find_of_not_held (h : cache.Holds place files contents)
    (hname : isTableName name = true) {ending : String} (hending : ending ∈ endings)
    (hheld : contents.held name ending = none) :
    files.find (Path.join cache.directory (name ++ ending)) =
      .error (if Fits cache.directory (name ++ ending) then .notFound else .nameTooLong) := by
  rw [h.stands.find_join (isName_append hname hending), h.node name hname ending hending, hheld]
  split <;> rfl

theorem Holds.isFile_csvPath (h : cache.Holds place files contents)
    (hname : isTableName name = true) :
    files.isFile (cache.csvPath name) = (contents.copy name).isSome := by
  unfold Files.isFile csvPath
  cases hheld : contents.held name ".csv" with
  | none =>
      rw [h.find_of_not_held hname (by decide) hheld]
      rw [Contents.held_csv] at hheld
      simp [hheld]
  | some bytes =>
      rw [h.find_of_held hname (by decide) hheld]
      rw [Contents.held_csv] at hheld
      simp [hheld]

theorem Holds.read_csvPath (h : cache.Holds place files contents) (hname : isTableName name = true)
    {bytes : List UInt8} (hcopy : contents.copy name = some bytes) :
    files.read (cache.csvPath name) = .ok bytes := by
  unfold Files.read csvPath
  rw [h.find_of_held hname (by decide) ((contents.held_csv name).trans hcopy)]
  rfl

/-- Where there is a copy, its record is only missing if nothing is recorded. -/
theorem Holds.readText_urlPath (h : cache.Holds place files contents)
    (hname : isTableName name = true) {bytes : List UInt8}
    (hcopy : contents.copy name = some bytes) :
    files.readText (cache.urlPath name) =
      match contents.origin name with
      | some origin => .ok origin
      | none => .error .notFound := by
  unfold Files.readText Files.read urlPath
  cases horigin : contents.origin name with
  | none =>
      have hheld : contents.held name ".url" = none := by simp [horigin]
      have hfits := h.fits hname (by decide) ((contents.held_csv name).trans hcopy)
      rw [h.find_of_not_held hname (by decide) hheld,
        if_pos ((fits_url_iff hname cache.directory).mpr hfits)]
      rfl
  | some origin =>
      have hheld : contents.held name ".url" = some (encode origin) := by simp [horigin]
      rw [h.find_of_held hname (by decide) hheld]
      simp [Text.Utf8.decode_encode]

/-- **A copy is read off the contents.** -/
theorem Holds.read (h : cache.Holds place files contents) (hname : isTableName name = true)
    (url : String) : (cache.read files name url).1 = .ok (contents.served name url) := by
  unfold Cache.read Contents.served
  rw [h.isFile_csvPath hname]
  cases hcopy : contents.copy name with
  | none => cases contents.origin name <;> simp
  | some bytes =>
      rw [h.readText_urlPath hname hcopy, h.read_csvPath hname hcopy]
      cases contents.origin name with
      | none => simp
      | some origin => by_cases hfrom : Text.trim origin = url <;> simp [hfrom]

/-! ### Storing -/

/-- Writing one of the cache's files sets what it holds, and nothing else. -/
theorem Holds.write (h : cache.Holds place files contents) (hname : isTableName name = true)
    {ending : String} (hending : ending ∈ endings) {bytes : List UInt8}
    (hwritten : files.write (Path.join cache.directory (name ++ ending)) bytes = .ok later)
    {after : Contents}
    (hafter : ∀ other, ∀ ending' ∈ endings, after.held other ending' =
      if other = name ∧ ending' = ending then some bytes else contents.held other ending') :
    cache.Holds place later after := by
  obtain ⟨hfits, hstands, hnode⟩ := h.stands.write_join (isName_append hname hending) hwritten
  refine ⟨hstands, ?_, ?_⟩
  · intro other hother ending' hending'
    rw [hnode, hafter other ending' hending']
    by_cases hsame : other = name ∧ ending' = ending
    · obtain ⟨rfl, rfl⟩ := hsame
      simp
    · have hne : place ++ [other ++ ending'] ≠ place ++ [name ++ ending] := by
        intro heq
        exact hsame (append_ending_inj (by simpa using heq) hending' hending)
      rw [if_neg hne, if_neg hsame, h.node other hother ending' hending']
  · intro child node hchild
    rw [hnode] at hchild
    split at hchild
    · rename_i heq
      have heq : child = name ++ ending := by simpa using heq
      exact heq ▸ ⟨hfits, name, hname, ending, hending, rfl⟩
    · exact h.only child node hchild

theorem Holds.write_csvPath (h : cache.Holds place files contents)
    (hname : isTableName name = true) {bytes : List UInt8}
    (hwritten : files.write (cache.csvPath name) bytes = .ok later) :
    cache.Holds place later (contents.setCopy name bytes) :=
  h.write hname (by decide) hwritten fun _ _ => contents.held_setCopy name bytes

theorem Holds.write_urlPath (h : cache.Holds place files contents)
    (hname : isTableName name = true) {url : String}
    (hwritten : files.write (cache.urlPath name) (encode url) = .ok later) :
    cache.Holds place later (contents.setOrigin name url) :=
  h.write hname (by decide) hwritten fun _ _ => contents.held_setOrigin name url

/-- **What was stored is kept with its address**, and nothing else has changed. -/
theorem Holds.store (h : cache.Holds place files contents) (hname : isTableName name = true)
    {url : String} {bytes : List UInt8}
    (hstored : cache.store files name url bytes = (.ok (), later)) :
    cache.Holds place later ((contents.setCopy name bytes).setOrigin name url) := by
  unfold Cache.store at hstored
  split at hstored
  · cases hstored
  · rename_i halfway hcopied
    split at hstored
    · cases hstored
    · rename_i stored hrecorded
      cases hstored
      exact (h.write_csvPath hname hcopied).write_urlPath hname hrecorded

/-! ### Clearing -/

/-- Clearing takes a file of the name away: it has the extension of a copy or of a record, and its
path is not too long. -/
def Clears (cache : Cache) (child : String) : Prop :=
  Fits cache.directory child ∧
    (Path.extension? child = some "csv" ∨ Path.extension? child = some "url")

/-- What stands there is a file of one of the names in the directory, and clearing takes it away. -/
def TakesAway (cache : Cache) (place : Files.Place) (children : List String) (there : Files.Place)
    (node : Files.Node) : Prop :=
  ∃ child ∈ children, ∃ content,
    there = place ++ [child] ∧ node = .file content ∧ cache.Clears child

/-- The path of the name leads to a file that is counted as a copy. -/
def isCounted (cache : Cache) (files : Files) (child : String) : Bool :=
  files.isFile (Path.join cache.directory child) && Path.extension? child == some "csv"

/-- Where the path of a name leads to no file to be taken away, nothing there is. -/
theorem takesAway_cons_of_stays {first : String} {rest : List String} {there : Files.Place}
    {node : Files.Node} (hstands : files.Stands cache.directory place) (hfirst : IsName first)
    (hstays : ¬(files.isFile (Path.join cache.directory first) = true ∧
      (Path.extension? first = some "csv" ∨ Path.extension? first = some "url")))
    (hnode : files.node? there = some node) :
    cache.TakesAway place (first :: rest) there node ↔ cache.TakesAway place rest there node := by
  constructor
  · rintro ⟨child, hchild, content, rfl, rfl, hfits, hextension⟩
    rcases List.mem_cons.mp hchild with rfl | hrest
    · exact absurd ⟨(hstands.isFile_join_iff hfirst).mpr ⟨hfits, content, hnode⟩, hextension⟩ hstays
    · exact ⟨child, hrest, content, rfl, rfl, hfits, hextension⟩
  · rintro ⟨child, hchild, htaken⟩
    exact ⟨child, List.mem_cons_of_mem first hchild, htaken⟩

/-- Where the file of a name was taken away, the other names are taken away or stay as before. -/
theorem takesAway_cons_of_goes {first : String} {rest : List String} {next : Files}
    {content : Files.Content} (hfile : files.node? (place ++ [first]) = some (.file content))
    (hclears : cache.Clears first)
    (hnext : ∀ other, next.node? other =
      if other = place ++ [first] then none else files.node? other)
    (there : Files.Place) (node : Files.Node) :
    next.node? there = some node ∧ ¬cache.TakesAway place rest there node ↔
      files.node? there = some node ∧ ¬cache.TakesAway place (first :: rest) there node := by
  rw [hnext]
  by_cases hthere : there = place ++ [first]
  · subst hthere
    rw [if_pos rfl, hfile]
    constructor
    · rintro ⟨hnone, -⟩
      contradiction
    · rintro ⟨hnode, hstays⟩
      cases hnode
      exact absurd ⟨first, List.mem_cons_self, content, rfl, rfl, hclears⟩ hstays
  · simp [TakesAway, hthere]

/-- A name whose file stays where it is counts as before. -/
theorem isCounted_congr {next : Files} {child : String}
    (hstands : files.Stands cache.directory place) (hnext : next.Stands cache.directory place)
    (hname : IsName child)
    (hnode : next.node? (place ++ [child]) = files.node? (place ++ [child])) :
    cache.isCounted next child = cache.isCounted files child := by
  have hfile : next.isFile (Path.join cache.directory child) =
      files.isFile (Path.join cache.directory child) := by
    rw [Bool.eq_iff_iff, hnext.isFile_join_iff hname, hstands.isFile_join_iff hname, hnode]
  rw [isCounted, isCounted, hfile]

/-- Clearing goes through some names of the directory: of these, the copies and the records are
taken away, and everything else stays. -/
theorem clearNames_spec {children : List String} (hstands : files.Stands cache.directory place)
    (hnames : ∀ child ∈ children, IsName child) (hnodup : children.Nodup) (removed : Nat) :
    ∃ later, cache.clearNames removed children files =
        (.ok (removed + children.countP (cache.isCounted files)), later) ∧
      later.Stands cache.directory place ∧
      ∀ there node, later.node? there = some node ↔
        files.node? there = some node ∧ ¬cache.TakesAway place children there node := by
  induction children generalizing files removed with
  | nil => exact ⟨files, rfl, hstands, fun there node => by simp [TakesAway]⟩
  | cons first rest ih =>
      obtain ⟨hnew, hrest⟩ := List.nodup_cons.mp hnodup
      have hfirst := hnames first List.mem_cons_self
      have hothers : ∀ child ∈ rest, IsName child :=
        fun child hchild => hnames child (List.mem_cons_of_mem first hchild)
      rw [clearNames]
      split
      · rename_i hgoes
        obtain ⟨hfits, content, hfile⟩ := (hstands.isFile_join_iff hfirst).mp hgoes.1
        obtain ⟨next, hremoved, hnextStands, hnext⟩ := hstands.removeFile_join hfirst hfits hfile
        obtain ⟨later, hcleared, hlaterStands, hlater⟩ := ih hnextStands hothers hrest
          (if Path.extension? first = some "csv" then removed + 1 else removed)
        have hcounted : rest.countP (cache.isCounted next) =
            rest.countP (cache.isCounted files) := by
          refine List.countP_congr fun child hchild => ?_
          rw [isCounted_congr hstands hnextStands (hothers child hchild)]
          rw [hnext, if_neg (by simpa using ne_of_mem_of_not_mem hchild hnew)]
        refine ⟨later, ?_, hlaterStands, fun there node => ?_⟩
        · rw [hremoved]
          dsimp only
          rw [hcleared, hcounted, List.countP_cons, isCounted, hgoes.1]
          by_cases hcopy : Path.extension? first = some "csv"
          · simp [hcopy, Nat.add_assoc, Nat.add_comm 1]
          · simp [hcopy]
        · rw [hlater, takesAway_cons_of_goes hfile ⟨hfits, hgoes.2⟩ hnext]
      · rename_i hstays
        obtain ⟨later, hcleared, hlaterStands, hlater⟩ := ih hstands hothers hrest removed
        refine ⟨later, ?_, hlaterStands, fun there node => ?_⟩
        · have hnot : cache.isCounted files first = false := by
            rw [Bool.eq_false_iff]
            intro hcounted
            rw [isCounted, Bool.and_eq_true, beq_iff_eq] at hcounted
            exact hstays ⟨hcounted.1, Or.inl hcounted.2⟩
          rw [hcleared, List.countP_cons, hnot]
          simp
        · rw [hlater]
          exact and_congr_right fun hnode =>
            not_congr (takesAway_cons_of_stays hstands hfirst hstays hnode).symm

/-- **Clearing takes away the copies and the records of a directory and nothing else**, and it
succeeds. -/
theorem clear_spec (hstands : files.Stands cache.directory place)
    (hnames : ∀ child ∈ files.childNames place, IsName child) :
    ∃ later, cache.clear files =
        (.ok ((files.childNames place).countP (cache.isCounted files)), later) ∧
      later.Stands cache.directory place ∧
      ∀ there node, later.node? there = some node ↔
        files.node? there = some node ∧
          ¬cache.TakesAway place (files.childNames place) there node := by
  obtain ⟨later, hcleared, hlater⟩ :=
    clearNames_spec hstands hnames (hstands.keyed.nodup_childNames place) 0
  refine ⟨later, ?_, hlater⟩
  rw [clear, hstands.located]
  dsimp only
  rw [hstands.there]
  simpa using hcleared

theorem IsKept.isName {child : String} (h : IsKept child) : IsName child := by
  obtain ⟨name, hname, ending, hending, rfl⟩ := h
  exact isName_append hname hending

theorem IsKept.extension? {child : String} (h : IsKept child) :
    Path.extension? child = some "csv" ∨ Path.extension? child = some "url" := by
  obtain ⟨name, hname, ending, hending, rfl⟩ := h
  exact extension?_append hname hending

/-- What is in the directory is a file that clearing takes away. -/
theorem Holds.file_of_child (h : cache.Holds place files contents) {child : String}
    {node : Files.Node} (hnode : files.node? (place ++ [child]) = some node) :
    IsName child ∧ cache.Clears child ∧ ∃ content, node = .file content := by
  obtain ⟨hfits, hkept⟩ := h.only child node hnode
  refine ⟨hkept.isName, ⟨hfits, hkept.extension?⟩, ?_⟩
  obtain ⟨name, hname, ending, hending, rfl⟩ := hkept
  rw [h.node name hname ending hending] at hnode
  obtain ⟨bytes, -, rfl⟩ := Option.map_eq_some_iff.mp hnode
  exact ⟨_, rfl⟩

/-- **Clearing leaves nothing**, and it succeeds. -/
theorem Holds.clear (h : cache.Holds place files contents) :
    ∃ count later, cache.clear files = (.ok count, later) ∧
      cache.Holds place later Contents.empty := by
  have hnames : ∀ child ∈ files.childNames place, IsName child := by
    intro child hchild
    obtain ⟨node, hnode⟩ := Files.mem_childNames.mp hchild
    exact (h.file_of_child hnode).1
  obtain ⟨later, hcleared, hstands, hlater⟩ := clear_spec h.stands hnames
  refine ⟨_, later, hcleared, holds_empty hstands fun child => ?_⟩
  refine Option.eq_none_iff_forall_ne_some.mpr fun node hleft => ?_
  obtain ⟨hnode, hstays⟩ := (hlater _ _).mp hleft
  obtain ⟨-, hclears, content, rfl⟩ := h.file_of_child hnode
  exact hstays ⟨child, Files.mem_childNames.mpr ⟨_, hnode⟩, content, rfl, rfl, hclears⟩

end DatasetSync.Cache
