/-
A catalog written as a manifest is read back.

The reader of manifests is put in front of any layout of a catalog, with any text
behind, and the catalog comes out source by source.  So a file that holds a catalog,
as a compact text or over lines, loads as that catalog when it is valid, and otherwise
fails for the reason why it is not.
-/
import DatasetSync.Program
import DatasetSync.Proofs.Files.Tree
import DatasetSync.Proofs.Json.Reader
import DatasetSync.Proofs.Text.Utf8

namespace DatasetSync.Manifest

open Json (IsGap Lead Layout ItemsLayout FieldsLayout writeString)

variable {first : Bool} {lead behind gap text : List Char}

/-! ### One source -/

theorem readSourceFields_name (hlead : Lead first lead) (hbehind : IsGap behind)
    (hgap : IsGap gap) (fuel : Nat) (url : Option String) (name : String) (rest : List Char) :
    readSourceFields (fuel + 1) first none url (lead ++ ((writeString "name").toList ++
        (behind ++ ':' :: (gap ++ ((writeString name).toList ++ rest))))) =
      readSourceFields fuel false (some name) url rest := by
  simp [readSourceFields, Json.nextKey_lead hlead, Json.readColon_gap hbehind,
    Json.readText_writeString hgap]

theorem readSourceFields_url (hlead : Lead first lead) (hbehind : IsGap behind)
    (hgap : IsGap gap) (fuel : Nat) (name : Option String) (url : String) (rest : List Char) :
    readSourceFields (fuel + 1) first name none (lead ++ ((writeString "url").toList ++
        (behind ++ ':' :: (gap ++ ((writeString url).toList ++ rest))))) =
      readSourceFields fuel false name (some url) rest := by
  simp [readSourceFields, Json.nextKey_lead hlead, Json.readColon_gap hbehind,
    Json.readText_writeString hgap]

theorem readSourceFields_end (hgap : IsGap gap) (fuel : Nat) (first : Bool) (name url : String)
    (rest : List Char) :
    readSourceFields (fuel + 1) first (some name) (some url) (gap ++ '\x7d' :: rest) =
      .ok (⟨name, url⟩, rest) := by
  simp [readSourceFields, Json.nextKey_end hgap, finishSource, Json.endObject_brace]

theorem readSourceFields_layout {fuel : Nat} {s : Source} (hfuel : 2 < fuel)
    (h : FieldsLayout [("name", .string s.name), ("url", .string s.url)] text)
    (rest : List Char) :
    readSourceFields fuel true none none (text ++ '\x7d' :: rest) = .ok (s, rest) := by
  obtain ⟨left, rfl⟩ := Nat.exists_eq_add_of_lt hfuel
  cases h with
  | more hbefore hbehind hgap hname hafter hrest =>
  cases hname
  cases hrest with
  | more _ _ _ _ _ hrest => cases hrest
  | last hbefore' hbehind' hgap' hurl hafter' =>
  cases hurl
  have hurl := readSourceFields_url (.next hafter hbefore') hbehind' hgap'
  simp only [List.append_assoc, List.cons_append] at hurl ⊢
  rw [show 2 + left + 1 = left + 2 + 1 by omega,
    readSourceFields_name (.first hbefore) hbehind hgap, hurl, readSourceFields_end hafter']

/-- **A source is read back** from any layout of it. -/
theorem readSource_layout {s : Source} (h : Layout (sourceValue s) text) (rest : List Char) :
    readSource (text ++ rest) = .ok (s, rest) := by
  unfold sourceValue at h
  cases h with
  | @object _ text h =>
      have hlength := h.length_le
      rw [List.cons_append, List.append_assoc, List.singleton_append, readSource,
        Json.skipSpace_cons (by decide)]
      refine readSourceFields_layout ?_ h rest
      simp only [List.length_cons, List.length_nil, List.length_append] at hlength ⊢
      omega

/-! ### The list of sources -/

theorem readSourcesFrom_source {s : Source} (hlead : Lead first lead)
    (h : Layout (sourceValue s) text) (fuel : Nat) (done : List Source) (rest : List Char) :
    readSourcesFrom (fuel + 1) first done (lead ++ (text ++ rest)) =
      readSourcesFrom fuel false (s :: done) rest := by
  have hread := readSource_layout h rest
  unfold sourceValue at h
  cases h with
  | object h =>
      simp only [List.cons_append, List.append_assoc, List.nil_append] at hread ⊢
      rw [readSourcesFrom, Json.nextItem_lead hlead (by decide) (by decide) (by decide)]
      simp [hread]

theorem readSourcesFrom_end (hgap : IsGap gap) (fuel : Nat) (first : Bool)
    (done : List Source) (rest : List Char) :
    readSourcesFrom (fuel + 1) first done (gap ++ ']' :: rest) = .ok (done.reverse, rest) := by
  simp [readSourcesFrom, Json.nextItem_end hgap, Json.endList_bracket]

theorem readSourcesFrom_layout {catalog : Catalog} {fuel : Nat} (hfuel : catalog.length < fuel)
    (hlead : Lead first lead) (h : ItemsLayout (catalog.map sourceValue) text)
    (done : List Source) (rest : List Char) :
    readSourcesFrom fuel first done (lead ++ (text ++ ']' :: rest)) =
      .ok (done.reverse ++ catalog, rest) := by
  induction catalog generalizing first lead text fuel done with
  | nil => cases h
  | cons s catalog ih =>
      obtain ⟨left, rfl⟩ : ∃ left, fuel = left + 1 := ⟨fuel - 1, by omega⟩
      have hleft : catalog.length < left := Nat.lt_of_succ_lt_succ hfuel
      rw [List.map_cons] at h
      generalize hitems : catalog.map sourceValue = items at h
      cases h with
      | last hbefore h hafter =>
          obtain rfl := List.map_eq_nil_iff.mp hitems
          obtain ⟨more, rfl⟩ : ∃ more, left = more + 1 := ⟨left - 1, by omega⟩
          have hsource := readSourcesFrom_source (hlead.append hbefore) h
          simp only [List.append_assoc] at hsource ⊢
          rw [hsource, readSourcesFrom_end hafter, List.reverse_cons]
      | more hbefore h hafter hrest =>
          -- The comma behind this source leads to the next one.
          subst hitems
          have hsource := readSourcesFrom_source (hlead.append hbefore) h
          have hothers := ih hleft (.next hafter Json.isGap_nil) hrest (s :: done)
          simp only [List.append_assoc, List.cons_append, List.nil_append] at hsource hothers ⊢
          rw [hsource, hothers, List.reverse_cons, List.append_assoc, List.singleton_append]

/-- **The sources of a catalog are read back in their order** from any layout of it. -/
theorem readSources_layout {catalog : Catalog} (hgap : IsGap gap)
    (h : Layout (catalogValue catalog) text) (rest : List Char) :
    readSources (gap ++ (text ++ rest)) = .ok (catalog, rest) := by
  unfold catalogValue at h
  generalize hitems : catalog.map sourceValue = items at h
  cases h with
  | emptyArray hinside =>
      obtain rfl := List.map_eq_nil_iff.mp hitems
      simp only [List.cons_append, List.append_assoc, List.nil_append]
      rw [readSources, Json.skipSpace_gap_cons hgap (by decide)]
      exact readSourcesFrom_end hinside _ true [] rest
  | @array _ text h =>
      subst hitems
      have hlength := h.length_le
      simp only [List.cons_append, List.append_assoc, List.nil_append]
      rw [readSources, Json.skipSpace_gap_cons hgap (by decide)]
      refine readSourcesFrom_layout ?_ (.first Json.isGap_nil) h [] rest
      simp only [List.length_map, List.length_append, List.length_cons] at hlength ⊢
      omega

/-! ### The manifest -/

theorem readFields_sources {catalog : Catalog} (hlead : Lead first lead) (hbehind : IsGap behind)
    (hgap : IsGap gap) (h : Layout (catalogValue catalog) text) (fuel : Nat) (rest : List Char) :
    readFields (fuel + 1) first none (lead ++ ((writeString "sources").toList ++
        (behind ++ ':' :: (gap ++ (text ++ rest))))) =
      readFields fuel false (some catalog) rest := by
  simp [readFields, Json.nextKey_lead hlead, Json.readColon_gap hbehind,
    readSources_layout hgap h]

theorem readFields_end (hgap : IsGap gap) (fuel : Nat) (first : Bool) (catalog : Catalog)
    (rest : List Char) :
    readFields (fuel + 1) first (some catalog) (gap ++ '\x7d' :: rest) = .ok (catalog, rest) := by
  simp [readFields, Json.nextKey_end hgap, Json.endObject_brace]

theorem readFields_layout {catalog : Catalog} {fuel : Nat} (hfuel : 1 < fuel)
    (h : FieldsLayout [("sources", catalogValue catalog)] text) (rest : List Char) :
    readFields fuel true none (text ++ '\x7d' :: rest) = .ok (catalog, rest) := by
  obtain ⟨left, rfl⟩ := Nat.exists_eq_add_of_lt hfuel
  cases h with
  | more _ _ _ _ _ hrest => cases hrest
  | last hbefore hbehind hgap hsources hafter =>
  have hread := readFields_sources (.first hbefore) hbehind hgap hsources
  simp only [List.append_assoc, List.cons_append]
  rw [show 1 + left + 1 = left + 1 + 1 by omega, hread, readFields_end hafter]

theorem read_layout {catalog : Catalog} (h : Layout (value catalog) text) (rest : List Char) :
    read (text ++ rest) = .ok (catalog, rest) := by
  unfold value at h
  cases h with
  | @object _ text h =>
      have hlength := h.length_le
      rw [List.cons_append, List.append_assoc, List.singleton_append, read,
        Json.skipSpace_cons (by decide)]
      refine readFields_layout ?_ h rest
      simp only [List.length_cons, List.length_nil, List.length_append] at hlength ⊢
      omega

/-- **A manifest is read back** from any layout of it. -/
theorem parse_layout {catalog : Catalog} {text : String}
    (h : Layout (value catalog) text.toList) : parse text = .ok catalog := by
  have hread := read_layout h []
  rw [List.append_nil] at hread
  unfold parse
  refine mapError_eq_ok.mpr (bind_eq_ok.mpr ⟨(catalog, []), hread, ?_⟩)
  rfl

/-! ### The file -/

/-- A manifest in a file is loaded if its catalog is valid, and refused for the reason why it is not
otherwise. -/
theorem load_layout {files : Files} {path text : String} {catalog : Catalog}
    (hread : files.readText path = .ok text) (h : Layout (value catalog) text.toList) :
    Catalog.load files (some path) =
      match catalog.validate with
      | .ok () => .ok catalog
      | .error cause => .error ⟨[], cause⟩ := by
  simp only [Catalog.load, load, hread, parse_layout h, failWith]
  cases catalog.validate <;> rfl

/-- **A catalog that is written to a file loads from it**: as it is, with its sources in their order,
if it is valid, and otherwise with the very reason why it is not valid.  The texts of its sources may
be any, and the manifest may be compact or laid out over lines. -/
theorem load_of_write {files later : Files} {path text : String} {catalog : Catalog}
    (htext : text = Json.compact (value catalog) ∨ text = Json.pretty 0 (value catalog))
    (hwritten : files.write path (Text.Utf8.encode text) = .ok later) :
    (catalog.validate = .ok () → Catalog.load later (some path) = .ok catalog) ∧
      ∀ cause, catalog.validate = .error cause →
        Catalog.load later (some path) = .error ⟨[], cause⟩ := by
  have hlayout : Layout (value catalog) text.toList := by
    rcases htext with rfl | rfl
    · exact Json.layout_compact _
    · exact Json.layout_pretty 0 _
  rw [load_layout (Files.readText_write hwritten) hlayout]
  constructor
  · intro hvalid
    rw [hvalid]
  · intro cause hinvalid
    rw [hinvalid]

/-- A source whose address has a quote, a backslash, control characters and one of the characters
that take two code units. -/
def awkwardSource : Source :=
  ⟨"moves", "http://host/\"moves\"\\\n\x01😀.csv"⟩

/-- The source loads from a manifest over lines; twice in one manifest it is refused. -/
theorem load_awkwardSource :
    (∃ later, Files.write {} "sources.json"
        (Text.Utf8.encode (Json.pretty 0 (value [awkwardSource]))) = .ok later ∧
      Catalog.load later (some "sources.json") = .ok [awkwardSource]) ∧
    ∃ later, Files.write {} "sources.json"
        (Text.Utf8.encode (Json.compact (value [awkwardSource, awkwardSource]))) = .ok later ∧
      Catalog.load later (some "sources.json") = .error ⟨[], .duplicateSource "moves"⟩ := by
  have hwrite (bytes : List UInt8) : Files.write {} "sources.json" bytes =
      .ok (Files.put {} ["sources.json"] (.file (.bytes bytes))) :=
    Files.writeContent_eq_ok_iff.mpr ⟨["sources.json"], rfl, by decide, rfl⟩
  constructor
  · exact ⟨_, hwrite _, (load_of_write (.inr rfl) (hwrite _)).1 rfl⟩
  · exact ⟨_, hwrite _, (load_of_write (.inl rfl) (hwrite _)).2 _ rfl⟩

end DatasetSync.Manifest
