/-
Including and excluding the same names.

Both selections look the names up in the catalog before they choose anything, and in the
same way.  So they fail together, and over the same name: the first that the catalog does
not have.  Where all names are known, the catalog is dealt out between them.  Each of its
sources goes to one side only, in the catalog's order, and the side is decided by whether
the source's name is among the names.  How often it is among them, and where, plays no
part.
-/
import DatasetSync.Proofs.Results
import DatasetSync.Source.Selection

namespace DatasetSync

/-! ### Lists dealt out -/

/-- A list dealt out to two sides: each entry goes to one of them, and both keep the order. -/
inductive DealtOut {α : Type} : List α → List α → List α → Prop
  | nil : DealtOut [] [] []
  | left {x : α} {all left right : List α} (rest : DealtOut all left right) :
      DealtOut (x :: all) (x :: left) right
  | right {x : α} {all left right : List α} (rest : DealtOut all left right) :
      DealtOut (x :: all) left (x :: right)

/-- A test deals a list out: what passes it goes to one side, what does not to the other. -/
theorem dealtOut_filter {α : Type} (p : α → Bool) (all : List α) :
    DealtOut all (all.filter p) (all.filter fun x => !p x) := by
  induction all with
  | nil => exact .nil
  | cons x rest ih =>
      by_cases hx : p x = true
      · rw [List.filter_cons_of_pos hx, List.filter_cons_of_neg (by simp [hx])]
        exact .left ih
      · rw [List.filter_cons_of_neg hx, List.filter_cons_of_pos (by simp [hx])]
        exact .right ih

namespace Selection

variable {catalog : Catalog} {names : List String}

/-! ### Names that a catalog does not have -/

/-- The first of some names that is not the name of a source. -/
def FirstUnknown (catalog : Catalog) (names : List String) (name : String) : Prop :=
  ∃ before after, names = before ++ name :: after ∧ (∀ other ∈ before, other ∈ catalog.names) ∧
    name ∉ catalog.names

theorem isNone_get?_iff {name : String} :
    (catalog.get? name).isNone = true ↔ name ∉ catalog.names := by
  rw [Option.isNone_iff_eq_none, Catalog.get?, List.find?_eq_none, Catalog.names, List.mem_map]
  constructor
  · rintro hnone ⟨source, hsource, hname⟩
    exact hnone source hsource (beq_iff_eq.mpr hname)
  · intro hnew source hsource hname
    exact hnew ⟨source, hsource, beq_iff_eq.mp hname⟩

theorem unknownName?_eq_some_iff {name : String} :
    unknownName? catalog names = some name ↔ FirstUnknown catalog names name := by
  rw [unknownName?, List.find?_eq_some_iff_append, isNone_get?_iff]
  simp only [Bool.not_eq_true', Bool.eq_false_iff, ne_eq, isNone_get?_iff, Decidable.not_not]
  constructor
  · rintro ⟨hunknown, before, after, hnames, hbefore⟩
    exact ⟨before, after, hnames, hbefore, hunknown⟩
  · rintro ⟨before, after, hnames, hbefore, hunknown⟩
    exact ⟨hunknown, before, after, hnames, hbefore⟩

theorem unknownName?_eq_none_iff :
    unknownName? catalog names = none ↔ ∀ name ∈ names, name ∈ catalog.names := by
  rw [unknownName?, List.find?_eq_none]
  refine forall₂_congr fun name _ => ?_
  rw [isNone_get?_iff, Decidable.not_not]

/-! ### What is selected -/

/-- What is selected, without the line for the log. -/
def selected (selection : Selection) (catalog : Catalog) : Except Failure Catalog :=
  (selection.resolve catalog).map Prod.fst

/-- Over an unknown name both selections fail. -/
theorem selected_of_unknown {name : String} (h : FirstUnknown catalog names name) :
    selected { only := some names } catalog = failWith (.unknownSource name) ∧
      selected { without := some names } catalog = failWith (.unknownSource name) := by
  have hcheck : checkKnown catalog names = failWith (.unknownSource name) := by
    rw [checkKnown, unknownName?_eq_some_iff.mpr h]
  constructor
  · simp only [selected, resolve, including, hcheck]
    rfl
  · simp only [selected, resolve, excluding, hcheck]
    rfl

/-- Of known names each selection takes its side of the catalog. -/
theorem selected_of_known (h : ∀ name ∈ names, name ∈ catalog.names) :
    selected { only := some names } catalog =
        .ok (catalog.filter fun source => names.contains source.name) ∧
      selected { without := some names } catalog =
        .ok (catalog.filter fun source => !names.contains source.name) := by
  have hcheck : checkKnown catalog names = .ok () := by
    rw [checkKnown, unknownName?_eq_none_iff.mpr h]
  constructor
  · simp only [selected, resolve, including, hcheck]
    rfl
  · simp only [selected, resolve, excluding, hcheck]
    rfl

/-- **Including and excluding the same names are complementary.**  Either both fail over the first
name that the catalog does not have; or the catalog has all the names and is dealt out between the
two, its sources of these names to the one and the others to the other, and any list of the same
names deals it out in the same way. -/
theorem include_exclude_complementary (catalog : Catalog) (names : List String) :
    (∃ name, FirstUnknown catalog names name ∧
      selected { only := some names } catalog = failWith (.unknownSource name) ∧
      selected { without := some names } catalog = failWith (.unknownSource name)) ∨
    ((∀ name ∈ names, name ∈ catalog.names) ∧
      ∃ included excluded, DealtOut catalog included excluded ∧
        (∀ source ∈ included, source.name ∈ names) ∧
        (∀ source ∈ excluded, source.name ∉ names) ∧
        ∀ names' : List String, (∀ name, name ∈ names' ↔ name ∈ names) →
          selected { only := some names' } catalog = .ok included ∧
          selected { without := some names' } catalog = .ok excluded) := by
  cases hunknown : unknownName? catalog names with
  | some name =>
      have hfirst : FirstUnknown catalog names name := unknownName?_eq_some_iff.mp hunknown
      exact Or.inl ⟨name, hfirst, selected_of_unknown hfirst⟩
  | none =>
      have hknown := unknownName?_eq_none_iff.mp hunknown
      refine Or.inr ⟨hknown, _, _,
        dealtOut_filter (fun source => names.contains source.name) catalog, ?_, ?_, ?_⟩
      · intro source hsource
        simpa using (List.mem_filter.mp hsource).2
      · intro source hsource
        simpa using (List.mem_filter.mp hsource).2
      · intro names' hsame
        have hknown' : ∀ name ∈ names', name ∈ catalog.names :=
          fun name hname => hknown name ((hsame name).mp hname)
        have hcontains : ∀ name, names'.contains name = names.contains name := by
          intro name
          rw [Bool.eq_iff_iff, List.contains_iff_mem, List.contains_iff_mem]
          exact hsame name
        have hselected := selected_of_known hknown'
        simp only [hcontains] at hselected
        exact hselected

/-- A catalog that has one name twice. -/
def repeatedCatalog : Catalog :=
  [⟨"types", "https://a.example/types.csv"⟩, ⟨"stats", "https://a.example/stats.csv"⟩,
    ⟨"types", "https://b.example/types.csv"⟩, ⟨"moves", "https://a.example/moves.csv"⟩]

/-- The names of three of its sources in another order, one of them repeated, deal it out in the
same way. -/
theorem repeatedCatalog_dealt_out :
    ∃ included excluded, DealtOut repeatedCatalog included excluded ∧
      selected { only := some ["moves", "types", "moves"] } repeatedCatalog = .ok included ∧
      selected { without := some ["moves", "types", "moves"] } repeatedCatalog = .ok excluded ∧
      included.map Source.url = ["https://a.example/types.csv", "https://b.example/types.csv",
        "https://a.example/moves.csv"] ∧
      excluded = [⟨"stats", "https://a.example/stats.csv"⟩] := by
  have hknown : unknownName? repeatedCatalog ["types", "moves"] = none := by decide +kernel
  rcases include_exclude_complementary repeatedCatalog ["types", "moves"] with
    ⟨name, hfirst, -⟩ | ⟨-, included, excluded, hdealt, -, -, hselected⟩
  · rw [unknownName?_eq_some_iff.mpr hfirst] at hknown
    contradiction
  · obtain ⟨hincluded, hexcluded⟩ := hselected ["moves", "types", "moves"] (by grind)
    refine ⟨included, excluded, hdealt, hincluded, hexcluded, ?_, ?_⟩
    · cases hincluded
      decide +kernel
    · cases hexcluded
      decide +kernel

end Selection
end DatasetSync
