/-
What an inferred schema says about the cells it was inferred from.

Cells are observed one after the other, and after each the sighting covers the
cells so far: it has counted them and knows whether all present ones are whole and
whether all are numbers.  Not looking at cells behind one that is no number is
sound because such a cell is not whole either.

What a column is inferred to be follows a rule that only asks what is among its
cells: whether some are present, whether some are missing, and whether all present
ones are literals of a kind.  So the order of the rows plays no part, the type of
an inferred column is one that each of its cells can be read as, and a required
column has no cell that is missing.
-/
import DatasetSync.Proofs.Number.Literal
import DatasetSync.Schema

namespace DatasetSync.Schema

/-- The cell can be read as a whole number. -/
def IsWhole (cell : String) : Prop :=
  ∃ n, Number.parseWhole cell = some n

/-- The cell can be read as a number. -/
def IsNumber (cell : String) : Prop :=
  ∃ x, Number.parseReal cell = some x

theorem IsWhole.isNumber {cell : String} (h : IsWhole cell) : IsNumber cell := by
  obtain ⟨n, hn⟩ := h
  exact Number.parseReal_of_parseWhole hn

/-- Something holds of all cells that are present. -/
def EachPresent (p : String → Prop) (cells : List (Option String)) : Prop :=
  ∀ cell, some cell ∈ cells → p cell

theorem EachPresent.mono {p q : String → Prop} {cells : List (Option String)}
    (h : EachPresent p cells) (hpq : ∀ cell, p cell → q cell) : EachPresent q cells :=
  fun cell hcell => hpq cell (h cell hcell)

theorem eachPresent_concat_none {p : String → Prop} {cells : List (Option String)} :
    EachPresent p (cells ++ [none]) ↔ EachPresent p cells := by
  simp [EachPresent]

theorem eachPresent_concat_some {p : String → Prop} {cells : List (Option String)}
    {cell : String} : EachPresent p (cells ++ [some cell]) ↔ EachPresent p cells ∧ p cell := by
  simp only [EachPresent, List.mem_append, List.mem_singleton, Option.some.injEq]
  constructor
  · intro h
    exact ⟨fun other hother => h other (.inl hother), h cell (.inr rfl)⟩
  · rintro ⟨hold, hnew⟩ other (hother | rfl)
    · exact hold other hother
    · exact hnew

namespace Sighting

/-! ### Observing -/

/-- A sighting says what there is to say about some cells. -/
structure Covers (seen : Sighting) (cells : List (Option String)) : Prop where
  present : seen.present = cells.countP Option.isSome
  missing : seen.missing = cells.countP Option.isNone
  allWhole : seen.allWhole = true ↔ EachPresent IsWhole cells
  allNumeric : seen.allNumeric = true ↔ EachPresent IsNumber cells

theorem covers_nil : Covers {} [] := by
  constructor <;> simp [EachPresent]

/-- One more cell is observed. -/
theorem Covers.observe {seen : Sighting} {cells : List (Option String)}
    (h : Covers seen cells) (cell : Option String) :
    Covers (seen.observe cell) (cells ++ [cell]) := by
  obtain ⟨hpresent, hmissing, hwhole, hnumeric⟩ := h
  cases cell with
  | none =>
      refine ⟨?_, ?_, ?_, ?_⟩
      · simp [Sighting.observe, hpresent]
      · simp [Sighting.observe, hmissing]
      · simpa [Sighting.observe, eachPresent_concat_none] using hwhole
      · simpa [Sighting.observe, eachPresent_concat_none] using hnumeric
  | some cell =>
      have hcount : seen.present + 1 = (cells ++ [some cell]).countP Option.isSome := by
        simp [hpresent]
      have hsame : seen.missing = (cells ++ [some cell]).countP Option.isNone := by
        simp [hmissing]
      simp only [Sighting.observe]
      split
      · -- An earlier cell was no number, so it was not whole either.
        rename_i hno
        have hnot : ¬EachPresent IsNumber cells := by
          intro hall
          exact absurd hno (by simp [hnumeric.mpr hall])
        refine ⟨hcount, hsame, ?_, ?_⟩
        · rw [eachPresent_concat_some, hwhole]
          constructor
          · intro hall
            exact absurd (hall.mono fun _ => IsWhole.isNumber) hnot
          · exact And.left
        · rw [eachPresent_concat_some, hnumeric]
          constructor
          · intro hall
            exact absurd hall hnot
          · exact And.left
      · rename_i hyes
        have hall : EachPresent IsNumber cells := hnumeric.mp (by simpa using hyes)
        split
        · rename_i hparsed
          obtain ⟨n, hn⟩ := Option.isSome_iff_exists.mp hparsed
          refine ⟨hcount, hsame, ?_, ?_⟩
          · rw [eachPresent_concat_some, hwhole]
            exact ⟨fun hold => ⟨hold, n, hn⟩, And.left⟩
          · rw [eachPresent_concat_some, hnumeric]
            exact ⟨fun hold => ⟨hold, IsWhole.isNumber ⟨n, hn⟩⟩, And.left⟩
        · rename_i hparsed
          refine ⟨hcount, hsame, ?_, ?_⟩
          · rw [eachPresent_concat_some]
            constructor
            · intro hfalse
              exact absurd hfalse Bool.false_ne_true
            · rintro ⟨-, n, hn⟩
              rw [hn] at hparsed
              exact absurd rfl hparsed
          · simp only [eachPresent_concat_some, Option.isSome_iff_exists]
            exact ⟨fun hreal => ⟨hall, hreal⟩, And.right⟩

theorem Covers.foldl_observe {seen : Sighting} {cells : List (Option String)}
    (h : Covers seen cells) (more : List (Option String)) :
    Covers (more.foldl Sighting.observe seen) (cells ++ more) := by
  induction more generalizing seen cells with
  | nil => simpa using h
  | cons cell rest ih =>
      have := ih (h.observe cell)
      rwa [List.append_assoc, List.singleton_append] at this

end Sighting

/-- Observing all cells of a column covers them. -/
theorem covers_cells (cells : List (Option String)) :
    Sighting.Covers (cells.foldl Sighting.observe {}) cells :=
  Sighting.covers_nil.foldl_observe cells

/-! ### The rule for a column -/

/-- Some cell is present. -/
def SomePresent (cells : List (Option String)) : Prop :=
  ∃ cell, some cell ∈ cells

/-- The cell is a whole-number literal between its blanks. -/
def IsWholeLiteral (cell : String) : Prop :=
  ∃ n, Number.WholeLiteral (Text.trim cell).toList n

/-- The cell is a real literal between its blanks, and so no spelling of "not a number". -/
def IsRealLiteral (cell : String) : Prop :=
  Number.RealLiteral (Text.trim cell).toList

/-- Some cell is present, and all present ones are whole-number literals. -/
def CallsForInteger (cells : List (Option String)) : Prop :=
  SomePresent cells ∧ EachPresent IsWholeLiteral cells

/-- All present cells are real literals and one of them is no whole-number literal, or there are
cells and none is present. -/
def CallsForReal (cells : List (Option String)) : Prop :=
  (EachPresent IsRealLiteral cells ∧ ∃ cell, some cell ∈ cells ∧ ¬IsWholeLiteral cell) ∨
    cells ≠ [] ∧ ¬SomePresent cells

/-- The column is the one that the rule gives for some cells. -/
structure MeetsRule (c : Column) (cells : List (Option String)) : Prop where
  integer : c.type = .integer ↔ CallsForInteger cells
  real : c.type = .real ↔ CallsForReal cells
  text : c.type = .text ↔ ¬CallsForInteger cells ∧ ¬CallsForReal cells
  required : c.nullable = false ↔ cells ≠ [] ∧ none ∉ cells

theorem isWhole_iff {cell : String} : IsWhole cell ↔ IsWholeLiteral cell := by
  simp only [IsWhole, IsWholeLiteral, Number.parseWhole_eq_some_iff]

theorem isNumber_iff {cell : String} : IsNumber cell ↔ IsRealLiteral cell :=
  Number.exists_parseReal_iff

theorem eachPresent_congr {p q : String → Prop} {cells : List (Option String)}
    (h : ∀ cell, p cell ↔ q cell) : EachPresent p cells ↔ EachPresent q cells := by
  simp only [EachPresent, h]

theorem callsForReal_iff {cells : List (Option String)} :
    CallsForReal cells ↔
      (EachPresent IsRealLiteral cells ∧ ¬EachPresent IsWholeLiteral cells) ∨
        cells ≠ [] ∧ ¬SomePresent cells := by
  simp only [CallsForReal, EachPresent, not_forall, exists_prop]

section

variable {seen : Sighting} {cells : List (Option String)}

theorem Sighting.Covers.present_eq_zero_iff (h : Covers seen cells) :
    seen.present = 0 ↔ ¬SomePresent cells := by
  rw [h.present, List.countP_eq_zero]
  constructor
  · rintro hnone ⟨cell, hcell⟩
    exact hnone (some cell) hcell rfl
  · intro hnone cell hcell hsome
    obtain ⟨text, rfl⟩ := Option.isSome_iff_exists.mp hsome
    exact hnone ⟨text, hcell⟩

theorem Sighting.Covers.missing_eq_zero_iff (h : Covers seen cells) :
    seen.missing = 0 ↔ none ∉ cells := by
  rw [h.missing, List.countP_eq_zero]
  constructor
  · intro hnone hcell
    exact hnone none hcell rfl
  · intro hnone cell hcell hmissing
    rw [Option.isNone_iff_eq_none.mp hmissing] at hcell
    exact hnone hcell

/-- There is no cell if none is present and none is missing. -/
theorem eq_nil_iff : cells = [] ↔ ¬SomePresent cells ∧ none ∉ cells := by
  constructor
  · rintro rfl
    simp [SomePresent]
  · rintro ⟨hpresent, hmissing⟩
    refine List.eq_nil_iff_forall_not_mem.mpr fun cell hcell => ?_
    cases cell with
    | none => exact hmissing hcell
    | some text => exact hpresent ⟨text, hcell⟩

/-- **What was seen calls for the column that the rule gives.** -/
theorem Sighting.Covers.meetsRule (h : Covers seen cells) (name : String) :
    MeetsRule ⟨name, seen.type, seen.nullable⟩ cells := by
  have hpresent : SomePresent cells ↔ seen.present ≠ 0 := by
    rw [Ne, h.present_eq_zero_iff, not_not]
  have hempty : cells ≠ [] ↔ ¬(seen.present = 0 ∧ seen.missing = 0) := by
    rw [Ne, eq_nil_iff, h.present_eq_zero_iff, h.missing_eq_zero_iff]
  have hwhole : EachPresent IsWholeLiteral cells ↔ seen.allWhole = true :=
    (h.allWhole.trans (eachPresent_congr fun _ => isWhole_iff)).symm
  have hnumeric : EachPresent IsRealLiteral cells ↔ seen.allNumeric = true :=
    (h.allNumeric.trans (eachPresent_congr fun _ => isNumber_iff)).symm
  -- Where no cell is present, all of them are whole.
  have hnone : seen.present = 0 → seen.allWhole = true := by
    intro hzero
    rw [← hwhole]
    intro cell hcell
    exact absurd ⟨cell, hcell⟩ (h.present_eq_zero_iff.mp hzero)
  have hinteger : seen.type = .integer ↔ CallsForInteger cells := by
    rw [CallsForInteger, hpresent, hwhole]
    unfold Sighting.type
    split_ifs <;> simp_all
  have hreal : seen.type = .real ↔ CallsForReal cells := by
    rw [callsForReal_iff, hempty, hpresent, hwhole, hnumeric]
    unfold Sighting.type
    split_ifs <;> simp_all
  have htext : seen.type = .text ↔ ¬CallsForInteger cells ∧ ¬CallsForReal cells := by
    rw [← hinteger, ← hreal]
    cases seen.type <;> simp
  refine ⟨hinteger, hreal, htext, ?_⟩
  rw [hempty, ← h.missing_eq_zero_iff]
  simp only [Sighting.nullable, Bool.or_eq_false_iff, beq_eq_false_iff_ne, decide_eq_false_iff_not]
  omega

theorem inferColumn_meetsRule (name : String) (cells : List (Option String)) :
    MeetsRule (inferColumn name cells) cells :=
  (covers_cells cells).meetsRule name

/-- The rule leaves no choice. -/
theorem MeetsRule.unique {c c' : Column} (h : MeetsRule c cells) (h' : MeetsRule c' cells)
    (hname : c.name = c'.name) : c = c' := by
  have htype : c.type = c'.type := by
    cases htype : c.type with
    | integer => exact (h'.integer.mpr (h.integer.mp htype)).symm
    | real => exact (h'.real.mpr (h.real.mp htype)).symm
    | text => exact (h'.text.mpr (h.text.mp htype)).symm
  have hnullable : c.nullable = c'.nullable := by
    rw [Bool.eq_iff_iff, ← not_iff_not, Bool.not_eq_true, Bool.not_eq_true]
    exact h.required.trans h'.required.symm
  obtain ⟨name, type, nullable⟩ := c
  cases hname
  cases htype
  cases hnullable
  rfl

/-- The rule only asks what is among the cells. -/
theorem MeetsRule.congr {c : Column} {others : List (Option String)} (h : MeetsRule c cells)
    (hmem : ∀ cell, cell ∈ cells ↔ cell ∈ others) : MeetsRule c others := by
  have hempty : cells ≠ [] ↔ others ≠ [] := by
    rw [Ne, Ne, List.eq_nil_iff_forall_not_mem, List.eq_nil_iff_forall_not_mem]
    simp only [hmem]
  have hpresent : SomePresent cells ↔ SomePresent others := by
    simp only [SomePresent, hmem]
  have hinteger : CallsForInteger cells ↔ CallsForInteger others := by
    simp only [CallsForInteger, EachPresent, hpresent, hmem]
  have hreal : CallsForReal cells ↔ CallsForReal others := by
    simp only [CallsForReal, EachPresent, hpresent, hempty, hmem]
  refine ⟨h.integer.trans hinteger, h.real.trans hreal, ?_, ?_⟩
  · rw [h.text, hinteger, hreal]
  · rw [h.required, hempty, hmem]

end

/-! ### Inferred columns -/

/-- Cells call for one column, in whatever order and however often they come. -/
theorem inferColumn_congr {name : String} {cells others : List (Option String)}
    (hmem : ∀ cell, cell ∈ cells ↔ cell ∈ others) :
    inferColumn name cells = inferColumn name others :=
  ((inferColumn_meetsRule name cells).congr hmem).unique (inferColumn_meetsRule name others) rfl

/-- Everything present in a column of whole numbers is one. -/
theorem isWhole_of_inferColumn {name : String} {cells : List (Option String)}
    (h : (inferColumn name cells).type = .integer) : EachPresent IsWhole cells :=
  ((inferColumn_meetsRule name cells).integer.mp h).2.mono fun _ => isWhole_iff.mpr

/-- Everything present in a column of real numbers is a number. -/
theorem isNumber_of_inferColumn {name : String} {cells : List (Option String)}
    (h : (inferColumn name cells).type = .real) : EachPresent IsNumber cells := by
  rcases (inferColumn_meetsRule name cells).real.mp h with ⟨hall, -⟩ | ⟨-, hnone⟩
  · exact hall.mono fun _ => isNumber_iff.mpr
  · intro cell hcell
    exact absurd ⟨cell, hcell⟩ hnone

/-- No cell of a required column is missing. -/
theorem not_missing_of_inferColumn {name : String} {cells : List (Option String)}
    (h : (inferColumn name cells).nullable = false) : none ∉ cells :=
  ((inferColumn_meetsRule name cells).required.mp h).2

/-! ### Inferred schemas -/

theorem length_columns_infer (name : String) (d : Dataset) :
    (infer name d).columns.length = d.columns.length := by
  simp [infer]

theorem columnNames_infer (name : String) (d : Dataset) :
    (infer name d).columns.map Column.name = d.columns := by
  refine List.ext_getElem (by simp [infer]) fun i hi hi' => ?_
  simp [infer, inferColumn]

/-- A column of the schema is the one that the dataset's cells at its place call for. -/
theorem getElem?_columns_infer {name : String} {d : Dataset} {i : Nat} {c : Column}
    (h : (infer name d).columns[i]? = some c) :
    ∃ column, c = inferColumn column (d.column i) := by
  rw [infer, List.getElem?_mapIdx, Option.map_eq_some_iff] at h
  obtain ⟨column, -, heq⟩ := h
  exact ⟨column, heq.symm⟩

/-- The order of the rows plays no part. -/
theorem infer_perm (name : String) {d : Dataset} {rows : List (List (Option String))}
    (h : rows.Perm d.rows) : infer name ⟨d.columns, rows⟩ = infer name d := by
  have hmem : ∀ (i : Nat) (cell : Option String),
      cell ∈ Dataset.column ⟨d.columns, rows⟩ i ↔ cell ∈ d.column i :=
    fun i cell => (h.map fun row => (row[i]?).join).mem_iff
  have hcolumn : (fun i column => inferColumn column (Dataset.column ⟨d.columns, rows⟩ i)) =
      fun i column => inferColumn column (d.column i) := by
    funext i column
    exact inferColumn_congr (hmem i)
  rw [infer, infer, hcolumn]

end DatasetSync.Schema
