/-
When the table of a schema can be created, and what it is then.

Creating a table is refused for its name or for its columns.  A new name has to be
free among tables, views and indexes.  The columns are gone through in order, each
against those before it; the walk succeeds exactly if no column holds a NUL, there
are not too many, and all are different identifiers.  If the first two hold, a
refusal names a column that repeats an earlier one, and nothing else can go wrong.
-/
import DatasetSync.Proofs.Database.Tables

namespace DatasetSync.Database

open Text (sameName DistinctNames distinctNames_cons)

/-- The table of a schema before its first row. -/
def Table.ofSchema (s : Schema) : Table where
  name := s.name
  columns := s.columns.map ColumnDef.ofColumn
  definition := Statement.createTable s

/-! ### The name -/

/-- The name can be given to a new table or view. -/
structure IsFree (db : Database) (name : String) : Prop where
  noNul : '\x00' ∉ name.toList
  notInternal : isInternalName name = false
  noTable : db.table? name = none
  noView : db.view? name = none
  noIndex : db.index? name = none

theorem checkNewName_eq_ok_iff {db : Database} {name statement : String} {offset : Nat} :
    db.checkNewName name statement offset = .ok () ↔ db.IsFree name := by
  unfold checkNewName
  rw [bind_eq_ok]
  constructor
  · rintro ⟨_, hquoted, h⟩
    split at h
    · cases h
    · rename_i hinternal
      split at h
      · cases h
      · rename_i htable
        split at h
        · cases h
        · rename_i hview
          split at h
          · cases h
          · rename_i hindex
            exact ⟨checkQuoted_eq_ok_iff.mp hquoted, by simpa using hinternal,
              by simpa using htable, by simpa using hview, by simpa using hindex⟩
  · intro h
    refine ⟨(), checkQuoted_eq_ok_iff.mpr h.noNul, ?_⟩
    simp [h.notInternal, h.noTable, h.noView, h.noIndex]

/-! ### The columns -/

/-- One step of the walk, on a column that is neither cut off by a NUL nor one too many. -/
theorem checkColumns_cons {table statement name : String} {offset : Nat} {seen : List String}
    (rest : List (String × Nat)) (hfew : seen.length + 1 ≤ maxColumns)
    (hnul : '\x00' ∉ name.toList) :
    checkColumns table statement seen ((name, offset) :: rest) =
      if seen.any (sameName name) then .error (.duplicateColumn name)
      else checkColumns table statement (name :: seen) rest := by
  have hquoted : checkQuoted name statement offset = .ok () := checkQuoted_eq_ok_iff.mpr hnul
  have hmany : ¬maxColumns < seen.length + 1 := by omega
  rw [checkColumns, hquoted]
  show (if maxColumns < seen.length + 1 then _ else _) = _
  rw [if_neg hmany]

/-- The walk over the columns, all of which are to differ from those seen before. -/
theorem checkColumns_eq_ok_iff {table statement : String} :
    ∀ (columns : List (String × Nat)) (seen : List String),
      seen.length + columns.length ≤ maxColumns →
      (∀ c ∈ columns, '\x00' ∉ c.1.toList) →
      (checkColumns table statement seen columns = .ok () ↔
        DistinctNames (columns.map Prod.fst) ∧
          ∀ c ∈ columns, ∀ name ∈ seen, sameName c.1 name = false) := by
  intro columns
  induction columns with
  | nil => intro seen _ _; simp [checkColumns, DistinctNames]
  | cons c rest ih =>
      intro seen hlen hnul
      obtain ⟨name, offset⟩ := c
      rw [List.length_cons] at hlen
      rw [checkColumns_cons rest (by omega) (hnul (name, offset) (by simp))]
      by_cases hseen : seen.any (sameName name) = true
      · -- The first column repeats one seen before, on both sides.
        rw [if_pos hseen]
        obtain ⟨old, hold, hsame⟩ := List.any_eq_true.mp hseen
        constructor
        · intro h; contradiction
        · rintro ⟨-, h⟩
          have := h (name, offset) (by simp) old hold
          rw [hsame] at this
          contradiction
      · rw [if_neg hseen, ih (name :: seen) (by rw [List.length_cons]; omega)
          fun c hc => hnul c (by simp [hc])]
        have hnew : ∀ old ∈ seen, sameName name old = false := by
          intro old hold
          rw [Bool.eq_false_iff]
          intro hsame
          exact hseen (List.any_eq_true.mpr ⟨old, hold, hsame⟩)
        rw [List.map_cons, distinctNames_cons]
        constructor
        · rintro ⟨hdistinct, hall⟩
          refine ⟨⟨?_, hdistinct⟩, ?_⟩
          · intro b hb
            obtain ⟨c, hc, rfl⟩ := List.mem_map.mp hb
            rw [Text.sameName_comm]
            exact hall c hc name (by simp)
          · intro c hc old hold
            rcases List.mem_cons.mp hc with rfl | hc
            · exact hnew old hold
            · exact hall c hc old (by simp [hold])
        · rintro ⟨⟨hfirst, hdistinct⟩, hall⟩
          refine ⟨hdistinct, ?_⟩
          intro c hc old hold
          rcases List.mem_cons.mp hold with rfl | hold
          · rw [Text.sameName_comm]
            exact hfirst c.1 (List.mem_map_of_mem hc)
          · exact hall c (by simp [hc]) old hold

/-- With few enough columns and no NUL, only a repeated column is refused. -/
theorem checkColumns_eq_error {table statement : String} {fault : Fault} :
    ∀ (columns : List (String × Nat)) (seen : List String),
      seen.length + columns.length ≤ maxColumns →
      (∀ c ∈ columns, '\x00' ∉ c.1.toList) →
      checkColumns table statement seen columns = .error fault →
      ∃ c ∈ columns, fault = .duplicateColumn c.1 := by
  intro columns
  induction columns with
  | nil => intro seen _ _ h; contradiction
  | cons c rest ih =>
      intro seen hlen hnul h
      obtain ⟨name, offset⟩ := c
      rw [List.length_cons] at hlen
      rw [checkColumns_cons rest (by omega) (hnul (name, offset) (by simp))] at h
      split at h
      · cases h
        exact ⟨(name, offset), by simp, rfl⟩
      · obtain ⟨c, hc, hfault⟩ := ih (name :: seen) (by rw [List.length_cons]; omega)
          (fun c hc => hnul c (by simp [hc])) h
        exact ⟨c, by simp [hc], hfault⟩

theorem map_fst_columnOffsets (columns : List Column) (start : Nat) :
    (columnOffsets start columns).map Prod.fst = columns.map Column.name := by
  induction columns generalizing start with
  | nil => rfl
  | cons c rest ih => simp [columnOffsets, ih]

theorem length_columnOffsets (columns : List Column) (start : Nat) :
    (columnOffsets start columns).length = columns.length := by
  rw [← List.length_map (f := Prod.fst), map_fst_columnOffsets, List.length_map]

/-! ### The whole statement -/

/-- A table that was created is empty, stands last, and took a free name. -/
theorem createTable_eq_ok {db db' : Database} {s : Schema} (h : db.createTable s = .ok db') :
    db.IsFree s.name ∧ db' = db.withTable (Table.ofSchema s) := by
  unfold createTable at h
  rw [bind_eq_ok] at h
  obtain ⟨_, hname, h⟩ := h
  refine ⟨checkNewName_eq_ok_iff.mp hname, ?_⟩
  split at h
  · contradiction
  · rw [bind_eq_ok] at h
    obtain ⟨_, -, h⟩ := h
    cases h
    rfl

/-- Under a free name the walk over the columns decides. -/
theorem createTable_of_isFree {db : Database} {s : Schema} (hfree : db.IsFree s.name)
    (hcolumns : s.columns ≠ []) :
    db.createTable s =
      (checkColumns s.name (Statement.createTable s) []
        (columnOffsets (13 + byteSize (Statement.quoteName s.name) + 3) s.columns)).map
        fun _ => db.withTable (Table.ofSchema s) := by
  have hempty : s.columns.isEmpty = false := by simpa using hcolumns
  simp only [createTable, checkNewName_eq_ok_iff.mpr hfree, hempty]
  rfl

/-- A schema that is only refused if its columns repeat one another. -/
structure Creatable (s : Schema) : Prop where
  nonempty : s.columns ≠ []
  few : s.columns.length ≤ maxColumns
  noNul : ∀ c ∈ s.columns, '\x00' ∉ c.name.toList

theorem Creatable.offsets_noNul {s : Schema} (hs : Creatable s) (start : Nat) :
    ∀ c ∈ columnOffsets start s.columns, '\x00' ∉ c.1.toList := by
  intro c hc
  have hname : c.1 ∈ s.columns.map Column.name := by
    rw [← map_fst_columnOffsets s.columns start]
    exact List.mem_map_of_mem hc
  obtain ⟨column, hmem, heq⟩ := List.mem_map.mp hname
  rw [← heq]
  exact hs.noNul column hmem

theorem createTable_of_distinct {db : Database} {s : Schema} (hfree : db.IsFree s.name)
    (hs : Creatable s) (hdistinct : DistinctNames (s.columns.map Column.name)) :
    db.createTable s = .ok (db.withTable (Table.ofSchema s)) := by
  rw [createTable_of_isFree hfree hs.nonempty, map_eq_ok]
  refine ⟨(), ?_, rfl⟩
  refine (checkColumns_eq_ok_iff _ _ ?_ (hs.offsets_noNul _)).mpr ⟨?_, by simp⟩
  · simpa [length_columnOffsets] using hs.few
  · rw [map_fst_columnOffsets]
    exact hdistinct

theorem createTable_of_not_distinct {db : Database} {s : Schema} (hfree : db.IsFree s.name)
    (hs : Creatable s) (hrepeat : ¬DistinctNames (s.columns.map Column.name)) :
    ∃ c ∈ s.columns, db.createTable s = .error (.duplicateColumn c.name) := by
  rw [createTable_of_isFree hfree hs.nonempty]
  cases hcheck : checkColumns s.name (Statement.createTable s) []
      (columnOffsets (13 + byteSize (Statement.quoteName s.name) + 3) s.columns) with
  | ok _ =>
      refine absurd ?_ hrepeat
      have := (checkColumns_eq_ok_iff _ _ (by simpa [length_columnOffsets] using hs.few)
        (hs.offsets_noNul _)).mp hcheck
      rw [map_fst_columnOffsets] at this
      exact this.1
  | error fault =>
      obtain ⟨c, hc, rfl⟩ := checkColumns_eq_error _ _
        (by simpa [length_columnOffsets] using hs.few) (hs.offsets_noNul _) hcheck
      have hname : c.1 ∈ s.columns.map Column.name := by
        rw [← map_fst_columnOffsets s.columns]
        exact List.mem_map_of_mem hc
      obtain ⟨column, hmem, heq⟩ := List.mem_map.mp hname
      exact ⟨column, hmem, by rw [heq]; rfl⟩

end DatasetSync.Database
