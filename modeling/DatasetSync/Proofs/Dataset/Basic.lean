/-
What a payload that is accepted gives.

A record has at least one field, so an accepted payload has at least one column,
and its columns are the names of its header cells.  Rows longer than the header
are refused and shorter ones filled up, so all rows are as wide as the header;
this is why nothing that walks over the columns of a row runs past its end.
-/
import DatasetSync.Dataset.Basic
import DatasetSync.Proofs.Dataset.Header
import DatasetSync.Proofs.Results

namespace DatasetSync

/-! ### Records -/

namespace Csv

theorem scan_fields_ne_nil (place : Place) (field : List UInt8) (fields : List (List UInt8))
    (position : Position) (bytes : List UInt8) :
    (scan place field fields position bytes).fields ≠ [] := by
  induction bytes generalizing place field fields position with
  | nil => simp [scan]
  | cons b rest ih =>
      unfold scan
      split
      · exact ih _ _ _ _
      · exact ih _ _ _ _
      · exact ih _ _ _ _
      · simp

theorem recordsFrom_eq_nil {position start behind : Position} {bytes : List UInt8}
    (h : skipTerminators position bytes = ([], behind)) :
    recordsFrom position start bytes = [] := by
  rw [recordsFrom]
  split
  · rfl
  · simp_all

theorem recordsFrom_eq_cons {position start behind : Position} {bytes rest : List UInt8}
    {b : UInt8} (h : skipTerminators position bytes = (b :: rest, behind)) :
    recordsFrom position start bytes =
      ⟨start, (scan .fieldStart [] [] behind (b :: rest)).fields⟩ ::
        recordsFrom (scan .fieldStart [] [] behind (b :: rest)).position
          (scan .fieldStart [] [] behind (b :: rest)).position
          (scan .fieldStart [] [] behind (b :: rest)).rest := by
  rw [recordsFrom]
  split
  · simp_all
  · rename_i hskip
    rw [h] at hskip
    cases hskip
    rfl

theorem fields_ne_nil_of_mem_recordsFrom {position start : Position} {bytes : List UInt8} :
    ∀ record ∈ recordsFrom position start bytes, record.fields ≠ [] := by
  induction position, start, bytes using recordsFrom.induct with
  | case1 position start bytes behind hskip => simp [recordsFrom_eq_nil hskip]
  | case2 position start bytes b rest behind hskip read ih =>
      intro record hrecord
      rw [recordsFrom_eq_cons hskip] at hrecord
      rcases List.mem_cons.mp hrecord with rfl | hrecord
      · exact scan_fields_ne_nil _ _ _ _ _
      · exact ih record hrecord

/-- Every record has a field. -/
theorem fields_ne_nil {bytes : List UInt8} :
    ∀ record ∈ records bytes, record.fields ≠ [] := by
  intro record hrecord
  unfold records at hrecord
  split at hrecord
  · exact fields_ne_nil_of_mem_recordsFrom record hrecord
  · exact fields_ne_nil_of_mem_recordsFrom record hrecord

end Csv

namespace Dataset

theorem length_decodeFields {index : Nat} {fields : List (List UInt8)} {texts : List String}
    (h : decodeFields index fields = .ok texts) : texts.length = fields.length := by
  induction fields generalizing index texts with
  | nil =>
      cases h
      rfl
  | cons field rest ih =>
      rw [decodeFields] at h
      split at h
      · contradiction
      · obtain ⟨more, hmore, rfl⟩ := map_eq_ok.mp h
        simp [ih hmore]

theorem length_fieldsOf {index : Nat} {record : Csv.Record} {texts : List String}
    (h : fieldsOf index record = .ok texts) : texts.length = record.fields.length := by
  unfold fieldsOf at h
  split at h
  · rename_i hdecoded
    cases h
    exact length_decodeFields hdecoded
  · contradiction

/-- The cells of the header, as texts, if there is a header that is text. -/
def headerCells (payload : List UInt8) : Option (List String) :=
  match Csv.records (Csv.stripMark payload) with
  | [] => none
  | header :: _ => (fieldsOf 0 header).toOption

/-! ### Rows -/

theorem length_rowOf {width index : Nat} {record : Csv.Record} {row : List (Option String)}
    (h : rowOf width index record = .ok (some row)) : row.length = width := by
  unfold rowOf at h
  rw [bind_eq_ok] at h
  obtain ⟨fields, -, h⟩ := h
  split at h
  · cases h
  · split at h
    · contradiction
    · cases h
      simp [pad]
      omega

theorem length_of_mem_rowsFrom {width index : Nat} {done : List (List (Option String))}
    {records : List Csv.Record} {rows : List (List (Option String))}
    (h : rowsFrom width index done records = .ok rows)
    (hdone : ∀ row ∈ done, row.length = width) : ∀ row ∈ rows, row.length = width := by
  induction records generalizing index done with
  | nil =>
      cases h
      simpa using hdone
  | cons record rest ih =>
      rw [rowsFrom] at h
      split at h
      · contradiction
      · exact ih h hdone
      · rename_i row hrow
        refine ih h fun other hother => ?_
        rcases List.mem_cons.mp hother with rfl | hother
        · exact length_rowOf hrow
        · exact hdone other hother

/-! ### Accepted payloads -/

/-- A dataset with a column, all rows of which are as wide as its header. -/
structure IsRectangular (d : Dataset) : Prop where
  columns_ne_nil : d.columns ≠ []
  width : ∀ row ∈ d.rows, row.length = d.columns.length

/-- A cell of a row is one of the cells of its column. -/
theorem mem_column {d : Dataset} {row : List (Option String)} {i : Nat} {cell : Option String}
    (hrow : row ∈ d.rows) (hcell : row[i]? = some cell) : cell ∈ d.column i := by
  refine List.mem_map.mpr ⟨row, hrow, ?_⟩
  rw [hcell]
  rfl

theorem parse_eq_ok {payload : List UInt8} {d : Dataset} (h : parse payload = .ok d) :
    ∃ cells, headerCells payload = some cells ∧ d.columns = Header.names cells ∧
      d.IsRectangular := by
  unfold parse at h
  split at h
  · contradiction
  · rename_i header records hrecords
    rw [bind_eq_ok] at h
    obtain ⟨cells, hcells, h⟩ := h
    rw [bind_eq_ok] at h
    obtain ⟨rows, hrows, h⟩ := h
    cases h
    rw [during_eq_ok] at hcells
    have hmem : header ∈ Csv.records (Csv.stripMark payload) := by simp [hrecords]
    have hheader := Csv.fields_ne_nil header hmem
    refine ⟨cells, by simp [headerCells, hrecords, hcells, Except.toOption], rfl, ?_, ?_⟩
    · intro (hnone : Header.names cells = [])
      have hlength : cells.length = 0 := by
        rw [← Header.length_names, hnone, List.length_nil]
      rw [length_fieldsOf hcells] at hlength
      exact hheader (List.eq_nil_of_length_eq_zero hlength)
    · exact length_of_mem_rowsFrom hrows (by simp)

end Dataset
end DatasetSync
