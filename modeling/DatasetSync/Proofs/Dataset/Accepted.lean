/-
Which payloads are accepted, and what they give.

A payload is accepted exactly if its header is text and all records behind it are admitted,
and otherwise its failure is that of the first record that is not.  The rows of an accepted
payload are those of its records, and all of them are as wide as the header.
-/
import DatasetSync.Proofs.Database.Refusal
import DatasetSync.Proofs.Dataset.Admitted
import DatasetSync.Proofs.Inference

namespace DatasetSync.Dataset

/-! ### Payloads -/

/-- The failure of a payload with a header: that of the header, if it is no text, and otherwise that
of the first record that is refused. -/
inductive FirstRefused (header : Csv.Record) (records : List Csv.Record) : Failure → Prop
  | header {fault : Undecodable} (h : Garbled 0 header fault) :
      FirstRefused header records ⟨[.readingHeader], .undecodable fault⟩
  | record {cells : List String} {earlier later : List Csv.Record} {record : Csv.Record}
      {failure : Failure} (hcells : Decodes header cells)
      (hsplit : records = earlier ++ record :: later)
      (hearlier : ∀ other ∈ earlier, Admitted header.fields.length other)
      (hrefused : Refused header.fields.length (earlier.length + 1) record failure) :
      FirstRefused header records failure

theorem parse_of_decodes {payload : List UInt8} {header : Csv.Record} {records : List Csv.Record}
    {cells : List String} (hrecords : Csv.records (Csv.stripMark payload) = header :: records)
    (hcells : Decodes header cells) :
    parse payload = (rowsFrom header.fields.length 1 [] records).map
      fun rows => ⟨Header.names cells, rows⟩ := by
  have hread : during .readingHeader (fieldsOf 0 header) = .ok cells :=
    during_eq_ok.mpr (fieldsOf_eq_ok_iff.mpr hcells)
  have hwidth : (Header.names cells).length = header.fields.length := by
    rw [Header.length_names, hcells.length_eq]
  unfold parse
  rw [hrecords]
  dsimp only
  rw [hread, ok_bind, hwidth]
  cases rowsFrom header.fields.length 1 [] records <;> rfl

theorem parse_of_garbled {payload : List UInt8} {header : Csv.Record} {records : List Csv.Record}
    {fault : Undecodable} (hrecords : Csv.records (Csv.stripMark payload) = header :: records)
    (hgarbled : Garbled 0 header fault) :
    parse payload = .error ⟨[.readingHeader], .undecodable fault⟩ := by
  have hread := fieldsOf_eq_error_iff.mpr ⟨fault, hgarbled, rfl⟩
  unfold parse
  rw [hrecords]
  dsimp only
  rw [hread]
  rfl

section Payload

variable {payload : List UInt8} {header : Csv.Record} {records : List Csv.Record}

theorem parse_eq_error_iff (hrecords : Csv.records (Csv.stripMark payload) = header :: records)
    {failure : Failure} :
    parse payload = .error failure ↔ FirstRefused header records failure := by
  constructor
  · intro h
    cases hfields : fieldsOf 0 header with
    | error inner =>
        obtain ⟨fault, hgarbled, -⟩ := fieldsOf_eq_error_iff.mp hfields
        rw [parse_of_garbled hrecords hgarbled] at h
        cases h
        exact .header hgarbled
    | ok cells =>
        have hcells := fieldsOf_eq_ok_iff.mp hfields
        rw [parse_of_decodes hrecords hcells, map_eq_error, rowsFrom_eq_error_iff] at h
        obtain ⟨earlier, record, later, hsplit, hearlier, hrefused⟩ := h
        rw [Nat.add_comm] at hrefused
        exact .record hcells hsplit hearlier hrefused
  · intro h
    cases h with
    | header hgarbled => exact parse_of_garbled hrecords hgarbled
    | record hcells hsplit hearlier hrefused =>
        rw [Nat.add_comm] at hrefused
        rw [parse_of_decodes hrecords hcells, map_eq_error, rowsFrom_eq_error_iff]
        exact ⟨_, _, _, hsplit, hearlier, hrefused⟩

theorem exists_parse_iff (hrecords : Csv.records (Csv.stripMark payload) = header :: records) :
    (∃ d, parse payload = .ok d) ↔ (∃ cells, Decodes header cells) ∧
      ∀ record ∈ records, Admitted header.fields.length record := by
  cases hfields : fieldsOf 0 header with
  | error inner =>
      obtain ⟨fault, hgarbled, -⟩ := fieldsOf_eq_error_iff.mp hfields
      rw [parse_of_garbled hrecords hgarbled]
      have hnone : ¬∃ cells, Decodes header cells := by
        rintro ⟨cells, hcells⟩
        rw [fieldsOf_eq_ok_iff.mpr hcells] at hfields
        contradiction
      simp [hnone]
  | ok cells =>
      have hcells := fieldsOf_eq_ok_iff.mp hfields
      rw [parse_of_decodes hrecords hcells, and_iff_right ⟨cells, hcells⟩, ← exists_rowsFrom_iff]
      simp only [map_eq_ok]
      constructor
      · rintro ⟨d, rows, hrows, -⟩
        exact ⟨rows, hrows⟩
      · rintro ⟨rows, hrows⟩
        exact ⟨_, rows, hrows, rfl⟩

/-- What an accepted payload gives. -/
theorem rowsOf_of_parse (hrecords : Csv.records (Csv.stripMark payload) = header :: records)
    {d : Dataset} (h : parse payload = .ok d) :
    (∃ cells, Decodes header cells ∧ d.columns = Header.names cells) ∧
      d.columns.length = header.fields.length ∧ RowsOf header.fields.length records d.rows := by
  obtain ⟨⟨cells, hcells⟩, -⟩ := (exists_parse_iff hrecords).mp ⟨d, h⟩
  rw [parse_of_decodes hrecords hcells, map_eq_ok] at h
  obtain ⟨rows, hrows, rfl⟩ := h
  obtain ⟨added, hadded, hrowsOf⟩ := rowsFrom_eq_ok hrows
  obtain rfl : rows = added := by simpa using hadded
  refine ⟨⟨cells, hcells, rfl⟩, ?_, hrowsOf⟩
  rw [Header.length_names, hcells.length_eq]

end Payload

/-- **Which payloads are accepted.**  One without records has no header.  Any other is accepted
exactly if its header is text and every record behind it is text and no longer than the header, and
its failure otherwise is that of the first record that is not.  The rows of an accepted payload
are those of its records, all as wide as the header, so nothing that walks over the columns of a row
runs past its end. -/
theorem accepted_iff_admitted (payload : List UInt8) :
    (parse payload = .error ⟨[], .emptyPayload⟩ ↔ Csv.records (Csv.stripMark payload) = []) ∧
      ∀ header records, Csv.records (Csv.stripMark payload) = header :: records →
        ((∃ d, parse payload = .ok d) ↔ (∃ cells, Decodes header cells) ∧
          ∀ record ∈ records, Admitted header.fields.length record) ∧
        (∀ failure, parse payload = .error failure ↔ FirstRefused header records failure) ∧
        ∀ d, parse payload = .ok d →
          (∃ cells, Decodes header cells ∧ d.columns = Header.names cells) ∧
          d.columns.length = header.fields.length ∧
          RowsOf header.fields.length records d.rows ∧
          (∀ row ∈ d.rows, row.length = d.columns.length) ∧
          (∀ i < d.columns.length, d.column? i = some (d.column i)) ∧
          ∀ (db : Database) source name replace doing cells columns,
            (db.load source (Schema.infer name d) d replace).result ≠
              .error ⟨doing, .rowTooShort cells columns⟩ := by
  constructor
  · constructor
    · intro h
      cases hrecords : Csv.records (Csv.stripMark payload) with
      | nil => rfl
      | cons header records =>
          -- No record is refused for want of a header.
          rcases (parse_eq_error_iff hrecords).mp h with _ | ⟨-, -, -, ⟨⟩⟩
    · intro hnone
      rw [parse, hnone]
      rfl
  · intro header records hrecords
    refine ⟨exists_parse_iff hrecords, fun failure => parse_eq_error_iff hrecords, ?_⟩
    intro d hparse
    obtain ⟨hcolumns, hlength, hrows⟩ := rowsOf_of_parse hrecords hparse
    obtain ⟨-, -, -, hd⟩ := parse_eq_ok hparse
    refine ⟨hcolumns, hlength, hrows, hd.width, ?_, ?_⟩
    · intro i hi
      refine column?_of_lt fun row hrow => ?_
      rw [hd.width row hrow]
      exact hi
    · intro db source name replace doing cells columns hshort
      have hwide : ∀ row ∈ d.rows, (Schema.infer name d).columns.length ≤ row.length := by
        intro row hrow
        rw [Schema.length_columns_infer, hd.width row hrow]
      obtain ⟨fault, hfault⟩ := Database.load_eq_error hwide hshort
      contradiction

/-- A short row, a line with a blank field, and a row with a word for a missing value. -/
def shortRows : List UInt8 :=
  "a,b\n1\n\" \"\n NA ,x\n".toUTF8.toList

theorem accepted_iff_admitted_of_shortRows :
    ∃ header records, Csv.records (Csv.stripMark shortRows) = header :: records ∧
      parse shortRows = .ok ⟨["a", "b"], [[some "1", none], [none, some "x"]]⟩ ∧
      header.fields.length = 2 ∧ records.length = 3 ∧
      (∀ record ∈ records, Admitted 2 record) ∧
      RowsOf 2 records [[some "1", none], [none, some "x"]] ∧
      ∀ source replace doing cells columns,
        (Database.fresh.load source
          (Schema.infer "t" ⟨["a", "b"], [[some "1", none], [none, some "x"]]⟩)
          ⟨["a", "b"], [[some "1", none], [none, some "x"]]⟩ replace).result ≠
            .error ⟨doing, .rowTooShort cells columns⟩ := by
  have hrecords : Csv.records (Csv.stripMark shortRows) =
      ⟨⟨1, 0⟩, [[0x61], [0x62]]⟩ :: [⟨⟨2, 4⟩, [[0x31]]⟩, ⟨⟨3, 6⟩, [[0x20]]⟩,
        ⟨⟨4, 10⟩, [[0x20, 0x4E, 0x41, 0x20], [0x78]]⟩] := by
    decide +kernel
  have hparse : parse shortRows =
      .ok ⟨["a", "b"], [[some "1", none], [none, some "x"]]⟩ := by
    decide +kernel
  obtain ⟨haccepted, -, hgives⟩ := (accepted_iff_admitted shortRows).2 _ _ hrecords
  obtain ⟨-, -, hrows, -, -, hload⟩ := hgives _ hparse
  exact ⟨_, _, hrecords, hparse, rfl, rfl, (haccepted.mp ⟨_, hparse⟩).2, hrows,
    fun source => hload Database.fresh source "t"⟩

end DatasetSync.Dataset
