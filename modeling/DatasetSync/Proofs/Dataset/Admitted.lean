/-
Which records are admitted, and what they become.

A record is admitted if its fields are texts and it has no more of them than the header,
and refused otherwise; there is nothing in between, and what is said about a refused
record is fixed by the record and its place.  Reading stops at the first refused record.

An admitted record that is no empty line gives one row, and the cell at a place of it
depends on the field at that place alone.
-/
import Mathlib.Data.List.Forall2
import DatasetSync.Proofs.Dataset.Basic

namespace DatasetSync.Dataset

/-! ### Fields that are texts -/

/-- The texts of the fields of a record. -/
def Decodes (record : Csv.Record) (texts : List String) : Prop :=
  List.Forall₂ (fun field text => Text.Utf8.decode field = .ok text) record.fields texts

/-- A record with a field that is no text, and what there is to say about the first one. -/
structure Garbled (index : Nat) (record : Csv.Record) (fault : Undecodable) : Prop where
  record_eq : fault.record = index
  line_eq : fault.line = record.start.line
  byte_eq : fault.byte = record.start.byte
  before : ∀ field ∈ record.fields.take fault.field, ∃ text, Text.Utf8.decode field = .ok text
  field : ∃ field, record.fields[fault.field]? = some field ∧
    Text.Utf8.decode field = .error fault.valid

theorem Decodes.length_eq {record : Csv.Record} {texts : List String} (h : Decodes record texts) :
    texts.length = record.fields.length :=
  (List.Forall₂.length_eq h).symm

theorem decodeFields_eq_ok_iff {index : Nat} {fields : List (List UInt8)} {texts : List String} :
    decodeFields index fields = .ok texts ↔
      List.Forall₂ (fun field text => Text.Utf8.decode field = .ok text) fields texts := by
  induction fields generalizing index texts with
  | nil => simp [decodeFields, eq_comm]
  | cons field rest ih =>
      rw [decodeFields, List.forall₂_cons_left_iff]
      cases hfield : Text.Utf8.decode field with
      | error valid => simp
      | ok text =>
          simp only [map_eq_ok, ih, Except.ok.injEq]
          constructor
          · rintro ⟨more, hmore, rfl⟩
            exact ⟨text, more, rfl, hmore, rfl⟩
          · rintro ⟨_, more, rfl, hmore, rfl⟩
            exact ⟨more, hmore, rfl⟩

theorem decodeFields_eq_error_iff {index place valid : Nat} {fields : List (List UInt8)} :
    decodeFields index fields = .error (place, valid) ↔
      ∃ k, place = index + k ∧
        (∀ field ∈ fields.take k, ∃ text, Text.Utf8.decode field = .ok text) ∧
        ∃ field, fields[k]? = some field ∧ Text.Utf8.decode field = .error valid := by
  induction fields generalizing index with
  | nil => simp [decodeFields]
  | cons field rest ih =>
      rw [decodeFields]
      cases hfield : Text.Utf8.decode field with
      | error length =>
          constructor
          · intro h
            cases h
            exact ⟨0, rfl, by simp, field, rfl, hfield⟩
          · rintro ⟨k, rfl, hbefore, found, hfound, hvalid⟩
            cases k with
            | zero =>
                obtain rfl : field = found := by simpa using hfound
                rw [hfield] at hvalid
                cases hvalid
                rfl
            | succ k =>
                obtain ⟨text, htext⟩ := hbefore field (by simp)
                rw [hfield] at htext
                contradiction
      | ok text =>
          simp only [map_eq_error, ih]
          constructor
          · rintro ⟨k, rfl, hbefore, found, hfound, hvalid⟩
            refine ⟨k + 1, by omega, ?_, found, by simpa using hfound, hvalid⟩
            rw [List.take_succ_cons, List.forall_mem_cons]
            exact ⟨⟨text, hfield⟩, hbefore⟩
          · rintro ⟨k, rfl, hbefore, found, hfound, hvalid⟩
            cases k with
            | zero =>
                obtain rfl : field = found := by simpa using hfound
                rw [hfield] at hvalid
                contradiction
            | succ k =>
                rw [List.take_succ_cons, List.forall_mem_cons] at hbefore
                exact ⟨k, by omega, hbefore.2, found, by simpa using hfound, hvalid⟩

theorem fieldsOf_eq_ok_iff {index : Nat} {record : Csv.Record} {texts : List String} :
    fieldsOf index record = .ok texts ↔ Decodes record texts := by
  have hiff := @decodeFields_eq_ok_iff 0 record.fields texts
  unfold fieldsOf Decodes
  rw [← hiff]
  split
  · rename_i heq
    rw [heq]
    simp
  · rename_i heq
    rw [heq]
    simp [failWith]

/-- A record with a field that is no text fails with what there is to say about the first one. -/
theorem fieldsOf_eq_error_iff {index : Nat} {record : Csv.Record} {failure : Failure} :
    fieldsOf index record = .error failure ↔
      ∃ fault, Garbled index record fault ∧ failure = ⟨[], .undecodable fault⟩ := by
  have hiff := fun place valid => @decodeFields_eq_error_iff 0 place valid record.fields
  simp only [Nat.zero_add, exists_eq_left'] at hiff
  unfold fieldsOf
  split
  · rename_i texts heq
    simp only [reduceCtorEq, false_iff, not_exists, not_and]
    rintro fault ⟨-, -, -, hbefore, hfield⟩
    have herror := (hiff fault.field fault.valid).mpr ⟨hbefore, hfield⟩
    rw [heq] at herror
    contradiction
  · rename_i field valid heq
    constructor
    · intro h
      cases h
      obtain ⟨hbefore, hfield⟩ := (hiff field valid).mp heq
      exact ⟨_, ⟨rfl, rfl, rfl, hbefore, hfield⟩, rfl⟩
    · rintro ⟨fault, ⟨hrecord, hline, hbyte, hbefore, hfield⟩, rfl⟩
      have herror := (hiff fault.field fault.valid).mpr ⟨hbefore, hfield⟩
      rw [heq] at herror
      cases herror
      subst hrecord
      rw [← hline, ← hbyte]
      rfl

/-! ### Records and their rows -/

/-- A record that gets into the dataset, or is passed over as an empty line: its fields are texts,
and the header has at least as many. -/
structure Admitted (width : Nat) (record : Csv.Record) : Prop where
  decodes : ∃ texts, Decodes record texts
  short : record.fields.length ≤ width

/-- A record that does not, and the failure it leads to.  Of one that is both garbled and too long
the former is said. -/
inductive Refused (width index : Nat) (record : Csv.Record) : Failure → Prop
  | garbled {fault : Undecodable} (h : Garbled index record fault) :
      Refused width index record ⟨[.readingRecord], .undecodable fault⟩
  | tooLong {texts : List String} (htexts : Decodes record texts)
      (hlong : width < record.fields.length) :
      Refused width index record
        ⟨[], .raggedRow record.start.line width record.fields.length⟩

/-- A single blank field, where the header has several. -/
def IsEmptyLine (width : Nat) (texts : List String) : Prop :=
  1 < width ∧ ∃ text, texts = [text] ∧ Text.allBlank text = true

theorem isEmptyLine_iff {width : Nat} {texts : List String} :
    isEmptyLine width texts = true ↔ IsEmptyLine width texts := by
  unfold isEmptyLine IsEmptyLine
  split
  · simp [and_comm]
  · rename_i hseveral
    simp only [Bool.false_eq_true, false_iff, not_and, not_exists]
    intro _ text hone
    exact absurd hone (hseveral text)

/-- The row of a record: a cell is missing if the record has no such field or the field is a word
for a missing value, apart from blanks around it; every other cell is the field as it stands. -/
structure FillsRow (width : Nat) (texts : List String) (row : List (Option String)) : Prop where
  width_eq : row.length = width
  missing : ∀ j < width, (row[j]? = some none ↔
    texts[j]? = none ∨ ∃ text, texts[j]? = some text ∧ Text.trim text ∈ missingTokens)
  present : ∀ j < width, ∀ text, (row[j]? = some (some text) ↔
    texts[j]? = some text ∧ Text.trim text ∉ missingTokens)

theorem cellOf_eq_none_iff {text : String} :
    cellOf text = none ↔ Text.trim text ∈ missingTokens := by
  simp [cellOf, isMissing]

theorem cellOf_eq_some_iff {text cell : String} :
    cellOf text = some cell ↔ text = cell ∧ Text.trim text ∉ missingTokens := by
  simp [cellOf, isMissing, and_comm]

/-- The cells of a filled row, place by place. -/
theorem getElem?_pad {width j : Nat} {texts : List String} (hshort : texts.length ≤ width)
    (hj : j < width) : (pad width (texts.map cellOf))[j]? = some (texts[j]?.bind cellOf) := by
  unfold pad
  by_cases hfield : j < texts.length
  · rw [List.getElem?_append_left (by simpa using hfield), List.getElem?_map,
      List.getElem?_eq_getElem hfield]
    rfl
  · have hnone : texts[j]? = none := List.getElem?_eq_none (by omega)
    rw [List.getElem?_append_right (by simpa using hfield), hnone, List.getElem?_replicate,
      if_pos (by simp; omega)]
    rfl

theorem fillsRow_pad {width : Nat} {texts : List String} (hshort : texts.length ≤ width) :
    FillsRow width texts (pad width (texts.map cellOf)) where
  width_eq := by
    simp [pad]
    omega
  missing := by
    intro j hj
    rw [getElem?_pad hshort hj, Option.some.injEq]
    cases texts[j]? with
    | none => simp
    | some text => simp [cellOf_eq_none_iff]
  present := by
    intro j hj text
    rw [getElem?_pad hshort hj, Option.some.injEq]
    cases texts[j]? with
    | none => simp
    | some other =>
        rw [Option.bind_some, cellOf_eq_some_iff, Option.some.injEq]
        constructor
        · rintro ⟨rfl, hpresent⟩
          exact ⟨rfl, hpresent⟩
        · rintro ⟨rfl, hpresent⟩
          exact ⟨rfl, hpresent⟩

/-- What becomes of a record whose fields are texts. -/
theorem rowOf_of_decodes {width : Nat} {record : Csv.Record} {texts : List String}
    (h : Decodes record texts) (index : Nat) :
    rowOf width index record =
      if isEmptyLine width texts then .ok none
      else if width < texts.length then
        .error ⟨[], .raggedRow record.start.line width texts.length⟩
      else .ok (some (pad width (texts.map cellOf))) := by
  have hread : during .readingRecord (fieldsOf index record) = .ok texts :=
    during_eq_ok.mpr (fieldsOf_eq_ok_iff.mpr h)
  unfold rowOf
  rw [hread, ok_bind]
  split
  · rfl
  · split <;> rfl

theorem rowOf_eq_error_iff {width index : Nat} {record : Csv.Record} {failure : Failure} :
    rowOf width index record = .error failure ↔ Refused width index record failure := by
  constructor
  · intro h
    cases hfields : fieldsOf index record with
    | error inner =>
        obtain ⟨fault, hgarbled, rfl⟩ := fieldsOf_eq_error_iff.mp hfields
        rw [rowOf, hfields] at h
        cases h
        exact .garbled hgarbled
    | ok texts =>
        have htexts := fieldsOf_eq_ok_iff.mp hfields
        rw [rowOf_of_decodes htexts] at h
        split at h
        · contradiction
        · split at h
          · rename_i hlong
            cases h
            rw [htexts.length_eq] at hlong ⊢
            exact .tooLong htexts hlong
          · contradiction
  · intro h
    cases h with
    | garbled hgarbled =>
        have hfields := fieldsOf_eq_error_iff.mpr ⟨_, hgarbled, rfl⟩
        rw [rowOf, hfields]
        rfl
    | @tooLong texts htexts hlong =>
        have hsome : ¬isEmptyLine width texts = true := by
          rw [isEmptyLine_iff]
          rintro ⟨hwidth, text, rfl, -⟩
          have hone := htexts.length_eq
          simp only [List.length_singleton] at hone
          omega
        rw [rowOf_of_decodes htexts, if_neg hsome, htexts.length_eq, if_pos hlong]

/-- A record is admitted or refused, and not both. -/
theorem admitted_iff_not_refused {width : Nat} (index : Nat) {record : Csv.Record} :
    Admitted width record ↔ ∀ failure, ¬Refused width index record failure := by
  constructor
  · rintro ⟨⟨texts, htexts⟩, hshort⟩ failure hrefused
    cases hrefused with
    | garbled hgarbled =>
        have hfields := fieldsOf_eq_error_iff.mpr ⟨_, hgarbled, rfl⟩
        rw [fieldsOf_eq_ok_iff.mpr htexts] at hfields
        contradiction
    | tooLong _ hlong => omega
  · intro hnone
    cases hfields : fieldsOf index record with
    | error inner =>
        obtain ⟨fault, hgarbled, -⟩ := fieldsOf_eq_error_iff.mp hfields
        exact absurd (.garbled hgarbled) (hnone _)
    | ok texts =>
        have htexts := fieldsOf_eq_ok_iff.mp hfields
        refine ⟨⟨texts, htexts⟩, ?_⟩
        by_contra hlong
        exact hnone _ (.tooLong htexts (Nat.lt_of_not_le hlong))

theorem exists_refused {width : Nat} {record : Csv.Record} (h : ¬Admitted width record)
    (index : Nat) : ∃ failure, Refused width index record failure := by
  rw [admitted_iff_not_refused index] at h
  push Not at h
  exact h

/-- What a record gives that is not refused: nothing if it is an empty line, else its row. -/
theorem rowOf_eq_ok {width index : Nat} {record : Csv.Record}
    {given : Option (List (Option String))} (h : rowOf width index record = .ok given) :
    ∃ texts, Decodes record texts ∧ (given = none ∧ IsEmptyLine width texts ∨
      ∃ row, given = some row ∧ ¬IsEmptyLine width texts ∧ FillsRow width texts row) := by
  have hadmitted : Admitted width record := by
    rw [admitted_iff_not_refused index]
    intro failure hrefused
    rw [rowOf_eq_error_iff.mpr hrefused] at h
    contradiction
  obtain ⟨⟨texts, htexts⟩, hshort⟩ := hadmitted
  rw [← htexts.length_eq] at hshort
  refine ⟨texts, htexts, ?_⟩
  rw [rowOf_of_decodes htexts, if_neg (Nat.not_lt.mpr hshort)] at h
  split at h
  · rename_i hempty
    cases h
    exact .inl ⟨rfl, isEmptyLine_iff.mp hempty⟩
  · rename_i hkept
    cases h
    rw [isEmptyLine_iff] at hkept
    exact .inr ⟨_, rfl, hkept, fillsRow_pad hshort⟩

/-! ### All records -/

/-- The rows of records: one for each that is no empty line, in order. -/
inductive RowsOf (width : Nat) : List Csv.Record → List (List (Option String)) → Prop
  | nil : RowsOf width [] []
  | emptyLine {record : Csv.Record} {texts : List String} {records : List Csv.Record}
      {rows : List (List (Option String))} (htexts : Decodes record texts)
      (hempty : IsEmptyLine width texts) (hrest : RowsOf width records rows) :
      RowsOf width (record :: records) rows
  | row {record : Csv.Record} {texts : List String} {row : List (Option String)}
      {records : List Csv.Record} {rows : List (List (Option String))}
      (htexts : Decodes record texts) (hkept : ¬IsEmptyLine width texts)
      (hrow : FillsRow width texts row) (hrest : RowsOf width records rows) :
      RowsOf width (record :: records) (row :: rows)

theorem rowsFrom_eq_ok {width index : Nat} {done rows : List (List (Option String))}
    {records : List Csv.Record} (h : rowsFrom width index done records = .ok rows) :
    ∃ added, rows = done.reverse ++ added ∧ RowsOf width records added := by
  induction records generalizing index done with
  | nil =>
      cases h
      exact ⟨[], by simp, .nil⟩
  | cons record rest ih =>
      rw [rowsFrom] at h
      split at h
      · contradiction
      · rename_i hrow
        obtain ⟨texts, htexts, ⟨-, hempty⟩ | ⟨_, hsome, -⟩⟩ := rowOf_eq_ok hrow
        · obtain ⟨added, rfl, hadded⟩ := ih h
          exact ⟨added, rfl, .emptyLine htexts hempty hadded⟩
        · contradiction
      · rename_i row hrow
        obtain ⟨texts, htexts, ⟨hnone, -⟩ | ⟨_, hsome, hkept, hfills⟩⟩ := rowOf_eq_ok hrow
        · contradiction
        · cases hsome
          obtain ⟨added, rfl, hadded⟩ := ih h
          exact ⟨row :: added, by simp, .row htexts hkept hfills hadded⟩

/-- Behind an admitted record reading goes on. -/
theorem rowsFrom_of_admitted {width : Nat} {record : Csv.Record} (h : Admitted width record)
    (index : Nat) (done : List (List (Option String))) (rest : List Csv.Record) :
    ∃ more, rowsFrom width index done (record :: rest) = rowsFrom width (index + 1) more rest := by
  cases hrow : rowOf width index record with
  | error failure =>
      exact absurd (rowOf_eq_error_iff.mp hrow) ((admitted_iff_not_refused index).mp h failure)
  | ok given =>
      cases given with
      | none => exact ⟨done, by rw [rowsFrom, hrow]⟩
      | some row => exact ⟨row :: done, by rw [rowsFrom, hrow]⟩

theorem rowsFrom_of_refused {width index : Nat} {record : Csv.Record} {failure : Failure}
    (h : Refused width index record failure) (done : List (List (Option String)))
    (rest : List Csv.Record) : rowsFrom width index done (record :: rest) = .error failure := by
  rw [rowsFrom, rowOf_eq_error_iff.mpr h]

/-- Reading rows fails with the failure of the first record that is refused. -/
theorem rowsFrom_eq_error_iff {width index : Nat} {done : List (List (Option String))}
    {records : List Csv.Record} {failure : Failure} :
    rowsFrom width index done records = .error failure ↔
      ∃ earlier record later, records = earlier ++ record :: later ∧
        (∀ other ∈ earlier, Admitted width other) ∧
        Refused width (index + earlier.length) record failure := by
  constructor
  · intro h
    induction records generalizing index done with
    | nil => contradiction
    | cons first rest ih =>
        by_cases hadmitted : Admitted width first
        · obtain ⟨more, hmore⟩ := rowsFrom_of_admitted hadmitted index done rest
          rw [hmore] at h
          obtain ⟨earlier, record, later, rfl, hearlier, hrefused⟩ := ih h
          refine ⟨first :: earlier, record, later, rfl, ?_, ?_⟩
          · rw [List.forall_mem_cons]
            exact ⟨hadmitted, hearlier⟩
          · rwa [List.length_cons, Nat.add_comm earlier.length, ← Nat.add_assoc]
        · obtain ⟨inner, hrefused⟩ := exists_refused hadmitted index
          rw [rowsFrom_of_refused hrefused] at h
          cases h
          exact ⟨[], first, rest, rfl, by simp, hrefused⟩
  · rintro ⟨earlier, record, later, rfl, hearlier, hrefused⟩
    induction earlier generalizing index done with
    | nil => exact rowsFrom_of_refused hrefused done later
    | cons first earlier ih =>
        rw [List.forall_mem_cons] at hearlier
        obtain ⟨more, hmore⟩ := rowsFrom_of_admitted hearlier.1 index done
          (earlier ++ record :: later)
        rw [List.cons_append, hmore]
        refine ih hearlier.2 ?_
        rwa [List.length_cons, Nat.add_comm earlier.length, ← Nat.add_assoc] at hrefused

/-- Reading rows comes out well exactly if every record is admitted. -/
theorem exists_rowsFrom_iff {width index : Nat} {done : List (List (Option String))}
    {records : List Csv.Record} :
    (∃ rows, rowsFrom width index done records = .ok rows) ↔
      ∀ record ∈ records, Admitted width record := by
  induction records generalizing index done with
  | nil => simp [rowsFrom]
  | cons first rest ih =>
      rw [List.forall_mem_cons]
      by_cases hadmitted : Admitted width first
      · obtain ⟨more, hmore⟩ := rowsFrom_of_admitted hadmitted index done rest
        rw [hmore, ih, and_iff_right hadmitted]
      · obtain ⟨failure, hrefused⟩ := exists_refused hadmitted index
        rw [rowsFrom_of_refused hrefused]
        simp [hadmitted]

end DatasetSync.Dataset
