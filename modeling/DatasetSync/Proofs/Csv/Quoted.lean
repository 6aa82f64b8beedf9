/-
Records written in quotes are read back.

In a quoted field the reader stands between quotes, except right behind a quote.  A
doubled quote takes it back to where it was, and so every byte of the field is kept;
the comma or line end that follows the closing quote then ends the field.

What is left of a line end after the byte that ended the record, the line feed behind a
carriage return, is passed over with the empty lines in front of the next record.  So
the induction over the lines is for any line ends in front of the first of them.
-/
import DatasetSync.Csv.Quoted
import DatasetSync.Proofs.Dataset.Basic

namespace DatasetSync.Csv

/-- The place behind some bytes. -/
def Position.behind (p : Position) (bytes : List UInt8) : Position :=
  bytes.foldl Position.after p

/-! ### One field -/

/-- A field with its quotes written twice is kept byte by byte. -/
theorem scan_doubled (field done : List UInt8) (fields : List (List UInt8)) (p : Position)
    (rest : List UInt8) :
    scan .quoted done fields p (doubled field ++ rest) =
      scan .quoted (field.reverse ++ done) fields (p.behind (doubled field)) rest := by
  induction field generalizing done p with
  | nil => rfl
  | cons b others ih =>
      by_cases hquote : b = quote
      · subst hquote
        have hbytes : doubled (quote :: others) = quote :: quote :: doubled others := by
          simp [doubled]
        rw [hbytes]
        simp [scan, effect, ih, Position.behind]
      · have hbytes : doubled (b :: others) = b :: doubled others := by
          simp [doubled, hquote]
        rw [hbytes]
        simp [scan, effect, hquote, ih, Position.behind]

/-- Behind a field in quotes the reader waits for what ends it. -/
theorem scan_quotedField (field : List UInt8) (fields : List (List UInt8)) (p : Position)
    (rest : List UInt8) :
    scan .fieldStart [] fields p (quotedField field ++ rest) =
      scan .quoteSeen field.reverse fields (p.behind (quotedField field)) rest := by
  have hopened : scan .fieldStart [] fields p (quotedField field ++ rest) =
      scan .quoted [] fields (p.after quote) (doubled field ++ quote :: rest) := by
    simp [quotedField, scan, effect]
  rw [hopened, scan_doubled]
  simp [scan, effect, quotedField, Position.behind]

/-! ### One record -/

theorem quotedFields_cons_cons (field second : List UInt8) (more : List (List UInt8)) :
    quotedFields (field :: second :: more) =
      quotedField field ++ comma :: quotedFields (second :: more) := rfl

theorem quotedFields_eq_cons {fields : List (List UInt8)} (hfields : fields ≠ []) :
    ∃ bytes, quotedFields fields = quote :: bytes := by
  cases fields with
  | nil => exact absurd rfl hfields
  | cons field others =>
      cases others with
      | nil => exact ⟨_, rfl⟩
      | cons second more => exact ⟨_, rfl⟩

/-- The fields of a record are read up to the byte that ends its line. -/
theorem scan_quotedFields {fields : List (List UInt8)} (hfields : fields ≠ []) {b : UInt8}
    (hb : isTerminator b = true) (done : List (List UInt8)) (p : Position) (rest : List UInt8) :
    ∃ q, scan .fieldStart [] done p (quotedFields fields ++ b :: rest) =
      ⟨done.reverse ++ fields, rest, q⟩ := by
  have hquote : b ≠ quote := by
    rintro rfl
    contradiction
  have hcomma : b ≠ comma := by
    rintro rfl
    contradiction
  induction fields generalizing done p with
  | nil => exact absurd rfl hfields
  | cons field others ih =>
      cases others with
      | nil =>
          rw [quotedFields, scan_quotedField]
          simp [scan, effect, hb, hquote, hcomma]
      | cons second more =>
          obtain ⟨q, hq⟩ := ih (by simp) (field :: done)
            ((p.behind (quotedField field)).after comma)
          refine ⟨q, ?_⟩
          rw [quotedFields_cons_cons, List.append_assoc, scan_quotedField]
          simpa [scan, effect, comma, quote] using hq

/-! ### Line ends -/

/-- The bytes of line ends all end records. -/
theorem isTerminator_of_mem_lineEnds {ends : List LineEnd} {b : UInt8} (h : b ∈ lineEnds ends) :
    isTerminator b = true := by
  obtain ⟨ending, -, hb⟩ := List.mem_flatMap.mp h
  cases ending <;> simp [LineEnd.bytes] at hb <;> rcases hb with rfl | rfl <;> rfl

/-- A line ends with a byte that ends the record; what else its end has is passed over. -/
theorem bytes_eq_cons (ending : LineEnd) :
    ∃ b more, ending.bytes = b :: more ∧ isTerminator b = true ∧
      ∀ c ∈ more, isTerminator c = true := by
  cases ending with
  | lineFeed => exact ⟨lineFeed, [], rfl, rfl, by simp⟩
  | carriageReturn => exact ⟨carriageReturn, [], rfl, rfl, by simp⟩
  | both => exact ⟨carriageReturn, [lineFeed], rfl, rfl, by simp [isTerminator, lineFeed]⟩

theorem skipTerminators_append {ends : List UInt8} (h : ∀ b ∈ ends, isTerminator b = true)
    (p : Position) (rest : List UInt8) :
    skipTerminators p (ends ++ rest) = skipTerminators (p.behind ends) rest := by
  induction ends generalizing p with
  | nil => rfl
  | cons b others ih =>
      rw [List.cons_append, skipTerminators, if_pos (h b (by simp)),
        ih fun c hc => h c (by simp [hc])]
      rfl

/-! ### Lines -/

/-- The first line is read, behind any line ends, and reading goes on behind it. -/
theorem recordsFrom_line {line : Line} (hfields : line.fields ≠ []) {ends : List UInt8}
    (hends : ∀ b ∈ ends, isTerminator b = true) (position start : Position) (rest : List UInt8) :
    ∃ behind more, (∀ b ∈ more, isTerminator b = true) ∧
      recordsFrom position start (ends ++ (line.bytes ++ rest)) =
        ⟨start, line.fields⟩ :: recordsFrom behind behind (more ++ rest) := by
  obtain ⟨b, more, hending, hb, hmore⟩ := bytes_eq_cons line.ending
  obtain ⟨opened, hopened⟩ := quotedFields_eq_cons hfields
  have hblank : ∀ c ∈ lineEnds line.blank, isTerminator c = true :=
    fun c hc => isTerminator_of_mem_lineEnds hc
  have hbytes : line.bytes ++ rest =
      lineEnds line.blank ++ (quotedFields line.fields ++ b :: (more ++ rest)) := by
    simp [Line.bytes, hending]
  have hskip : skipTerminators position (ends ++ (line.bytes ++ rest)) =
      (quotedFields line.fields ++ b :: (more ++ rest),
        (position.behind ends).behind (lineEnds line.blank)) := by
    rw [skipTerminators_append hends, hbytes, skipTerminators_append hblank, hopened,
      List.cons_append, skipTerminators]
    rfl
  obtain ⟨behind, hscan⟩ := scan_quotedFields hfields hb []
    ((position.behind ends).behind (lineEnds line.blank)) (more ++ rest)
  refine ⟨behind, more, hmore, ?_⟩
  rw [hopened, List.cons_append] at hskip hscan
  rw [recordsFrom_eq_cons hskip, hscan]
  rfl

/-- The records of some lines have their fields. -/
theorem map_fields_recordsFrom {lines : List Line} (hfields : ∀ line ∈ lines, line.fields ≠ [])
    {ends : List UInt8} (hends : ∀ b ∈ ends, isTerminator b = true) (blank : List LineEnd)
    (position start : Position) :
    (recordsFrom position start (ends ++ (lines.flatMap Line.bytes ++ lineEnds blank))).map
        Record.fields =
      lines.map Line.fields := by
  induction lines generalizing ends position start with
  | nil =>
      have hnothing : ∀ b ∈ ends ++ lineEnds blank, isTerminator b = true := by
        intro b hb
        rcases List.mem_append.mp hb with hb | hb
        · exact hends b hb
        · exact isTerminator_of_mem_lineEnds hb
      have hskip := skipTerminators_append hnothing position []
      rw [List.append_nil] at hskip
      rw [List.flatMap_nil, List.nil_append, recordsFrom_eq_nil hskip]
      rfl
  | cons line others ih =>
      obtain ⟨behind, more, hmore, hread⟩ := recordsFrom_line (hfields line (by simp)) hends
        position start (others.flatMap Line.bytes ++ lineEnds blank)
      rw [List.flatMap_cons, List.append_assoc, hread, List.map_cons, List.map_cons,
        ih (fun other hother => hfields other (by simp [hother])) hmore]

/-! ### Whole texts -/

/-- A text of lines begins with a quote or a line end. -/
theorem head?_lines {lines : List Line} (hfields : ∀ line ∈ lines, line.fields ≠ [])
    {blank : List LineEnd} {b : UInt8}
    (h : (lines.flatMap Line.bytes ++ lineEnds blank).head? = some b) :
    b = quote ∨ isTerminator b = true := by
  cases lines with
  | nil => exact Or.inr (isTerminator_of_mem_lineEnds (List.mem_of_mem_head? h))
  | cons line others =>
      obtain ⟨opened, hopened⟩ := quotedFields_eq_cons (hfields line (by simp))
      cases hends : lineEnds line.blank with
      | nil =>
          rw [List.flatMap_cons, Line.bytes, hends, hopened] at h
          exact Or.inl (Option.some.inj h).symm
      | cons c more =>
          rw [List.flatMap_cons, Line.bytes, hends] at h
          cases h
          exact Or.inr (isTerminator_of_mem_lineEnds (hends ▸ List.mem_cons_self))

/-- So it does not begin like a byte-order mark. -/
theorem not_byteOrderMark_isPrefixOf {lines : List Line}
    (hfields : ∀ line ∈ lines, line.fields ≠ []) (blank : List LineEnd) :
    byteOrderMark.isPrefixOf (lines.flatMap Line.bytes ++ lineEnds blank) = false := by
  cases htext : lines.flatMap Line.bytes ++ lineEnds blank with
  | nil => rfl
  | cons b rest =>
      have hhead := head?_lines hfields (b := b) (by rw [htext]; rfl)
      have hfirst : (0xEF == b) = false := by
        rw [beq_eq_false_iff_ne]
        rintro rfl
        revert hhead
        decide
      rw [byteOrderMark, List.isPrefixOf, hfirst, Bool.false_and]

theorem stripMark_written (mark : Bool) {lines : List Line}
    (hfields : ∀ line ∈ lines, line.fields ≠ []) (blank : List LineEnd) :
    stripMark (written mark lines blank) = lines.flatMap Line.bytes ++ lineEnds blank := by
  cases mark with
  | false => simp [written, stripMark, not_byteOrderMark_isPrefixOf hfields]
  | true => simp [written, stripMark, byteOrderMark]

/-- **Lines in quotes are read back as records**, with or without a byte-order mark. -/
theorem map_fields_records (mark : Bool) {lines : List Line}
    (hfields : ∀ line ∈ lines, line.fields ≠ []) (blank : List LineEnd) :
    (records (stripMark (written mark lines blank))).map Record.fields =
      lines.map Line.fields := by
  rw [stripMark_written mark hfields, records, not_byteOrderMark_isPrefixOf hfields]
  have hnone : ∀ b ∈ ([] : List UInt8), isTerminator b = true := by simp
  exact map_fields_recordsFrom hfields hnone blank _ _

end DatasetSync.Csv
