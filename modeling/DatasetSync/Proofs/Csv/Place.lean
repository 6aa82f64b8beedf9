/-
Where a record stands in a text, and in which line.

Reading a record takes the line ends in front of it and then its own bytes up to the byte
that ends it.  What follows plays no part in that, so the bytes that were read before a
record hold just the records before it.

The place a record remembers is where its reading began, in front of the line ends that are
passed over, and only line feeds count in it.  The record itself begins behind these line
ends, and a carriage return alone ends a line as well.  So the two lines differ as soon as
anything is passed over in front of the record, be it only the line feed that belongs to
the carriage return before, or some carriage return stands alone.
-/
import DatasetSync.Proofs.Csv.Quoted

namespace DatasetSync.Csv

/-! ### Lines -/

/-- How many lines end within some bytes.  A carriage return and a line feed behind it are one
end. -/
def lineBreaks : List UInt8 → Nat
  | [] => 0
  | b :: rest =>
    (if b = carriageReturn ∧ rest.head? = some lineFeed then 0
      else if isTerminator b then 1 else 0) + lineBreaks rest

example : lineBreaks [0x61, carriageReturn, lineFeed, lineFeed, carriageReturn, 0x62] = 3 := by
  decide

/-- Every carriage return is followed by a line feed. -/
def ReturnsPaired (bytes : List UInt8) : Prop :=
  ∀ i, bytes[i]? = some carriageReturn → bytes[i + 1]? = some lineFeed

theorem returnsPaired_cons_iff {b : UInt8} {rest : List UInt8} :
    ReturnsPaired (b :: rest) ↔
      (b = carriageReturn → rest.head? = some lineFeed) ∧ ReturnsPaired rest := by
  constructor
  · intro h
    refine ⟨fun hb => ?_, fun i hi => h (i + 1) hi⟩
    rw [List.head?_eq_getElem?]
    exact h 0 (congrArg some hb)
  · rintro ⟨hfirst, hrest⟩ i hi
    cases i with
    | zero =>
        rw [List.getElem?_cons_succ, ← List.head?_eq_getElem?]
        exact hfirst (Option.some.inj hi)
    | succ i => exact hrest i hi

/-- Line feeds are the ends of lines apart from the carriage returns that stand alone. -/
theorem count_lineFeed_le (bytes : List UInt8) : bytes.count lineFeed ≤ lineBreaks bytes := by
  induction bytes with
  | nil => exact Nat.le_refl 0
  | cons b rest ih =>
      rw [lineBreaks, List.count_cons]
      by_cases hfeed : b = lineFeed
      · subst hfeed
        simp [lineFeed, carriageReturn, isTerminator] at *
        omega
      · rw [if_neg (by simpa using hfeed)]
        omega

theorem lineBreaks_eq_count_iff {bytes : List UInt8} :
    lineBreaks bytes = bytes.count lineFeed ↔ ReturnsPaired bytes := by
  induction bytes with
  | nil => simp [lineBreaks, ReturnsPaired]
  | cons b rest ih =>
      have hle := count_lineFeed_le rest
      rw [lineBreaks, List.count_cons, returnsPaired_cons_iff, ← ih]
      by_cases hfeed : b = lineFeed
      · subst hfeed
        simp [lineFeed, carriageReturn, isTerminator]
        omega
      · by_cases hreturn : b = carriageReturn
        · subst hreturn
          by_cases hpaired : rest.head? = some lineFeed
          · simp [hpaired, hfeed]
          · simp [hpaired, hfeed, isTerminator]
            omega
        · simp [hfeed, hreturn, isTerminator]

/-- The line of the byte behind some bytes. -/
def lineBehind (bytes : List UInt8) : Nat :=
  1 + lineBreaks bytes

/-- Counting line feeds in front of some line ends gives the line behind these only if there are none
and every carriage return before is followed by a line feed. -/
theorem lineBehind_eq_iff {before gap : List UInt8} (hgap : ∀ b ∈ gap, isTerminator b = true) :
    1 + before.count lineFeed = lineBehind (before ++ gap) ↔
      gap = [] ∧ ReturnsPaired before := by
  constructor
  · intro h
    have hle := count_lineFeed_le (before ++ gap)
    rw [lineBehind] at h
    rw [List.count_append] at hle
    have hpaired : ReturnsPaired (before ++ gap) := by
      rw [← lineBreaks_eq_count_iff, List.count_append]
      omega
    rcases List.eq_nil_or_concat gap with rfl | ⟨ends, b, rfl⟩
    · rw [List.append_nil] at hpaired
      exact ⟨rfl, hpaired⟩
    · -- The last line end would be a carriage return with nothing behind it.
      rw [List.concat_eq_append] at hgap hle hpaired h
      have hfeed : b ≠ lineFeed := by
        rintro rfl
        rw [List.count_append, List.count_singleton_self] at hle
        omega
      have hreturn : b = carriageReturn := by
        simpa [isTerminator, hfeed] using hgap b (by simp)
      have hnext := hpaired (before ++ ends).length
      rw [← List.append_assoc, hreturn, List.getElem?_concat_length,
        List.getElem?_eq_none (by simp [Nat.add_assoc])] at hnext
      exact absurd (hnext rfl) (by simp)
  · rintro ⟨rfl, hpaired⟩
    rw [List.append_nil, lineBehind, lineBreaks_eq_count_iff.mpr hpaired]

/-! ### Places -/

theorem Position.behind_append (p : Position) (first second : List UInt8) :
    p.behind (first ++ second) = (p.behind first).behind second :=
  List.foldl_append

theorem Position.line_behind (p : Position) (bytes : List UInt8) :
    (p.behind bytes).line = p.line + bytes.count lineFeed := by
  induction bytes generalizing p with
  | nil => rfl
  | cons b rest ih =>
      have hrest := ih (p.after b)
      rw [List.count_cons]
      show ((p.after b).behind rest).line = _
      rw [hrest]
      simp only [Position.after]
      split <;> omega

/-- One byte takes a read further, or ends it, whatever follows. -/
theorem scan_cons_cases (place : Place) (field : List UInt8) (fields : List (List UInt8))
    (p : Position) (b : UInt8) :
    (∃ next field' fields', ∀ rest,
      scan place field fields p (b :: rest) = scan next field' fields' (p.after b) rest) ∨
    ∃ fields', ∀ rest, scan place field fields p (b :: rest) = ⟨fields', rest, p.after b⟩ := by
  cases heffect : effect place b with
  | keep next => exact .inl ⟨next, b :: field, fields, fun rest => by rw [scan, heffect]⟩
  | drop next => exact .inl ⟨next, field, fields, fun rest => by rw [scan, heffect]⟩
  | endField =>
      exact .inl ⟨.fieldStart, [], field.reverse :: fields, fun rest => by rw [scan, heffect]⟩
  | endRecord => exact .inr ⟨_, fun rest => by rw [scan, heffect]⟩

/-- A read of a record takes some bytes from the front.  If anything is left, the same bytes give the
same fields whatever follows them. -/
theorem scan_split (place : Place) (field : List UInt8) (fields : List (List UInt8)) (p : Position)
    (bytes : List UInt8) :
    ∃ body, bytes = body ++ (scan place field fields p bytes).rest ∧
      (scan place field fields p bytes).position = p.behind body ∧
      ((scan place field fields p bytes).rest ≠ [] → ∀ other,
        scan place field fields p (body ++ other) =
          ⟨(scan place field fields p bytes).fields, other, p.behind body⟩) := by
  induction bytes generalizing place field fields p with
  | nil => exact ⟨[], rfl, rfl, fun h => absurd rfl h⟩
  | cons b rest ih =>
      rcases scan_cons_cases place field fields p b with ⟨next, field', fields', hgoes⟩ |
        ⟨fields', hends⟩
      · obtain ⟨body, hbytes, hposition, hother⟩ := ih next field' fields' (p.after b)
        rw [hgoes]
        refine ⟨b :: body, congrArg (b :: ·) hbytes, hposition, fun hrest other => ?_⟩
        rw [List.cons_append, hgoes]
        exact hother hrest other
      · rw [hends]
        exact ⟨[b], rfl, rfl, fun _ other => hends other⟩

/-- What is passed over in front of a record are line ends, and nothing else is one. -/
theorem skipTerminators_split (p : Position) (bytes : List UInt8) :
    ∃ gap, bytes = gap ++ (skipTerminators p bytes).1 ∧
      (skipTerminators p bytes).2 = p.behind gap ∧ (∀ b ∈ gap, isTerminator b = true) ∧
      ∀ b rest, (skipTerminators p bytes).1 = b :: rest → isTerminator b = false := by
  induction bytes generalizing p with
  | nil => exact ⟨[], rfl, rfl, by simp, by simp [skipTerminators]⟩
  | cons b rest ih =>
      by_cases hb : isTerminator b = true
      · obtain ⟨gap, hbytes, hposition, hgap, hnext⟩ := ih (p.after b)
        simp only [skipTerminators, hb, if_true]
        refine ⟨b :: gap, congrArg (b :: ·) hbytes, hposition, ?_, hnext⟩
        rw [List.forall_mem_cons]
        exact ⟨hb, hgap⟩
      · simp only [skipTerminators, hb]
        refine ⟨[], rfl, rfl, by simp, ?_⟩
        intro c more heq
        obtain ⟨rfl, -⟩ := List.cons.inj heq
        simpa using hb

/-- The first record takes the line ends `gap` and its own bytes `body`.  If anything is left, they
give the same record whatever follows them. -/
theorem recordsFrom_split {position start : Position} {bytes : List UInt8} {record : Record}
    {later : List Record} (h : recordsFrom position start bytes = record :: later) :
    ∃ gap body rest, bytes = gap ++ (body ++ rest) ∧ (∀ b ∈ gap, isTerminator b = true) ∧
      (∃ b more, body ++ rest = b :: more ∧ isTerminator b = false) ∧
      record = ⟨start, (scan .fieldStart [] [] (position.behind gap) (body ++ rest)).fields⟩ ∧
      later = recordsFrom (position.behind (gap ++ body)) (position.behind (gap ++ body)) rest ∧
      (rest ≠ [] → ∀ other, recordsFrom position start (gap ++ (body ++ other)) =
        record ::
          recordsFrom (position.behind (gap ++ body)) (position.behind (gap ++ body)) other) := by
  obtain ⟨gap, hbytes, hbehind, hgap, hnext⟩ := skipTerminators_split position bytes
  cases hskip : (skipTerminators position bytes).1 with
  | nil =>
      rw [recordsFrom_eq_nil (Prod.ext hskip rfl)] at h
      contradiction
  | cons b more =>
      have hb : isTerminator b = false := hnext b more hskip
      rw [hskip] at hbytes
      have hread : skipTerminators position bytes = (b :: more, position.behind gap) :=
        Prod.ext hskip hbehind
      rw [recordsFrom_eq_cons hread, List.cons_eq_cons] at h
      obtain ⟨hrecord, hlater⟩ := h
      obtain ⟨body, hbody, hposition, hother⟩ :=
        scan_split .fieldStart [] [] (position.behind gap) (b :: more)
      have hshort := scan_rest_lt .fieldStart [] [] (position.behind gap) b more
      generalize hscan : scan .fieldStart [] [] (position.behind gap) (b :: more) = read at *
      -- The record takes at least the byte that it begins with.
      obtain ⟨rest, rfl⟩ : ∃ rest, body = b :: rest := by
        cases body with
        | nil =>
            rw [hbody, List.nil_append] at hshort
            exact absurd hshort (Nat.lt_irrefl _)
        | cons c rest =>
            obtain ⟨rfl, -⟩ := List.cons.inj hbody
            exact ⟨rest, rfl⟩
      rw [← Position.behind_append] at hposition hother
      refine ⟨gap, b :: rest, read.rest, by rw [hbytes, hbody], hgap, ⟨b, _, rfl, hb⟩, ?_, ?_, ?_⟩
      · rw [← hbody, hscan, hrecord]
      · rw [← hlater, hposition]
      · intro hleft other
        have hskipped : skipTerminators position (gap ++ (b :: rest ++ other)) =
            (b :: (rest ++ other), position.behind gap) := by
          rw [skipTerminators_append hgap, List.cons_append, skipTerminators, hb]
          rfl
        have hscanned : scan .fieldStart [] [] (position.behind gap) (b :: (rest ++ other)) =
            ⟨read.fields, other, position.behind (gap ++ b :: rest)⟩ := hother hleft other
        rw [recordsFrom_eq_cons hskipped, hscanned, hrecord]

/-- A record stands behind the bytes `before`, which hold just the records that are read before it:
its reading begins there, passes over the line ends `gap`, and takes it from the front of `rest`. -/
structure StandsAt (before gap rest : List UInt8) (earlier : List Record) (record : Record) :
    Prop where
  before_eq : records before = earlier
  start_eq : record.start = Position.behind {} before
  gap_ends : ∀ b ∈ gap, isTerminator b = true
  begins : ∃ b more, rest = b :: more ∧ isTerminator b = false
  fields_eq : (scan .fieldStart [] [] (Position.behind {} (before ++ gap)) rest).fields =
    record.fields

theorem recordsFrom_nil (position start : Position) : recordsFrom position start [] = [] :=
  recordsFrom_eq_nil rfl

/-- Every record but the first stands behind the bytes of those before it. -/
theorem exists_place_recordsFrom {position start : Position} {bytes : List UInt8}
    {first record : Record} {earlier later : List Record}
    (h : recordsFrom position start bytes = first :: (earlier ++ record :: later)) :
    ∃ before gap rest, bytes = before ++ gap ++ rest ∧
      recordsFrom position start before = first :: earlier ∧
      record.start = position.behind before ∧ (∀ b ∈ gap, isTerminator b = true) ∧
      (∃ b more, rest = b :: more ∧ isTerminator b = false) ∧
      (scan .fieldStart [] [] (position.behind (before ++ gap)) rest).fields = record.fields := by
  induction earlier generalizing position start bytes first with
  | nil =>
      obtain ⟨gap, body, left, rfl, -, -, -, hlater, hother⟩ := recordsFrom_split h
      obtain ⟨ends, own, rest, rfl, hends, hown, rfl, -, -⟩ := recordsFrom_split hlater.symm
      have hleft : ends ++ (own ++ rest) ≠ [] := by
        obtain ⟨b, more, heq, -⟩ := hown
        simp [heq]
      have hbefore := hother hleft []
      rw [recordsFrom_nil, List.append_nil] at hbefore
      refine ⟨gap ++ body, ends, own ++ rest, ?_, hbefore, rfl, hends, hown, ?_⟩
      · simp only [List.append_assoc]
      · rw [Position.behind_append _ (gap ++ body)]
  | cons second earlier ih =>
      obtain ⟨gap, body, left, rfl, -, -, -, hlater, hother⟩ := recordsFrom_split h
      have hleft : left ≠ [] := by
        rintro rfl
        rw [recordsFrom_nil] at hlater
        contradiction
      obtain ⟨before, ends, rest, rfl, hbefore, hstart, hends, hown, hfields⟩ := ih hlater.symm
      refine ⟨gap ++ (body ++ before), ends, rest, ?_, ?_, ?_, hends, hown, ?_⟩
      · simp only [List.append_assoc]
      · rw [hother hleft before, hbefore]
      · rw [hstart, ← Position.behind_append, List.append_assoc]
      · rw [← hfields, ← Position.behind_append]
        simp only [List.append_assoc]

/-! ### Byte-order marks -/

theorem mark_isPrefixOf_append (bytes : List UInt8) :
    byteOrderMark.isPrefixOf (byteOrderMark ++ bytes) = true :=
  List.isPrefixOf_iff_prefix.mpr (List.prefix_append _ _)

theorem records_mark_append (bytes : List UInt8) :
    records (byteOrderMark ++ bytes) = recordsFrom ⟨1, 3⟩ ⟨1, 0⟩ bytes := by
  rw [records, if_pos (mark_isPrefixOf_append bytes)]
  rfl

theorem stripMark_mark_append (bytes : List UInt8) :
    stripMark (byteOrderMark ++ bytes) = bytes := by
  rw [stripMark, if_pos (mark_isPrefixOf_append bytes)]
  rfl

theorem isPrefixOf_of_append {mark first second : List UInt8}
    (h : mark.isPrefixOf (first ++ second) = false) : mark.isPrefixOf first = false := by
  rw [Bool.eq_false_iff] at h ⊢
  intro hfirst
  apply h
  rw [List.isPrefixOf_iff_prefix] at hfirst ⊢
  exact hfirst.trans (List.prefix_append first second)

/-- **Every record of a text but the first has its place in it.** -/
theorem exists_place {text : List UInt8} {first record : Record} {earlier later : List Record}
    (h : records text = first :: (earlier ++ record :: later)) :
    ∃ before gap rest, text = before ++ gap ++ rest ∧
      StandsAt before gap rest (first :: earlier) record := by
  by_cases hmark : byteOrderMark.isPrefixOf text = true
  · obtain ⟨bytes, rfl⟩ := List.isPrefixOf_iff_prefix.mp hmark
    rw [records_mark_append] at h
    obtain ⟨before, gap, rest, hbytes, hbefore, hstart, hgap, hbegins, hfields⟩ :=
      exists_place_recordsFrom h
    have hskipped : ∀ bytes, (⟨1, 3⟩ : Position).behind bytes =
        Position.behind {} (byteOrderMark ++ bytes) := fun bytes => rfl
    refine ⟨byteOrderMark ++ before, gap, rest, by simp [hbytes], ?_, ?_, hgap, hbegins, ?_⟩
    · rw [records_mark_append]
      exact hbefore
    · rw [hstart, hskipped]
    · rw [← hfields, hskipped, List.append_assoc]
  · rw [records, if_neg hmark] at h
    obtain ⟨before, gap, rest, rfl, hbefore, hstart, hgap, hbegins, hfields⟩ :=
      exists_place_recordsFrom h
    refine ⟨before, gap, rest, rfl, ?_, hstart, hgap, hbegins, hfields⟩
    rw [Bool.not_eq_true, List.append_assoc] at hmark
    rw [records, isPrefixOf_of_append hmark]
    exact hbefore

/-- The bytes of a payload in front of a place in what is left of it without a byte-order mark. -/
theorem exists_of_stripMark {payload before rest : List UInt8}
    (h : stripMark payload = before ++ rest) :
    ∃ front, payload = front ++ rest ∧ stripMark front = before ∧
      front.count lineFeed = before.count lineFeed := by
  by_cases hmark : byteOrderMark.isPrefixOf payload = true
  · obtain ⟨bytes, rfl⟩ := List.isPrefixOf_iff_prefix.mp hmark
    rw [stripMark_mark_append] at h
    have hnone : byteOrderMark.count lineFeed = 0 := by decide
    refine ⟨byteOrderMark ++ before, ?_, stripMark_mark_append before, ?_⟩
    · rw [h, List.append_assoc]
    · rw [List.count_append, hnone, Nat.zero_add]
  · rw [stripMark, if_neg hmark] at h
    subst h
    refine ⟨before, rfl, ?_, rfl⟩
    rw [Bool.not_eq_true] at hmark
    rw [stripMark, isPrefixOf_of_append hmark]
    rfl

end DatasetSync.Csv
