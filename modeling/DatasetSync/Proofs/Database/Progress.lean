/-
How far a load says that it has come.

A load tells of its progress after each batch, and of nothing else.  Every batch but the
last is full, so the count after the batch `k` is `k` times the size of a batch, or the
number of all rows where that is smaller.  Inserting the batches one after the other is
inserting their rows one after the other.  So a load goes as far as the first row that is
refused, wherever in its batch this row stands, and by then it has told of the full
batches in front of the row and of no other.
-/
import DatasetSync.Proofs.Database.Load

namespace DatasetSync

/-- Notices alone are told as they are. -/
theorem Event.notices_map (notices : List Notice) :
    Event.notices (notices.map Event.notice) = notices := by
  induction notices with
  | nil => rfl
  | cons notice rest ih =>
      show notice :: Event.notices (rest.map Event.notice) = notice :: rest
      rw [ih]

namespace Database

/-! ### Counts -/

/-- How many of `total` rows are inserted after each of `k` batches, of which the first is the one
numbered `first`. -/
def batchCounts (total first k : Nat) : List Nat :=
  (List.range' first k).map fun j => min (batchSize * j) total

/-- How many batches there are of `n` rows. -/
def batchNumber (n : Nat) : Nat :=
  (n + batchSize - 1) / batchSize

/-- What is told after batches of rows for a table. -/
def countNotices (table : String) (total : Nat) (counts : List Nat) : List Notice :=
  counts.map fun count => .progress ⟨count, total, table⟩

theorem countNotices_succ (table : String) (total first k : Nat) :
    countNotices table total (batchCounts total first (k + 1)) =
      .progress ⟨min (batchSize * first) total, total, table⟩ ::
        countNotices table total (batchCounts total (first + 1) k) := by
  simp [countNotices, batchCounts, List.range'_succ]

/-- The counts after all batches grow from each to the next. -/
theorem pairwise_batchCounts (n : Nat) : (batchCounts n 1 (batchNumber n)).Pairwise (· < ·) := by
  rw [batchCounts, List.pairwise_map]
  refine List.Pairwise.imp_of_mem ?_ List.pairwise_lt_range'
  intro a b _ hb hab
  have hlast : b ≤ batchNumber n := by
    have := (List.mem_range'_1.mp hb).2
    omega
  -- The batch before the last is full, and some rows are left for the last.
  have hfull : batchSize * a < n := by
    unfold batchNumber at hlast
    unfold batchSize at hlast ⊢
    omega
  have hless : batchSize * a < batchSize * b := by
    unfold batchSize
    omega
  omega

/-- The last of them is the number of all rows. -/
theorem getLast?_batchCounts (n : Nat) :
    (batchCounts n 1 (batchNumber n)).getLast? = if n = 0 then none else some n := by
  rw [batchCounts, List.getLast?_map, List.getLast?_range']
  by_cases hn : n = 0
  · simp [hn, batchNumber, batchSize]
  · have hsome : batchNumber n ≠ 0 := by
      unfold batchNumber batchSize
      omega
    have hall : min (batchSize * (1 + batchNumber n - 1)) n = n := by
      unfold batchNumber batchSize
      omega
    rw [if_neg hsome, if_neg hn, Option.map_some, hall]

/-! ### Rows in two parts -/

section Rows

variable {s : Schema} {t t' : Table} {first second rows : List (List (Option String))}
  {failure : Failure} {i : Nat}

theorem insertRows_append_of_ok (h : insertRows s t first = (.ok (), t')) :
    insertRows s t (first ++ second) = insertRows s t' second := by
  induction first generalizing t with
  | nil =>
      cases h
      rfl
  | cons row rest ih =>
      rw [insertRows] at h
      rw [List.cons_append, insertRows]
      split at h
      · cases h
      · exact ih h

theorem insertRows_append_of_error (h : insertRows s t first = (.error failure, t')) :
    insertRows s t (first ++ second) = (.error failure, t') := by
  induction first generalizing t with
  | nil => cases h
  | cons row rest ih =>
      rw [insertRows] at h
      rw [List.cons_append, insertRows]
      split at h
      · exact h
      · exact ih h

/-- Rows that all go in begin with rows that all go in. -/
theorem exists_insertRows_of_append (h : insertRows s t (first ++ second) = (.ok (), t')) :
    ∃ between, insertRows s t first = (.ok (), between) ∧
      insertRows s between second = (.ok (), t') := by
  rcases hfirst : insertRows s t first with ⟨failure | _, between⟩
  · rw [insertRows_append_of_error hfirst] at h
    cases h
  · rw [insertRows_append_of_ok hfirst] at h
    exact ⟨between, rfl, h⟩

/-! ### The first row that is refused -/

/-- The row at `i` is the first that is refused: the rows before it went into the table, and into
this table it did not go. -/
inductive RefusedAt (s : Schema) (t : Table) (rows : List (List (Option String))) (i : Nat)
    (failure : Failure) : Prop
  | intro {filled : Table} {row : List (Option String)}
      (before : insertRows s t (rows.take i) = (.ok (), filled)) (there : rows[i]? = some row)
      (refused : insertRow s filled row = .error failure)

theorem RefusedAt.lt (h : RefusedAt s t rows i failure) : i < rows.length := by
  obtain ⟨-, hthere, -⟩ := h
  exact (List.getElem?_eq_some_iff.mp hthere).1

theorem RefusedAt.insertRows (h : RefusedAt s t rows i failure) :
    ∃ filled, insertRows s t rows = (.error failure, filled) := by
  obtain ⟨hbefore, hthere, hrefused⟩ := h
  obtain ⟨hi, rfl⟩ := List.getElem?_eq_some_iff.mp hthere
  rw [← List.take_append_drop i rows, insertRows_append_of_ok hbefore,
    List.drop_eq_getElem_cons hi, Database.insertRows, hrefused]
  exact ⟨_, rfl⟩

/-- Rows that do not all go in have a first that is refused. -/
theorem exists_refusedAt (h : insertRows s t rows = (.error failure, t')) :
    ∃ i, RefusedAt s t rows i failure := by
  induction rows generalizing t with
  | nil => cases h
  | cons row rest ih =>
      rw [insertRows] at h
      split at h
      · rename_i hrow
        cases h
        exact ⟨0, rfl, rfl, hrow⟩
      · rename_i next hrow
        obtain ⟨i, hbefore, hthere, hrefused⟩ := ih h
        refine ⟨i + 1, ?_, hthere, hrefused⟩
        rw [List.take_succ_cons, insertRows, hrow]
        exact hbefore

theorem RefusedAt.take {n : Nat} (h : RefusedAt s t rows i failure) (hi : i < n) :
    RefusedAt s t (rows.take n) i failure := by
  obtain ⟨hbefore, hthere, hrefused⟩ := h
  refine ⟨?_, ?_, hrefused⟩
  · rw [List.take_take, Nat.min_eq_left (Nat.le_of_lt hi)]
    exact hbefore
  · rw [List.getElem?_take_of_lt hi]
    exact hthere

theorem RefusedAt.drop {n : Nat} (h : RefusedAt s t rows i failure) (hn : n ≤ i) :
    ∃ between, Database.insertRows s t (rows.take n) = (.ok (), between) ∧
      RefusedAt s between (rows.drop n) (i - n) failure := by
  obtain ⟨hbefore, hthere, hrefused⟩ := h
  have hparts : rows.take i = rows.take n ++ (rows.drop n).take (i - n) := by
    rw [← List.take_add, Nat.add_sub_cancel' hn]
  rw [hparts] at hbefore
  obtain ⟨between, hfirst, hsecond⟩ := exists_insertRows_of_append hbefore
  refine ⟨between, hfirst, hsecond, ?_, hrefused⟩
  rw [List.getElem?_drop, Nat.add_sub_cancel' hn]
  exact hthere

end Rows

/-! ### Batches

Behind `m` batches so many rows are inserted as these hold if all of them are full, or all rows.
This goes through the induction, for only the last batch may not be full.
-/

section Batches

variable {s : Schema} {t t' : Table} {batch rows : List (List (Option String))}
  {rest : List (List (List (Option String)))} {failure : Failure} {i m done total : Nat}

theorem insertBatches_cons_of_ok (h : insertRows s t batch = (.ok (), t')) :
    insertBatches s total done t (batch :: rest) =
      ((insertBatches s total (done + batch.length) t' rest).1,
        (insertBatches s total (done + batch.length) t' rest).2.1,
        .notice (.progress ⟨done + batch.length, total, s.name⟩) ::
          (insertBatches s total (done + batch.length) t' rest).2.2) := by
  rw [insertBatches, h]

theorem insertBatches_cons_of_error (h : insertRows s t batch = (.error failure, t')) :
    insertBatches s total done t (batch :: rest) = (.error failure, t', []) := by
  rw [insertBatches, h]

theorem add_length_batch (hdone : done = min (batchSize * m) total)
    (htotal : done + rows.length = total) :
    done + (rows.take batchSize).length = min (batchSize * (m + 1)) total ∧
      done + (rows.take batchSize).length + (rows.drop batchSize).length = total := by
  rw [List.length_take, List.length_drop, Nat.mul_succ]
  omega

/-- If all rows go in, each batch is told of, and the count comes to all rows. -/
theorem insertBatches_of_inserted (h : insertRows s t rows = (.ok (), t'))
    (hdone : done = min (batchSize * m) total) (htotal : done + rows.length = total) :
    insertBatches s total done t (batches rows) = (.ok total, t',
      (countNotices s.name total (batchCounts total (m + 1) (batchNumber rows.length))).map
        Event.notice) := by
  induction rows using batches.induct generalizing m done t with
  | case1 rows hempty =>
      obtain rfl : rows = [] := List.isEmpty_iff.mp hempty
      cases h
      rw [batches, if_pos hempty, insertBatches, ← htotal]
      rfl
  | case2 rows hsome ih =>
      rw [← List.take_append_drop batchSize rows] at h
      obtain ⟨between, hbatch, hrest⟩ := exists_insertRows_of_append h
      obtain ⟨hdone', htotal'⟩ := add_length_batch hdone htotal
      have hnumber : batchNumber rows.length = batchNumber (rows.drop batchSize).length + 1 := by
        have hpos : 0 < rows.length := List.length_pos_iff.mpr (by simpa using hsome)
        rw [List.length_drop]
        unfold batchNumber batchSize
        omega
      rw [batches, if_neg hsome, insertBatches_cons_of_ok hbatch, ih hrest hdone' htotal', hdone',
        hnumber, countNotices_succ]
      rfl

/-- If a row is refused, the full batches in front of it are told of. -/
theorem insertBatches_of_refusedAt (h : RefusedAt s t rows i failure)
    (hdone : done = min (batchSize * m) total) (htotal : done + rows.length = total) :
    ∃ filled, insertBatches s total done t (batches rows) = (.error failure, filled,
      (countNotices s.name total (batchCounts total (m + 1) (i / batchSize))).map
        Event.notice) := by
  induction rows using batches.induct generalizing m done t i with
  | case1 rows hempty =>
      obtain rfl : rows = [] := List.isEmpty_iff.mp hempty
      exact absurd h.lt (Nat.not_lt_zero i)
  | case2 rows hsome ih =>
      rw [batches, if_neg hsome]
      by_cases hi : i < batchSize
      · obtain ⟨filled, hbatch⟩ := (h.take hi).insertRows
        rw [insertBatches_cons_of_error hbatch, Nat.div_eq_of_lt hi]
        exact ⟨filled, rfl⟩
      · obtain ⟨between, hbatch, hrest⟩ := h.drop (Nat.le_of_not_lt hi)
        obtain ⟨hdone', htotal'⟩ := add_length_batch hdone htotal
        obtain ⟨filled, hlater⟩ := ih hrest hdone' htotal'
        have hnumber : i / batchSize = (i - batchSize) / batchSize + 1 := by
          unfold batchSize at hi ⊢
          omega
        rw [insertBatches_cons_of_ok hbatch, hlater, hdone', hnumber, countNotices_succ]
        exact ⟨filled, rfl⟩

end Batches

/-! ### Loads -/

section Loads

variable {db : Database} {source : Source} {s : Schema} {d : Dataset} {replace : Bool}
  {failure : Failure} {i : Nat}

/-- Behind its statements a load inserts the batches of its rows. -/
theorem load_of_prepared {cleared registered : Database}
    (h : db.Stages source s replace cleared registered) :
    (db.load source s d replace).result =
        (insertBatches s d.rowCount 0 (Table.ofSchema s) (batches d.rows)).1 ∧
      Event.notices (db.load source s d replace).events =
        Event.notices (insertBatches s d.rowCount 0 (Table.ofSchema s) (batches d.rows)).2.2 := by
  have hrun : (Transaction.start db).run (preparations source s replace) =
      (.ok (), ⟨db, registered.withTable (Table.ofSchema s)⟩) :=
    run_preparations_eq_ok.mpr ⟨cleared, registered, h, rfl⟩
  have hfound : (registered.withTable (Table.ofSchema s)).table? s.name =
      some (Table.ofSchema s) := h.table?_self rfl
  simp [load, Transaction.work, hrun, Transaction.fill, hfound, Event.notices, Event.log]

/-- A load whose statements do not all come out well inserts nothing. -/
theorem load_of_not_prepared
    (h : ¬∃ cleared registered, db.Stages source s replace cleared registered) :
    (∃ failure, (db.load source s d replace).result = .error failure) ∧
      Event.notices (db.load source s d replace).events = [] := by
  rcases hrun : (Transaction.start db).run (preparations source s replace) with ⟨failure | _, tx⟩
  · simp [load, Transaction.work, hrun, Event.notices, Event.log]
  · obtain ⟨cleared, registered, hstages, -⟩ := run_preparations_eq_ok.mp hrun
    exact absurd ⟨cleared, registered, hstages⟩ h

/-- The row at `i` is the first that a load does not insert: its statements before the rows came
out well, and so did the rows before this one. -/
structure LoadStopsAt (db : Database) (source : Source) (s : Schema) (d : Dataset)
    (replace : Bool) (i : Nat) (failure : Failure) : Prop where
  prepared : ∃ cleared registered, db.Stages source s replace cleared registered
  refused : RefusedAt s (Table.ofSchema s) d.rows i failure

theorem load_of_stopsAt (h : db.LoadStopsAt source s d replace i failure) :
    (db.load source s d replace).result = .error failure ∧
      Event.notices (db.load source s d replace).events =
        countNotices s.name d.rowCount (batchCounts d.rowCount 1 (i / batchSize)) := by
  obtain ⟨cleared, registered, hstages⟩ := h.prepared
  obtain ⟨hresult, hnotices⟩ := load_of_prepared (d := d) hstages
  have hnone : 0 = min (batchSize * 0) d.rowCount := (Nat.zero_min _).symm
  obtain ⟨filled, hinserted⟩ :=
    insertBatches_of_refusedAt h.refused hnone (Nat.zero_add d.rows.length)
  rw [hinserted] at hresult hnotices
  rw [Event.notices_map] at hnotices
  exact ⟨hresult, hnotices⟩

/-- A load inserts all rows of its dataset, stops at one of them, or does not come to them. -/
theorem load_cases (db : Database) (source : Source) (s : Schema) (d : Dataset)
    (replace : Bool) :
    ((db.load source s d replace).result = .ok d.rowCount ∧
      Event.notices (db.load source s d replace).events =
        countNotices s.name d.rowCount (batchCounts d.rowCount 1 (batchNumber d.rowCount))) ∨
    (∃ i failure, db.LoadStopsAt source s d replace i failure) ∨
    ((¬∃ cleared registered, db.Stages source s replace cleared registered) ∧
      (∃ failure, (db.load source s d replace).result = .error failure) ∧
      Event.notices (db.load source s d replace).events = []) := by
  by_cases hprepared : ∃ cleared registered, db.Stages source s replace cleared registered
  · rcases hrows : insertRows s (Table.ofSchema s) d.rows with ⟨failure | _, filled⟩
    · obtain ⟨i, hrefused⟩ := exists_refusedAt hrows
      exact Or.inr (Or.inl ⟨i, failure, hprepared, hrefused⟩)
    · obtain ⟨cleared, registered, hstages⟩ := hprepared
      obtain ⟨hresult, hnotices⟩ := load_of_prepared (d := d) hstages
      have hnone : 0 = min (batchSize * 0) d.rowCount := (Nat.zero_min _).symm
      rw [insertBatches_of_inserted hrows hnone (Nat.zero_add d.rows.length)] at hresult hnotices
      rw [Event.notices_map] at hnotices
      exact Or.inl ⟨hresult, hnotices⟩
  · exact Or.inr (Or.inr ⟨hprepared, load_of_not_prepared hprepared⟩)

/-- **The progress of a load is exact.**  A load that comes out well tells the number of rows
inserted so far after each batch, up to all of them.  A load that stops at a row has told of the
full batches in front of this row, and one that stops before its rows has told of nothing. -/
theorem load_progress_exact (db : Database) (source : Source) (s : Schema) (d : Dataset)
    (replace : Bool) :
    (∀ n, (db.load source s d replace).result = .ok n →
      n = d.rows.length ∧
      ∃ counts, counts = (List.range' 1 ((n + 999) / 1000)).map (fun k => min (1000 * k) n) ∧
        Event.notices (db.load source s d replace).events =
          counts.map (fun count => .progress ⟨count, n, s.name⟩) ∧
        counts.Pairwise (· < ·) ∧ counts.getLast? = if n = 0 then none else some n) ∧
    (∀ i failure, db.LoadStopsAt source s d replace i failure →
      (db.load source s d replace).result = .error failure ∧
      Event.notices (db.load source s d replace).events =
        (List.range' 1 (i / 1000)).map fun k =>
          .progress ⟨min (1000 * k) d.rows.length, d.rows.length, s.name⟩) ∧
    (∀ failure, (db.load source s d replace).result = .error failure →
      (∃ i, db.LoadStopsAt source s d replace i failure) ∨
      (¬∃ cleared registered, db.Stages source s replace cleared registered) ∧
        Event.notices (db.load source s d replace).events = []) := by
  refine ⟨fun n hn => ?_, fun i failure hstops => ?_, fun failure hfailed => ?_⟩
  · rcases load_cases db source s d replace with
      ⟨hresult, hnotices⟩ | ⟨i, failure, hstops⟩ | ⟨-, ⟨failure, hfailed⟩, -⟩
    · rw [hresult, Except.ok.injEq] at hn
      subst hn
      exact ⟨rfl, _, rfl, hnotices, pairwise_batchCounts d.rowCount,
        getLast?_batchCounts d.rowCount⟩
    · rw [(load_of_stopsAt hstops).1] at hn
      contradiction
    · rw [hfailed] at hn
      contradiction
  · obtain ⟨hresult, hnotices⟩ := load_of_stopsAt hstops
    refine ⟨hresult, hnotices.trans ?_⟩
    rw [countNotices, batchCounts, List.map_map]
    rfl
  · rcases load_cases db source s d replace with
      ⟨hresult, -⟩ | ⟨i, failure', hstops⟩ | ⟨hprepared, -, hnotices⟩
    · rw [hresult] at hfailed
      contradiction
    · rw [(load_of_stopsAt hstops).1, Except.error.injEq] at hfailed
      subst hfailed
      exact Or.inl ⟨i, hstops⟩
    · exact Or.inr ⟨hprepared, hnotices⟩

end Loads

/-- A table of one number in each row, which must not be missing. -/
def numbered : Schema :=
  ⟨"moves", [⟨"id", .integer, false⟩]⟩

def numberedRow : List (Option String) :=
  [some "1"]

def numberedRows (n : Nat) : List (List (Option String)) :=
  List.replicate n numberedRow

theorem numberedRows_described (n : Nat) : ∀ row ∈ numberedRows n, numbered.Describes row := by
  intro row hrow
  obtain rfl := List.eq_of_mem_replicate hrow
  refine ⟨rfl, ?_, by decide⟩
  intro p hp
  obtain rfl := List.mem_singleton.mp hp
  exact .integer 1

theorem length_numberedRows (n : Nat) : (numberedRows n).length = n :=
  List.length_replicate

/-- Rows of which the one at 1400 lacks its number. -/
def brokenRows : List (List (Option String)) :=
  numberedRows 1400 ++ [none] :: numberedRows 99

theorem brokenRows_refusedAt : RefusedAt numbered (Table.ofSchema numbered) brokenRows 1400
    ⟨[.insertingRows "moves"], .database (.notNull "moves" "id")⟩ := by
  have htake : brokenRows.take 1400 = numberedRows 1400 :=
    List.take_left' (length_numberedRows 1400)
  have hthere : brokenRows[1400]? = some [none] := by
    rw [brokenRows, List.getElem?_append_right (by rw [length_numberedRows]), length_numberedRows]
    rfl
  have hbefore := insertRows_of_describes (t := Table.ofSchema numbered) rfl
    (numberedRows_described 1400)
  rw [← htake] at hbefore
  exact ⟨hbefore, hthere, rfl⟩

def numberedSource : Source :=
  ⟨"moves", "https://example.org/moves"⟩

theorem numberedSource_prepared : ∃ cleared registered,
    fresh.Stages numberedSource numbered false cleared registered := by
  have hwell : ((Transaction.start fresh).run
      (preparations numberedSource numbered false)).1.toBool = true := by decide +kernel
  rcases hrun : (Transaction.start fresh).run (preparations numberedSource numbered false) with
    ⟨failure | _, tx⟩
  · rw [hrun] at hwell
    contradiction
  · obtain ⟨cleared, registered, hstages, -⟩ := run_preparations_eq_ok.mp hrun
    exact ⟨cleared, registered, hstages⟩

/-- A load of some rows into the table. -/
def loadRows (rows : List (List (Option String))) : Load :=
  fresh.load numberedSource numbered ⟨["id"], rows⟩ false

/-- If all of 2017 rows go in, two full batches and a smaller one are told of; if the row at 1400
is refused, the one full batch in front of it. -/
theorem progress_of_many_rows :
    (loadRows (numberedRows 2017)).result = .ok 2017 ∧
      Event.notices (loadRows (numberedRows 2017)).events = [.progress ⟨1000, 2017, "moves"⟩,
        .progress ⟨2000, 2017, "moves"⟩, .progress ⟨2017, 2017, "moves"⟩] ∧
      (loadRows brokenRows).result =
        .error ⟨[.insertingRows "moves"], .database (.notNull "moves" "id")⟩ ∧
      Event.notices (loadRows brokenRows).events = [.progress ⟨1000, 1500, "moves"⟩] := by
  have hwhole : (loadRows (numberedRows 2017)).result = .ok 2017 := by
    obtain ⟨cleared, registered, hstages⟩ := numberedSource_prepared
    have hloaded := (load_of_stages (d := ⟨["id"], numberedRows 2017⟩)
      (numberedRows_described 2017) hstages).1
    rw [Dataset.rowCount, length_numberedRows] at hloaded
    exact hloaded
  have hlength : brokenRows.length = 1500 := by
    rw [brokenRows, List.length_append, List.length_cons, length_numberedRows, length_numberedRows]
  obtain ⟨hexact, -⟩ :=
    load_progress_exact fresh numberedSource numbered ⟨["id"], numberedRows 2017⟩ false
  obtain ⟨-, hstopped, -⟩ :=
    load_progress_exact fresh numberedSource numbered ⟨["id"], brokenRows⟩ false
  obtain ⟨-, counts, rfl, hnotices, -⟩ := hexact 2017 hwhole
  obtain ⟨hfailed, hbefore⟩ := hstopped 1400 _ ⟨numberedSource_prepared, brokenRows_refusedAt⟩
  rw [hlength] at hbefore
  exact ⟨hwhole, hnotices, hfailed, hbefore⟩

end Database
end DatasetSync
