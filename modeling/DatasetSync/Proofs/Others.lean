/-
What loading a source leaves alone.

A database may hold tables that no run has anything to do with, and the registry may
have rows for them.  A load drops, creates and fills a table of one name, in whatever
spelling, and it takes away and adds rows of the registry for that name, letter by
letter.  What is left of the tables and of the registry when these are not looked at
stays as it is, statement by statement, so for every load that comes out well.  A load
that does not changes nothing at all.

The registry is looked at apart from the other tables, since every load writes into
it.  A row that was added is recognised by its name, so the name has to be read back
as it was bound, whatever type the column for it is declared with.  No name of a table
looks like a number, so no column turns it into one.
-/
import DatasetSync.Proofs.Runs

namespace DatasetSync

namespace Database

open Text (sameName)

/-! ### Names as values -/

theorem trimAscii_eq_self {cs : List Char} (h : ∀ c ∈ cs, isAsciiBlank c = false) :
    trimAscii cs = cs := by
  have hkept : ∀ xs : List Char, (∀ c ∈ xs, isAsciiBlank c = false) →
      xs.dropWhile isAsciiBlank = xs := by
    intro xs hxs
    cases xs with
    | nil => rfl
    | cons c rest =>
        rw [List.dropWhile_cons, hxs c (by simp)]
        rfl
  rw [trimAscii, hkept cs h, hkept cs.reverse (by simpa using h), List.reverse_reverse]

/-- What begins like a name is no decimal: it has neither a sign nor a digit nor a point in
front. -/
theorem decimalChars?_of_isNameStart {c : Char} (h : isNameStart c = true) (rest : List Char) :
    Number.decimalChars? (c :: rest) = none := by
  have hlater := lt_toNat_of_isNameStart h
  have hne : ∀ d : Char, d.toNat ≤ 57 → c ≠ d := by
    rintro d hd rfl
    omega
  have hsign : Number.splitSign (c :: rest) = (false, c :: rest) := by
    unfold Number.splitSign
    split
    · rename_i heq
      exact absurd (List.cons.inj heq).1 (hne '-' (by decide))
    · rename_i heq
      exact absurd (List.cons.inj heq).1 (hne '+' (by decide))
    · rfl
  have hdigit : Number.isDigit c = false := by
    rw [Bool.eq_false_iff]
    intro hdigit
    simp only [Number.isDigit, Bool.and_eq_true, decide_eq_true_eq, Char.le_def] at hdigit
    have hlow : c.toNat ≤ 57 := UInt32.le_iff_toNat_le.mp hdigit.2
    omega
  have hpoint : Number.splitPoint (c :: rest) = ([], [], c :: rest) := by
    simp only [Number.splitPoint, List.takeWhile_cons, List.dropWhile_cons, hdigit,
      Bool.false_eq_true, if_false]
    split
    · rename_i heq
      exact absurd (List.cons.inj heq).1 (hne '.' (by decide))
    · rfl
  simp [Number.decimalChars?, hsign, hpoint]

theorem numericText_of_isTableName {name : String} (h : isTableName name = true) :
    numericText name = .text name := by
  obtain ⟨c, rest, hname, hstart, hparts⟩ := toList_of_isTableName h
  have hblank : ∀ x ∈ name.toList, isAsciiBlank x = false := by
    intro x hx
    have hlow := le_toNat_of_isNamePart (hparts x hx)
    rw [Bool.eq_false_iff]
    intro hblank
    simp only [isAsciiBlank, Bool.or_eq_true, beq_iff_eq, Bool.and_eq_true,
      decide_eq_true_eq] at hblank
    rcases hblank with rfl | ⟨-, hhigh⟩
    · exact absurd hlow (by decide)
    · omega
  have htrimmed : trimAscii name.toList = c :: rest := by
    rw [trimAscii_eq_self hblank, hname]
  simp [numericText, htrimmed, decimalChars?_of_isNameStart hstart]

/-- A name that can be that of a table is read back as it is, from every column. -/
theorem store_of_isTableName (c : ColumnDef) {name : String} (h : isTableName name = true) :
    c.store (.text name) = .text name := by
  unfold ColumnDef.store
  cases Affinity.ofDeclared c.declared with
  | blob => rfl
  | text => rfl
  | integer => exact numericText_of_isTableName h
  | numeric => exact numericText_of_isTableName h
  | real =>
      show asReal (numericText name) = .text name
      rw [numericText_of_isTableName h]
      rfl

/-! ### Other tables -/

/-- A name is a spelling of one of some names. -/
def isAmong (names : List String) (name : String) : Bool :=
  names.any fun other => sameName name other

/-- The tables that have none of some names, but for the registry. -/
def otherTables (db : Database) (names : List String) : List Table :=
  db.tables.filter fun t => !isAmong (registryTable :: names) t.name

theorem isAmong_of_mem {names : List String} {name : String} (h : name ∈ names) :
    isAmong names name = true :=
  List.any_eq_true.mpr ⟨name, h, Text.sameName_self name⟩

theorem isAmong_of_subset {names more : List String} {name : String} (hsub : names ⊆ more)
    (h : isAmong names name = true) : isAmong more name = true := by
  obtain ⟨other, hother, hsame⟩ := List.any_eq_true.mp h
  exact List.any_eq_true.mpr ⟨other, hsub hother, hsame⟩

theorem isAmong_congr (names : List String) {a b : String} (h : sameName a b = true) :
    isAmong names a = isAmong names b := by
  unfold isAmong
  congr 1
  funext other
  exact Text.sameName_congr h other

/-- What has none of many names has none of few. -/
theorem otherTables_of_subset (db : Database) {names more : List String} (hsub : names ⊆ more) :
    db.otherTables more =
      (db.otherTables names).filter fun t => !isAmong (registryTable :: more) t.name := by
  unfold otherTables
  rw [List.filter_filter]
  refine List.filter_congr fun t _ => ?_
  cases hfew : isAmong (registryTable :: names) t.name with
  | true =>
      have hmany := isAmong_of_subset (List.cons_subset_cons registryTable hsub) hfew
      simp [hmany]
  | false => simp

/-- Putting a table that is not looked at in the place of another. -/
theorem otherTables_putTable (db : Database) {t : Table} {names : List String}
    (hname : isAmong (registryTable :: names) t.name = true) :
    (db.putTable t).otherTables names = db.otherTables names := by
  unfold otherTables putTable
  induction db.tables with
  | nil => rfl
  | cons u rest ih =>
      rw [List.map_cons, List.filter_cons, List.filter_cons, ih]
      by_cases hsame : sameName u.name t.name = true
      · have hnamed : isAmong (registryTable :: names) u.name = true := by
          rw [isAmong_congr _ hsame, hname]
        simp [hsame, hname, hnamed]
      · simp [hsame]

theorem otherTables_of_rewritten {db db' : Database} {t t' : Table} (names : List String)
    (h : db.Rewritten t t' db') : db'.otherTables names = db.otherTables names := by
  rw [h.database]
  refine otherTables_putTable db ?_
  rw [isAmong_congr _ h.called]
  exact isAmong_of_mem List.mem_cons_self

theorem otherTables_withTable (db : Database) {t : Table} {names : List String}
    (hname : isAmong (registryTable :: names) t.name = true) :
    (db.withTable t).otherTables names = db.otherTables names := by
  simp [otherTables, withTable, hname]

theorem otherTables_dropTable {db db' : Database} {name : String} {names : List String}
    (hdb : db.NoVirtualTables) (h : db.dropTable true name = .ok db')
    (hname : isAmong (registryTable :: names) name = true) :
    db'.otherTables names = db.otherTables names := by
  unfold otherTables
  rw [hdb.tables_dropTable h, List.filter_filter]
  refine List.filter_congr fun t _ => ?_
  by_cases hsame : sameName t.name name = true
  · have hnamed : isAmong (registryTable :: names) t.name = true := by
      rw [isAmong_congr _ hsame, hname]
    simp [hsame, hnamed]
  · simp [hsame]

/-! ### Other rows of the registry -/

/-- What a row has in the column for names. -/
def Table.recordedName? (t : Table) (row : Row) : Option Value :=
  (t.columnIndex? nameColumn).bind fun index => row[index]?

/-- A row is for one of some names, letter by letter. -/
def Table.isRowFor (t : Table) (names : List String) (row : Row) : Bool :=
  names.any fun name => t.recordedName? row == some (.text name)

/-- The table with those of its rows only that are to be kept. -/
def Table.keeping (t : Table) (keep : Row → Bool) : Table :=
  { t with rows := t.rows.filter keep }

/-- The table without its rows for some names. -/
def Table.withoutNames (t : Table) (names : List String) : Table :=
  t.keeping fun row => !t.isRowFor names row

theorem Table.keeping_keeping (t : Table) (first second : Row → Bool) :
    (t.keeping first).keeping second = t.keeping fun row => first row && second row := by
  simp [keeping, Array.filter_filter, Bool.and_comm]

/-- What is left without many names is left of what is left without few. -/
theorem Table.withoutNames_of_subset (t : Table) {names more : List String}
    (hsub : names ⊆ more) : t.withoutNames more = (t.withoutNames names).withoutNames more := by
  show t.keeping _ = (t.keeping fun row => !t.isRowFor names row).keeping
    fun row => !t.isRowFor more row
  rw [keeping_keeping]
  congr 1
  funext row
  cases hfew : t.isRowFor names row with
  | true =>
      obtain ⟨name, hname, hrow⟩ := List.any_eq_true.mp hfew
      have hmany : t.isRowFor more row = true :=
        List.any_eq_true.mpr ⟨name, hsub hname, hrow⟩
      simp [hmany]
  | false => simp

/-- A column that compares letter by letter has the very value. -/
theorem Table.hasValue_of_binary {t : Table} {index : Nat} {c : ColumnDef}
    (hcolumn : t.columns[index]? = some c) (hbinary : c.collation = .binary) (value : Value)
    (row : Row) : t.hasValue index value row = (row[index]? == some value) := by
  rw [hasValue, hcolumn]
  cases row[index]? with
  | none => rfl
  | some v =>
      show c.collation.same v value = (some v == some value)
      rw [hbinary, Collation.binary_same]
      rfl

/-- Taking a name out of a registry that tells names apart letter by letter. -/
theorem Table.withoutNames_without {t : Table} {index : Nat}
    (hindex : t.columnIndex? nameColumn = some index)
    (hexact : ∀ c ∈ t.columns, sameName c.name nameColumn = true → c.collation = .binary)
    (name : String) : (t.without index (.text name)).withoutNames [name] = t.withoutNames [name] := by
  obtain ⟨hlt, hcolumn, -⟩ := List.findIdx?_eq_some_iff_getElem.mp hindex
  have hvalue := t.hasValue_of_binary (List.getElem?_eq_getElem hlt)
    (hexact _ (List.getElem_mem hlt) hcolumn) (.text name)
  show (t.keeping fun row => !t.hasValue index (.text name) row).keeping
    (fun row => !t.isRowFor [name] row) = t.keeping _
  rw [keeping_keeping]
  congr 1
  funext row
  simp [isRowFor, recordedName?, hindex, hvalue]

/-- The row that is added for a source is one for its name. -/
theorem Table.isRowFor_registryRow {t : Table} {index : Nat}
    (hindex : t.columnIndex? nameColumn = some index) {source : Source}
    (hname : isTableName source.name = true) :
    t.isRowFor [source.name] (t.stored (t.registryRow source)) = true := by
  obtain ⟨hlt, hcolumn, -⟩ := List.findIdx?_eq_some_iff_getElem.mp hindex
  have hvalue : (t.stored (t.registryRow source))[index]? = some (.text source.name) := by
    simp [stored, registryRow, hlt, hcolumn, store_of_isTableName _ hname]
  simp [isRowFor, recordedName?, hindex, hvalue]

/-- Recording a source in the registry. -/
theorem Table.withoutNames_insertOrIgnore {t t' : Table} {index : Nat}
    (hindex : t.columnIndex? nameColumn = some index) {source : Source}
    (hname : isTableName source.name = true)
    (h : t.insertOrIgnore (t.registryRow source) = .ok t') :
    t'.withoutNames [source.name] = t.withoutNames [source.name] := by
  rcases insertOrIgnore_eq_ok h with rfl | rfl
  · rfl
  · have hnew := isRowFor_registryRow hindex hname
    show Table.keeping { t with rows := t.rows.push (t.stored (t.registryRow source)) }
      (fun row => !t.isRowFor [source.name] row) = t.keeping _
    simp [keeping, hnew]

/-! ### Databases that are the same apart from some names -/

/-- Apart from some names, nothing changed from one database to another. -/
structure SameApartFrom (names : List String) (db later : Database) : Prop where
  /-- The tables of other names are the same, with their definitions, columns and rows. -/
  tables : later.otherTables names = db.otherTables names
  /-- The registry is the same, with its definition, its columns and its rows for other names. -/
  registry : (later.table? registryTable).map (·.withoutNames names) =
    (db.table? registryTable).map (·.withoutNames names)

theorem SameApartFrom.refl (names : List String) (db : Database) : db.SameApartFrom names db :=
  ⟨rfl, rfl⟩

theorem SameApartFrom.trans {names : List String} {first second third : Database}
    (h : first.SameApartFrom names second) (h' : second.SameApartFrom names third) :
    first.SameApartFrom names third :=
  ⟨h'.tables.trans h.tables, h'.registry.trans h.registry⟩

theorem SameApartFrom.mono {names more : List String} {db later : Database}
    (h : db.SameApartFrom names later) (hsub : names ⊆ more) : db.SameApartFrom more later := by
  refine ⟨?_, ?_⟩
  · rw [otherTables_of_subset later hsub, otherTables_of_subset db hsub, h.tables]
  · have hboth := congrArg (Option.map (·.withoutNames more)) h.registry
    rw [Option.map_map, Option.map_map] at hboth
    have hless : (fun t : Table => t.withoutNames more) ∘ (fun t : Table => t.withoutNames names) =
        fun t : Table => t.withoutNames more := by
      funext t
      exact (t.withoutNames_of_subset hsub).symm
    rwa [hless] at hboth

/-! ### The statements of a load

A drop takes the tables along in which a virtual table keeps its content, and a registry that does
not tell names apart letter by letter may lose the row of another spelling.
-/

/-- What the database has to be like for a load to leave everything alone that is not its own. -/
structure Separates (db : Database) : Prop where
  ordinary : db.NoVirtualTables
  exact : db.ComparesExactly

/-- Clearing a table takes away what has its name. -/
theorem Cleared.sameApartFrom {db cleared : Database} {name : String} {replace : Bool}
    (h : db.Cleared name replace cleared) (hdb : db.Separates) :
    db.SameApartFrom [name] cleared := by
  cases h with
  | keep => exact .refl [name] db
  | @replace dropped _ hdrop hunregister =>
      have hregistry := table?_registry_of_drop hdrop hunregister
      obtain ⟨t, index, hindex, hrewritten⟩ := unregister_eq_ok hunregister
      have hfound := hrewritten.found
      rw [hregistry] at hfound
      refine ⟨?_, ?_⟩
      · rw [otherTables_of_rewritten [name] hrewritten,
          otherTables_dropTable hdb.ordinary hdrop (isAmong_of_mem (by simp))]
      · rw [hrewritten.table?_registry, hfound]
        exact congrArg some (Table.withoutNames_without hindex (hdb.exact t hfound) name)

/-- Where a source was recorded, the registry has a column for names. -/
theorem columnIndex?_of_writable {db : Database} {t : Table}
    (h : db.writableRegistry = .ok t) : ∃ index, t.columnIndex? nameColumn = some index := by
  unfold writableRegistry at h
  split at h
  · split at h
    · contradiction
    · rename_i hname
      split at h
      · contradiction
      · cases h
        refine Option.isSome_iff_exists.mp ?_
        rw [Table.columnIndex?, List.findIdx?_isSome]
        simpa [Table.hasColumn] using hname
  · contradiction
  · contradiction

/-- Recording a source adds what has its name. -/
theorem sameApartFrom_of_register {db registered : Database} {source : Source}
    (h : db.register source = .ok registered) (hname : isTableName source.name = true) :
    db.SameApartFrom [source.name] registered := by
  obtain ⟨t, t', hwritable, hinsert, hdatabase⟩ := register_eq_ok_iff.mp h
  obtain ⟨index, hindex⟩ := columnIndex?_of_writable hwritable
  have hrewritten : db.Rewritten t t' registered :=
    ⟨table?_of_writable hwritable, sameBut_insertOrIgnore hinsert, hdatabase⟩
  refine ⟨otherTables_of_rewritten [source.name] hrewritten, ?_⟩
  rw [hrewritten.table?_registry, hrewritten.found]
  exact congrArg some (Table.withoutNames_insertOrIgnore hindex hname hinsert)

section Stages

variable {db cleared registered : Database} {source : Source} {s : Schema} {replace : Bool}
  {t : Table}

/-- A load that comes out well leaves everything alone that does not have its name. -/
theorem Stages.sameApartFrom (h : db.Stages source s replace cleared registered)
    (hdb : db.Separates) (hname : isTableName source.name = true) (hs : s.name = source.name)
    (ht : t.name = source.name) : db.SameApartFrom [source.name] (registered.withTable t) := by
  have hcleared := h.clearing.sameApartFrom hdb
  rw [hs] at hcleared
  refine hcleared.trans ((sameApartFrom_of_register h.recording hname).trans ⟨?_, ?_⟩)
  · exact otherTables_withTable _ (isAmong_of_mem (by simp [ht]))
  · rw [table?_withTable_of_ne registered (by rw [ht, ← hs]; exact h.not_registry)]

theorem Stages.separates (h : db.Stages source s replace cleared registered)
    (hdb : db.Separates) (ht : t.name = s.name) (hordinary : t.shadows = []) :
    (registered.withTable t).Separates :=
  ⟨h.noVirtualTables hordinary hdb.ordinary, h.comparesExactly ht hdb.exact⟩

end Stages

end Database

/-! ### Steps and runs -/

theorem isTableName_of_checkSource {source : Source} (h : checkSource source = .ok ()) :
    isTableName source.name = true := by
  unfold checkSource checkTableName at h
  split at h
  · contradiction
  · split at h
    · assumption
    · contradiction

theorem sameApartFrom_ingestSource {π : Type} (provider : Provider π) (options : IngestOptions)
    {db : Database} (hdb : db.Separates) (state : π) (source : Source) :
    db.SameApartFrom [source.name] (ingestSource provider options db state source).database ∧
      (ingestSource provider options db state source).database.Separates := by
  refine database_ingestSource_of_loads
    (P := fun after => db.SameApartFrom [source.name] after ∧ after.Separates)
    ⟨.refl _ db, hdb⟩ ?_
  intro payload d cleared registered hloads
  have hname := isTableName_of_checkSource hloads.checked
  exact ⟨hloads.stages.sameApartFrom hdb hname rfl rfl, hloads.stages.separates hdb rfl rfl⟩

/-- **A load leaves everything else alone**, in a database without virtual tables whose registry
tells names apart letter by letter.  Whatever comes of a step, the tables of other names stay as
they are, and so does the registry but for its rows for the name, letter by letter.  A run leaves
everything alone that has none of the names of its sources. -/
theorem others_untouched :
    (∀ {π : Type} (provider : Provider π) (options : IngestOptions) (db : Database) (state : π)
        (source : Source), db.NoVirtualTables → db.ComparesExactly →
      db.SameApartFrom [source.name]
        (ingestSource provider options db state source).database) ∧
    (∀ {π δ : Type} (provider : Provider π) (display : Display δ) (options : IngestOptions)
        (run : Run π δ) (sources : List Source),
      run.database.NoVirtualTables → run.database.ComparesExactly →
      run.database.SameApartFrom (sources.map Source.name)
        (ingestAll provider display options run sources).2.database) := by
  refine ⟨fun provider options db state source hordinary hexact =>
    (sameApartFrom_ingestSource provider options ⟨hordinary, hexact⟩ state source).1, ?_⟩
  intro π δ provider display options run sources hordinary hexact
  have hkept : run.database.SameApartFrom (sources.map Source.name)
        (ingestAll provider display options run sources).2.database ∧
      (ingestAll provider display options run sources).2.database.Separates := by
    rw [database_ingestAll]
    refine Standing.after_preserves
      (P := fun here => run.database.SameApartFrom (sources.map Source.name) here.database ∧
        here.database.Separates)
      ?_ run.standing ⟨.refl _ _, hordinary, hexact⟩
    rintro here source hpassed ⟨hsame, hhere⟩
    have hsource := (passed_prefixOf provider display options run sources).subset hpassed
    obtain ⟨hstep, hthere⟩ :=
      sameApartFrom_ingestSource provider options hhere here.provider source
    refine ⟨hsame.trans (hstep.mono ?_), hthere⟩
    intro name hname
    rw [List.mem_singleton.mp hname]
    exact List.mem_map_of_mem hsource
  exact hkept.1

/-- A forced run over two sources that have nothing to do with the table that is there. -/
def foreignRun : Run (List (String × List UInt8)) Unit :=
  ⟨oldTypes, [("moves", "id\n1\n".toUTF8.toList)], (), []⟩

def foreignSources : List Source :=
  [⟨"moves", "https://example.org/moves"⟩, ⟨"stats", "https://example.org/stats"⟩]

/-- The table and its row of the registry are still there, after a load and after a run. -/
theorem types_untouched :
    (oldTypes.tables.filter fun t => t.name = "types") ⊆
        (ingestSource Provider.memory { force := true } oldTypes foreignRun.provider
          ⟨"moves", "https://example.org/moves"⟩).database.otherTables ["moves"] ∧
      oldTypes.SameApartFrom ["moves", "stats"]
        (ingestAll Provider.memory Display.none { force := true } foreignRun
          foreignSources).2.database := by
  obtain ⟨hstep, hrun⟩ := others_untouched
  have hkept := hrun Provider.memory Display.none { force := true } foreignRun foreignSources
    (by decide) (by decide)
  refine ⟨?_, hkept⟩
  rw [(hstep _ _ _ _ _ (by decide) (by decide)).tables]
  decide

/-- The database of one dataset with a registry that takes `Types` and `types` for one name. -/
def caselessTypes : Database :=
  let caseless (c : Database.ColumnDef) : Database.ColumnDef :=
    if c.isKey then { c with collation := .nocase } else c
  { oldTypes with
    tables := oldTypes.tables.map fun t => { t with columns := t.columns.map caseless } }

/-- A forced load of `Types` takes the row of `types` out of such a registry, and a forced load in
the place of a virtual table takes the table of its content along. -/
theorem others_taken_along :
    caselessTypes.registered = .ok [⟨"types", "https://example.org/old"⟩] ∧
      (ingestSource Provider.memory { force := true } caselessTypes
        [("Types", "id\n1\n".toUTF8.toList)]
        ⟨"Types", "https://example.org/new"⟩).result = .ok (.loaded 1 1) ∧
      (ingestSource Provider.memory { force := true } caselessTypes
        [("Types", "id\n1\n".toUTF8.toList)]
        ⟨"Types", "https://example.org/new"⟩).database.registered =
          .ok [⟨"Types", "https://example.org/new"⟩] ∧
      ¬caselessTypes.SameApartFrom ["Types"]
        (ingestSource Provider.memory { force := true } caselessTypes
          [("Types", "id\n1\n".toUTF8.toList)]
          ⟨"Types", "https://example.org/new"⟩).database ∧
      ¬docs.SameApartFrom ["docs"]
        (ingestSource Provider.memory { force := true } docs [("docs", "id\n1\n".toUTF8.toList)]
          ⟨"docs", "https://example.org/docs"⟩).database := by
  refine ⟨by decide +kernel, by decide +kernel, by decide +kernel, fun hsame => ?_, fun hsame => ?_⟩
  · have hregistry := hsame.registry
    revert hregistry
    decide +kernel
  · have htables := hsame.tables
    revert htables
    decide +kernel

end DatasetSync
