/-
The registry and the loads that led to it.

Every load adds a payload and the source that it came from to a history.  What the
registry and the tables hold can be read off such a history: a row of the registry
is the last source that was loaded under its name, letter by letter, and a table
holds the last payload that was loaded under its name, in whatever spelling.

The two agree as long as a name is never spelled in two ways.  A forced load under
another spelling replaces the table, but leaves the row of the old spelling where it
is, with its address.  Nothing ever removes this row without putting it back, so a
table is registered twice from then on.
-/
import DatasetSync.Proofs.Loaded
import DatasetSync.Proofs.Reached
import Mathlib.Data.List.Find

namespace DatasetSync

open Text (sameName DistinctNames)

/-! ### Histories -/

/-- A payload that was loaded, and the source that it came from. -/
structure Supply where
  source : Source
  payload : List UInt8
deriving DecidableEq, Repr

namespace Standing

variable {π : Type} (provider : Provider π) (options : IngestOptions)

/-- What the step for a source loads, if it does. -/
def supply? (here : Standing π) (source : Source) : Option Supply :=
  match (here.step provider options source).result,
    (provider.fetch here.provider source).result with
  | .ok (.loaded _ _), .ok payload => some ⟨source, payload⟩
  | _, _ => none

/-- What the steps for some sources load, in their order. -/
def supplies : Standing π → List Source → List Supply
  | _, [] => []
  | here, source :: rest =>
    (here.supply? provider options source).toList ++
      supplies (here.next provider options source) rest

end Standing

/-- Databases that can be reached from a new one, with the history of their loads. -/
inductive ReachedBy : List Supply → Database → Prop
  | opened {db : Database} (h : Files.configure {} = .ok db) : ReachedBy [] db
  | reopened {history : List Supply} {db db' : Database} (hdb : ReachedBy history db)
    (h : Files.configure db = .ok db') : ReachedBy history db'
  | run {π δ : Type} {history : List Supply} (provider : Provider π) (display : Display δ)
    (options : IngestOptions) (run : Run π δ) (sources : List Source)
    (h : ReachedBy history run.database) :
    ReachedBy
      (history ++ run.standing.supplies provider options
        (passed provider display options run sources))
      (ingestAll provider display options run sources).2.database

/-- Every reached database has a history. -/
theorem reached_iff {db : Database} : Reached db ↔ ∃ history, ReachedBy history db := by
  constructor
  · intro h
    induction h with
    | opened h => exact ⟨[], .opened h⟩
    | reopened _ h ih =>
        obtain ⟨history, hdb⟩ := ih
        exact ⟨history, .reopened hdb h⟩
    | run provider display options run sources _ ih =>
        obtain ⟨history, hdb⟩ := ih
        exact ⟨_, .run provider display options run sources hdb⟩
  · rintro ⟨history, h⟩
    induction h with
    | opened h => exact .opened h
    | reopened _ h ih => exact .reopened ih h
    | run provider display options run sources _ ih =>
        exact .run provider display options run sources ih

/-- No name is spelled in two ways. -/
def SpelledAlike (history : List Supply) : Prop :=
  ∀ a ∈ history, ∀ b ∈ history, sameName a.source.name b.source.name = true →
    a.source.name = b.source.name

instance (history : List Supply) : Decidable (SpelledAlike history) :=
  inferInstanceAs (Decidable (∀ a ∈ history, ∀ b ∈ history, _ → _))

/-- The last supply whose name is one of some. -/
def lastSupply? (history : List Supply) (among : String → Bool) : Option Supply :=
  history.reverse.find? fun supply => among supply.source.name

theorem lastSupply?_append (history : List Supply) (supply : Supply) (among : String → Bool) :
    lastSupply? (history ++ [supply]) among =
      if among supply.source.name then some supply else lastSupply? history among := by
  unfold lastSupply?
  rw [List.reverse_append, List.reverse_singleton, List.singleton_append, List.find?_cons]
  cases among supply.source.name <;> rfl

theorem mem_of_lastSupply? {history : List Supply} {supply : Supply} {among : String → Bool}
    (h : lastSupply? history among = some supply) :
    supply ∈ history ∧ among supply.source.name = true :=
  ⟨List.mem_reverse.mp (List.mem_of_find?_eq_some h), by simpa using List.find?_some h⟩

/-! ### What a history tells -/

/-- What the history of a database tells about its registry and its tables. -/
structure Tells (history : List Supply) (db : Database) (sources : List Source) : Prop where
  inStep : db.InStep sources
  /-- No name is registered twice in one spelling. -/
  nodup : (sources.map Source.name).Nodup
  /-- What was loaded is registered, under the name that it was loaded with. -/
  registered : ∀ supply ∈ history, supply.source.name ∈ sources.map Source.name
  /-- Nothing was loaded under a name of the registry's. -/
  foreign : ∀ supply ∈ history, sameName supply.source.name registryTable = false
  /-- What is registered under a name is the last source that was loaded with it. -/
  latest : ∀ source ∈ sources, ∃ payload,
    lastSupply? history (· == source.name) = some ⟨source, payload⟩
  /-- What a table holds is the last payload that was loaded under its name. -/
  holds : ∀ name supply, lastSupply? history (sameName · name) = some supply →
    ∃ d t, Dataset.parse supply.payload = .ok d ∧ db.table? name = some t ∧
      t.Holds supply.source.name d

theorem tells_fresh : Tells [] Database.fresh [] where
  inStep := Database.inStep_fresh
  nodup := List.nodup_nil
  registered _ h := by contradiction
  foreign _ h := by contradiction
  latest _ h := by contradiction
  holds _ _ h := by contradiction

/-- One more load is one more supply. -/
theorem Tells.load {π : Type} {provider : Provider π} {options : IngestOptions} {db : Database}
    {state : π} {source : Source} {payload : List UInt8} {d : Dataset}
    {cleared registered : Database} {history : List Supply} {sources : List Source}
    (h : Tells history db sources)
    (hloads : Loads provider options db state source payload d cleared registered) :
    Tells (history ++ [⟨source, payload⟩])
      (registered.withTable (Database.Table.ofDataset (Schema.infer source.name d) d))
      (sources.filter (fun other => other.name != source.name) ++ [source]) where
  inStep := h.inStep.loaded hloads
  nodup := by
    rw [List.map_append, List.map_singleton, List.nodup_append]
    refine ⟨h.nodup.sublist (List.filter_sublist.map _), by simp, ?_⟩
    intro name hname _ hnew hsame
    rw [List.mem_singleton.mp hnew] at hsame
    obtain ⟨other, hother, rfl⟩ := List.mem_map.mp hname
    exact bne_iff_ne.mp (List.mem_filter.mp hother).2 hsame
  registered := by
    intro supply hsupply
    rw [List.map_append, List.mem_append]
    rcases List.mem_append.mp hsupply with hold | hnew
    · by_cases hname : supply.source.name = source.name
      · exact Or.inr (by simp [hname])
      · obtain ⟨other, hother, heq⟩ := List.mem_map.mp (h.registered supply hold)
        refine Or.inl (List.mem_map.mpr ⟨other, List.mem_filter.mpr ⟨hother, ?_⟩, heq⟩)
        rw [bne_iff_ne, heq]
        exact hname
    · rw [List.mem_singleton.mp hnew]
      exact Or.inr (by simp)
  foreign := by
    intro supply hsupply
    rcases List.mem_append.mp hsupply with hold | hnew
    · exact h.foreign supply hold
    · rw [List.mem_singleton.mp hnew]
      exact hloads.stages.not_registry
  latest := by
    intro other hother
    rw [lastSupply?_append]
    rcases List.mem_append.mp hother with hold | hnew
    · obtain ⟨hmem, hname⟩ := List.mem_filter.mp hold
      rw [bne_iff_ne] at hname
      rw [if_neg (by simpa using hname.symm)]
      exact h.latest other hmem
    · rw [List.mem_singleton.mp hnew, if_pos (by simp)]
      exact ⟨payload, rfl⟩
  holds := by
    intro name supply hlast
    rw [lastSupply?_append] at hlast
    cases hname : sameName source.name name with
    | true =>
        rw [if_pos hname, Option.some.injEq] at hlast
        subst hlast
        refine ⟨d, _, hloads.parsed, ?_, Database.Table.ofDataset_holds _ hloads.rectangular⟩
        rw [← Database.table?_congr _ hname]
        exact hloads.stages.table?_self rfl
    | false =>
        rw [if_neg (by simp [hname])] at hlast
        obtain ⟨d', t, hparsed, hfound, ht⟩ := h.holds name supply hlast
        refine ⟨d', t, hparsed, ?_, ht⟩
        obtain ⟨hmem, hspelled⟩ := mem_of_lastSupply? hlast
        rw [Text.sameName_comm] at hname
        rw [← hfound]
        refine hloads.stages.table?_of_ne h.inStep.ordinary rfl hname ?_
        rw [← Text.sameName_congr hspelled, h.foreign supply hmem]

theorem Tells.configure {db db' : Database} {history : List Supply} {sources : List Source}
    (h : Tells history db sources) (hconfigured : Files.configure db = .ok db') :
    Tells history db' sources := by
  have hinStep := h.inStep.configure hconfigured
  rw [h.inStep.records.configure] at hconfigured
  cases hconfigured
  exact ⟨hinStep, h.nodup, h.registered, h.foreign, h.latest, h.holds⟩

section Runs

variable {π : Type} (provider : Provider π) (options : IngestOptions)

/-- A step that supplies nothing leaves the database as it is; any other loads its supply. -/
theorem Standing.supply?_cases (here : Standing π) (source : Source) :
    (here.supply? provider options source = none ∧
      (here.next provider options source).database = here.database) ∨
    ∃ payload d cleared registered,
      Loads provider options here.database here.provider source payload d cleared registered ∧
        here.supply? provider options source = some ⟨source, payload⟩ := by
  cases ingestSource_comesOut provider options here.database here.provider source with
  | failed failure hresult hdatabase =>
      exact Or.inl ⟨by simp [supply?, step, hresult], hdatabase⟩
  | skipped _ _ _ hresult hdatabase =>
      exact Or.inl ⟨by simp [supply?, step, hresult], hdatabase⟩
  | loaded hloads =>
      exact Or.inr ⟨_, _, _, _, hloads, by simp [supply?, step, hloads.result, hloads.fetched]⟩

/-- A step adds what it loads to the history. -/
theorem Tells.next {here : Standing π} {history : List Supply} {sources : List Source}
    (h : Tells history here.database sources) (source : Source) :
    ∃ sources', Tells (history ++ (here.supply? provider options source).toList)
      (here.next provider options source).database sources' := by
  rcases here.supply?_cases provider options source with
    ⟨hnone, hdatabase⟩ | ⟨payload, d, cleared, registered, hloads, hsome⟩
  · rw [hnone, Option.toList_none, List.append_nil, hdatabase]
    exact ⟨sources, h⟩
  · rw [hsome, Option.toList_some, Standing.next, Standing.step, hloads.database]
    exact ⟨_, h.load hloads⟩

theorem Tells.after {here : Standing π} {history : List Supply} {sources : List Source}
    (h : Tells history here.database sources) (passed : List Source) :
    ∃ sources', Tells (history ++ here.supplies provider options passed)
      (here.after provider options passed).database sources' := by
  induction passed generalizing here history sources with
  | nil =>
      rw [Standing.supplies, List.append_nil]
      exact ⟨sources, h⟩
  | cons source rest ih =>
      obtain ⟨_, hnext⟩ := h.next provider options source
      rw [Standing.supplies, ← List.append_assoc]
      exact ih hnext

end Runs

/-- Every reached database has the registry and the tables that its history tells of. -/
theorem ReachedBy.tells {history : List Supply} {db : Database} (h : ReachedBy history db) :
    ∃ sources, Tells history db sources := by
  induction h with
  | opened h =>
      cases h
      exact ⟨[], tells_fresh⟩
  | reopened _ h ih =>
      obtain ⟨sources, hdb⟩ := ih
      exact ⟨sources, hdb.configure h⟩
  | run provider display options run sources _ ih =>
      obtain ⟨old, hdb⟩ := ih
      rw [database_ingestAll]
      have hstanding : Tells _ run.standing.database old := hdb
      exact hstanding.after provider options _

/-! ### One registration for each table -/

/-- The registered names are the names that something was loaded with. -/
theorem Tells.mem_names_iff {history : List Supply} {db : Database} {sources : List Source}
    (h : Tells history db sources) {name : String} :
    name ∈ sources.map Source.name ↔ ∃ supply ∈ history, supply.source.name = name := by
  constructor
  · intro hname
    obtain ⟨source, hsource, rfl⟩ := List.mem_map.mp hname
    obtain ⟨payload, hlast⟩ := h.latest source hsource
    exact ⟨_, (mem_of_lastSupply? hlast).1, rfl⟩
  · rintro ⟨supply, hsupply, rfl⟩
    exact h.registered supply hsupply

/-- The registered names are different identifiers exactly if no name is spelled in two ways. -/
theorem Tells.distinctNames_iff {history : List Supply} {db : Database} {sources : List Source}
    (h : Tells history db sources) :
    DistinctNames (sources.map Source.name) ↔ SpelledAlike history := by
  rw [Text.distinctNames_iff]
  constructor
  · rintro ⟨-, halike⟩ a ha b hb
    exact halike _ (h.registered a ha) _ (h.registered b hb)
  · intro halike
    refine ⟨h.nodup, ?_⟩
    intro x hx y hy
    obtain ⟨a, ha, rfl⟩ := h.mem_names_iff.mp hx
    obtain ⟨b, hb, rfl⟩ := h.mem_names_iff.mp hy
    exact halike a ha b hb

/-- With names that are never spelled in two ways, what is registered is the last source that was
loaded under its name, in whatever spelling. -/
theorem Tells.latest_of_spelledAlike {history : List Supply} {db : Database}
    {sources : List Source} (h : Tells history db sources) (halike : SpelledAlike history)
    {source : Source} (hsource : source ∈ sources) :
    ∃ payload, lastSupply? history (sameName · source.name) = some ⟨source, payload⟩ := by
  obtain ⟨payload, hlast⟩ := h.latest source hsource
  have hmem := (mem_of_lastSupply? hlast).1
  refine ⟨payload, ?_⟩
  rw [← hlast]
  refine List.find?_congr fun supply hsupply => ?_
  rw [List.mem_reverse] at hsupply
  rw [Bool.eq_iff_iff, beq_iff_eq]
  constructor
  · exact halike supply hsupply ⟨source, payload⟩ hmem
  · intro hname
    rw [hname]
    exact Text.sameName_self _

/-- **A table is registered once exactly if its name is never spelled in two ways.**  Then the row
of a table has the address of the source whose payload the table holds. -/
theorem registered_once_iff_spelledAlike {history : List Supply} {db : Database}
    (h : ReachedBy history db) :
    ∃ sources entries, db.registered = .ok sources ∧ db.status = .ok entries ∧
      entries.map Database.Status.source = sources ∧
      (DistinctNames (sources.map Source.name) ↔ SpelledAlike history) ∧
      (SpelledAlike history → ∀ entry ∈ entries, ∃ payload d t,
        lastSupply? history (sameName · entry.source.name) = some ⟨entry.source, payload⟩ ∧
        Dataset.parse payload = .ok d ∧ db.table? entry.source.name = some t ∧
        t.Holds entry.source.name d) := by
  obtain ⟨sources, htells⟩ := h.tells
  have hperm : (Database.sortedByName sources).Perm sources := List.mergeSort_perm _ _
  have hnames := Text.distinctNames_perm (hperm.map Source.name)
  refine ⟨_, _, htells.inStep.records.registered, htells.inStep.status, ?_,
    hnames.trans htells.distinctNames_iff, ?_⟩
  · rw [List.map_map]
    exact List.map_id _
  · intro halike entry hentry
    obtain ⟨source, hsource, rfl⟩ := List.mem_map.mp hentry
    obtain ⟨payload, hlast⟩ := htells.latest_of_spelledAlike halike (hperm.subset hsource)
    obtain ⟨d, t, hparsed, hfound, ht⟩ := htells.holds _ _ hlast
    exact ⟨payload, d, t, hlast, hparsed, hfound, ht⟩

/-- A run that loads the table of the first run again, under some spelling of its name. -/
def reloadedAs (name : String) : Run (List (String × List UInt8)) Unit :=
  (ingestAll Provider.memory Display.none { force := true } firstRun
    [⟨name, "https://example.org/2"⟩]).2

/-- What the first run loads. -/
def firstHistory : List Supply :=
  Standing.supplies Provider.memory {} ⟨Database.fresh, somePayloads⟩
    [⟨"Types", "https://example.org/1"⟩]

/-- What both runs load. -/
def reloadedHistory (name : String) : List Supply :=
  firstHistory ++ firstRun.standing.supplies Provider.memory { force := true }
    [⟨name, "https://example.org/2"⟩]

theorem reachedBy_firstRun : ReachedBy firstHistory firstRun.database := by
  have hfirst := ReachedBy.run Provider.memory Display.none {}
    ⟨Database.fresh, somePayloads, (), []⟩ [⟨"Types", "https://example.org/1"⟩] (.opened rfl)
  rw [passed_unwatched _ rfl, List.nil_append] at hfirst
  exact hfirst

theorem reachedBy_reloadedAs (name : String) :
    ReachedBy (reloadedHistory name) (reloadedAs name).database := by
  have hsecond := ReachedBy.run Provider.memory Display.none { force := true } firstRun
    [⟨name, "https://example.org/2"⟩] reachedBy_firstRun
  rw [passed_unwatched _ rfl] at hsecond
  exact hsecond

/-- A reload under the same spelling: the table is registered once, with its new address. -/
theorem reloaded_types_registered_once :
    SpelledAlike (reloadedHistory "Types") ∧
      ∃ sources entries, (reloadedAs "Types").database.registered = .ok sources ∧
        (reloadedAs "Types").database.status = .ok entries ∧
        DistinctNames (sources.map Source.name) ∧
        ∀ entry ∈ entries, ∃ payload,
          lastSupply? (reloadedHistory "Types") (sameName · entry.source.name) =
            some ⟨entry.source, payload⟩ := by
  have halike : SpelledAlike (reloadedHistory "Types") := by decide +kernel
  obtain ⟨sources, entries, hregistered, hstatus, -, hdistinct, hlatest⟩ :=
    registered_once_iff_spelledAlike (reachedBy_reloadedAs "Types")
  refine ⟨halike, sources, entries, hregistered, hstatus, hdistinct.mpr halike, ?_⟩
  intro entry hentry
  obtain ⟨payload, _, _, hlast, -⟩ := hlatest halike entry hentry
  exact ⟨payload, hlast⟩

/-- A reload under another spelling: the table is registered twice, and the status tells the number
of its rows under the old address too. -/
theorem respelled_types_registered_twice :
    ReachedBy (reloadedHistory "types") (reloadedAs "types").database ∧
      isTableName "Types" = true ∧ isTableName "types" = true ∧
      sameName "Types" "types" = true ∧
      (reloadedAs "types").database.status =
        .ok [⟨⟨"Types", "https://example.org/1"⟩, some 2⟩,
          ⟨⟨"types", "https://example.org/2"⟩, some 2⟩] := by
  refine ⟨reachedBy_reloadedAs "types", by decide +kernel, by decide +kernel, by decide +kernel,
    ?_⟩
  have hrecords : (reloadedAs "types").database.Records
      [⟨"Types", "https://example.org/1"⟩, ⟨"types", "https://example.org/2"⟩] :=
    ⟨{ Database.emptyRegistry with
        rows := #[[.text "Types", .text "https://example.org/1"],
          [.text "types", .text "https://example.org/2"]] }, by decide +kernel, rfl, rfl⟩
  have hsorted : Database.sortedByName
      [⟨"Types", "https://example.org/1"⟩, ⟨"types", "https://example.org/2"⟩] =
        [⟨"Types", "https://example.org/1"⟩, ⟨"types", "https://example.org/2"⟩] :=
    List.mergeSort_of_pairwise (by decide +kernel)
  rw [Database.status, if_pos hrecords.hasTable, hrecords.registered, hsorted]
  decide +kernel

end DatasetSync
