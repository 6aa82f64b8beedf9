/-
What statements do to the tables of a database.

Every statement is described once, by what it makes of the list of tables and of
the lookups in it, and no later proof opens the statement itself.  Changing a table
keeps its name, so it changes what is found under that name and nothing else;
dropping removes every spelling of a name; creating puts one empty table at the
end, and only under a name that nothing has yet.
-/
import DatasetSync.Database.Basic
import DatasetSync.Proofs.Names
import DatasetSync.Proofs.Results

namespace DatasetSync.Database

open Text (sameName)

/-! ### Lookups -/

theorem mem_of_table? {db : Database} {name : String} {t : Table} (h : db.table? name = some t) :
    t ∈ db.tables ∧ sameName t.name name = true :=
  ⟨List.mem_of_find?_eq_some h, by simpa using List.find?_some h⟩

theorem table?_eq_none_iff {db : Database} {name : String} :
    db.table? name = none ↔ ∀ t ∈ db.tables, sameName t.name name = false := by
  simp [table?, List.find?_eq_none]

theorem hasTable_iff {db : Database} {name : String} :
    db.hasTable name = true ↔ ∃ t ∈ db.tables, sameName t.name name = true := by
  simp [hasTable, table?, List.find?_isSome]

theorem hasTable_eq_false_iff {db : Database} {name : String} :
    db.hasTable name = false ↔ db.table? name = none := by
  simp [hasTable]

/-- A lookup does not depend on the spelling of the name. -/
theorem table?_congr (db : Database) {a b : String} (h : sameName a b = true) :
    db.table? a = db.table? b := by
  unfold table?
  congr 1
  funext t
  exact Text.sameName_congr_right h t.name

theorem hasTable_congr (db : Database) {a b : String} (h : sameName a b = true) :
    db.hasTable a = db.hasTable b := by
  unfold hasTable
  rw [table?_congr db h]

/-! ### Putting a table in the place of another -/

@[simp] theorem view?_putTable (db : Database) (t : Table) (other : String) :
    (db.putTable t).view? other = db.view? other := rfl

@[simp] theorem index?_putTable (db : Database) (t : Table) (other : String) :
    (db.putTable t).index? other = db.index? other := rfl

/-- What a lookup finds then: the new table, if it finds any that has the new one's name. -/
theorem table?_putTable (db : Database) (t : Table) (other : String) :
    (db.putTable t).table? other =
      (db.table? other).map fun u => if sameName u.name t.name then t else u := by
  have hkey : ((fun u : Table => sameName u.name other) ∘
      fun u => if sameName u.name t.name then t else u) = fun u => sameName u.name other := by
    funext u
    by_cases h : sameName u.name t.name = true
    · simp only [Function.comp_apply, if_pos h]
      exact (Text.sameName_congr h other).symm
    · simp [h]
  unfold table? putTable
  rw [List.find?_map, hkey]

theorem table?_putTable_self {db : Database} {t : Table} {name : String}
    (hname : sameName t.name name = true) (hthere : db.hasTable name = true) :
    (db.putTable t).table? name = some t := by
  rw [table?_putTable]
  obtain ⟨u, hu⟩ := Option.isSome_iff_exists.mp hthere
  have hsame : sameName u.name t.name = true := by
    rw [Text.sameName_congr_right hname u.name]
    exact (mem_of_table? hu).2
  rw [hu, Option.map_some, if_pos hsame]

theorem table?_putTable_of_ne (db : Database) {t : Table} {other : String}
    (hne : sameName other t.name = false) : (db.putTable t).table? other = db.table? other := by
  rw [table?_putTable]
  cases h : db.table? other with
  | none => rfl
  | some u =>
      have hname : sameName u.name t.name = false := by
        rw [Text.sameName_congr (mem_of_table? h).2 t.name, hne]
      simp [hname]

theorem hasTable_putTable (db : Database) (t : Table) (other : String) :
    (db.putTable t).hasTable other = db.hasTable other := by
  unfold hasTable
  rw [table?_putTable, Option.isSome_map]

/-! ### Adding a table -/

/-- The database with one more table. -/
def withTable (db : Database) (t : Table) : Database :=
  { db with tables := db.tables ++ [t] }

theorem table?_withTable_self {db : Database} {t : Table} (hnone : db.table? t.name = none) :
    (db.withTable t).table? t.name = some t := by
  have hold : db.tables.find? (fun u => sameName u.name t.name) = none := hnone
  simp [table?, withTable, List.find?_append, hold]

theorem table?_withTable_of_ne (db : Database) {t : Table} {other : String}
    (hne : sameName t.name other = false) : (db.withTable t).table? other = db.table? other := by
  simp [table?, withTable, List.find?_append, hne]

theorem hasTable_withTable (db : Database) (t : Table) (name : String) :
    (db.withTable t).hasTable name = (db.hasTable name || sameName t.name name) := by
  rw [Bool.eq_iff_iff, Bool.or_eq_true, hasTable_iff, hasTable_iff]
  constructor
  · rintro ⟨u, hu, hname⟩
    rcases List.mem_append.mp hu with hu | hu
    · exact Or.inl ⟨u, hu, hname⟩
    · rw [List.mem_singleton.mp hu] at hname
      exact Or.inr hname
  · rintro (⟨u, hu, hname⟩ | hname)
    · exact ⟨u, List.mem_append_left _ hu, hname⟩
    · exact ⟨t, List.mem_append_right _ (by simp), hname⟩

/-- Putting a table in the place of one that was added is adding it. -/
theorem putTable_withTable {db : Database} {t u : Table} (hname : u.name = t.name)
    (hnone : db.table? t.name = none) : (db.withTable t).putTable u = db.withTable u := by
  have hold : db.tables.map (fun v => if sameName v.name t.name then u else v) = db.tables := by
    refine (List.map_congr_left fun v hv => ?_).trans (List.map_id _)
    simp [table?_eq_none_iff.mp hnone v hv]
  simp [putTable, withTable, hold, hname]

/-! ### Dropping a table -/

theorem checkQuoted_eq_ok_iff {name statement : String} {offset : Nat} :
    checkQuoted name statement offset = .ok () ↔ '\x00' ∉ name.toList := by
  unfold checkQuoted
  split
  · simp [*]
  · simp [*]

theorem Table.goesAlong_self {t : Table} {name : String} (h : sameName name t.name = true) :
    t.goesAlong name = true := by
  rw [goesAlong, h, Bool.true_or]

theorem Table.goesAlong_congr (t : Table) {a b : String} (h : sameName a b = true) :
    t.goesAlong a = t.goesAlong b := by
  unfold goesAlong
  rw [Text.sameName_congr h]
  congr 2
  funext shadow
  exact Text.sameName_congr h shadow

/-- An ordinary table goes alone. -/
theorem Table.goesAlong_eq {t : Table} (h : t.shadows = []) (other : String) :
    t.goesAlong other = sameName other t.name := by
  rw [goesAlong, h, List.any_nil, Bool.or_false]

/-- A table that is there can be dropped. -/
theorem dropTable_of_table? {db : Database} {name : String} {t : Table}
    (hnul : '\x00' ∉ name.toList) (h : db.table? name = some t) :
    db.dropTable true name = .ok { db with
      tables := db.tables.filter fun u => !t.goesAlong u.name
      indexes := db.indexes.filter fun i => !t.goesAlong i.table } := by
  unfold dropTable
  rw [checkQuoted_eq_ok_iff.mpr hnul, h]
  rfl

/-- What a drop does: it leaves everything as it is, or takes away what goes along with a table of
the name. -/
theorem dropTable_eq_ok {db db' : Database} {name : String}
    (h : db.dropTable true name = .ok db') :
    (db.table? name = none ∧ db' = db) ∨
      ∃ t, db.table? name = some t ∧ db' = { db with
        tables := db.tables.filter fun u => !t.goesAlong u.name
        indexes := db.indexes.filter fun i => !t.goesAlong i.table } := by
  unfold dropTable at h
  rw [bind_eq_ok] at h
  obtain ⟨-, -, h⟩ := h
  split at h
  · rename_i hfound
    cases h
    exact Or.inr ⟨_, hfound, rfl⟩
  · contradiction
  · rename_i hnone _
    -- Under a name that only the database's own lists have, the drop is refused.
    split at h
    · contradiction
    · cases h
      exact Or.inl ⟨hnone, rfl⟩

theorem views_dropTable {db db' : Database} {name : String}
    (h : db.dropTable true name = .ok db') : db'.views = db.views := by
  rcases dropTable_eq_ok h with ⟨-, rfl⟩ | ⟨t, -, rfl⟩ <;> rfl

/-- A drop adds no table. -/
theorem tables_dropTable {db db' : Database} {name : String}
    (h : db.dropTable true name = .ok db') : db'.tables.Sublist db.tables := by
  rcases dropTable_eq_ok h with ⟨-, rfl⟩ | ⟨t, -, rfl⟩
  · exact List.Sublist.refl _
  · exact List.filter_sublist

/-- A drop adds no index. -/
theorem indexes_dropTable {db db' : Database} {name : String}
    (h : db.dropTable true name = .ok db') : db'.indexes.Sublist db.indexes := by
  rcases dropTable_eq_ok h with ⟨-, rfl⟩ | ⟨t, -, rfl⟩
  · exact List.Sublist.refl _
  · exact List.filter_sublist

/-- No index of a dropped table is left. -/
theorem indexes_of_dropped {db db' : Database} {name : String}
    (h : db.dropTable true name = .ok db') (hthere : db.hasTable name = true) :
    ∀ i ∈ db'.indexes, sameName i.table name = false := by
  rcases dropTable_eq_ok h with ⟨hnone, -⟩ | ⟨t, ht, rfl⟩
  · rw [hasTable_eq_false_iff.mpr hnone] at hthere
    contradiction
  · intro i hi
    have hkept : t.goesAlong i.table = false := by
      simpa using (List.mem_filter.mp hi).2
    rw [Bool.eq_false_iff]
    intro hsame
    rw [← Text.sameName_congr_right (mem_of_table? ht).2] at hsame
    rw [Table.goesAlong_self hsame] at hkept
    contradiction

/-- Nothing is found under a name after its drop. -/
theorem table?_dropTable {db db' : Database} {name : String}
    (h : db.dropTable true name = .ok db') : db'.table? name = none := by
  rcases dropTable_eq_ok h with ⟨hnone, rfl⟩ | ⟨t, ht, rfl⟩
  · exact hnone
  · rw [table?_eq_none_iff]
    intro u hu
    have hkept : t.goesAlong u.name = false := by simpa using (List.mem_filter.mp hu).2
    rw [Bool.eq_false_iff]
    intro hsame
    rw [← Text.sameName_congr_right (mem_of_table? ht).2] at hsame
    rw [Table.goesAlong_self hsame] at hkept
    contradiction

/-- What is found after the drop of a table was there before. -/
theorem table?_of_dropTable {db db' : Database} {name other : String} {t : Table}
    (h : db.dropTable true name = .ok db') (ht : db'.table? other = some t) :
    db.table? other = some t := by
  rcases dropTable_eq_ok h with ⟨-, rfl⟩ | ⟨dropped, -, rfl⟩
  · exact ht
  · obtain ⟨hmem, hname⟩ := mem_of_table? ht
    have hkept : dropped.goesAlong other = false := by
      rw [← dropped.goesAlong_congr hname]
      simpa using (List.mem_filter.mp hmem).2
    rw [← ht]
    unfold table?
    rw [List.find?_filter]
    congr 1
    funext u
    by_cases hother : sameName u.name other = true
    · rw [dropped.goesAlong_congr hother, hkept, hother]
      rfl
    · simp [hother]

/-! ### Virtual tables -/

/-- No table keeps its content in others. -/
def NoVirtualTables (db : Database) : Prop :=
  ∀ t ∈ db.tables, t.shadows = []

instance (db : Database) : Decidable db.NoVirtualTables :=
  inferInstanceAs (Decidable (∀ t ∈ db.tables, t.shadows = []))

/-- Without virtual tables, a drop takes away what has the name and no other table. -/
theorem NoVirtualTables.tables_dropTable {db db' : Database} {name : String}
    (hdb : db.NoVirtualTables) (h : db.dropTable true name = .ok db') :
    db'.tables = db.tables.filter fun t => !sameName t.name name := by
  rcases dropTable_eq_ok h with ⟨hnone, rfl⟩ | ⟨t, ht, rfl⟩
  · refine (List.filter_eq_self.mpr fun u hu => ?_).symm
    simp [table?_eq_none_iff.mp hnone u hu]
  · refine List.filter_congr fun u _ => ?_
    obtain ⟨hmem, hname⟩ := mem_of_table? ht
    rw [Table.goesAlong_eq (hdb t hmem), Text.sameName_congr_right hname u.name]

theorem NoVirtualTables.table?_dropTable_of_ne {db db' : Database} {name other : String}
    (hdb : db.NoVirtualTables) (h : db.dropTable true name = .ok db')
    (hne : sameName other name = false) : db'.table? other = db.table? other := by
  unfold table?
  rw [hdb.tables_dropTable h, List.find?_filter]
  congr 1
  funext t
  by_cases hother : sameName t.name other = true
  · rw [Text.sameName_congr hother name, hne, hother]
    rfl
  · simp [hother]

end DatasetSync.Database
