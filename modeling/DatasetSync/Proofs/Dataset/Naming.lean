/-
The names of the columns are all different, and how a repeated name is numbered.

How often a name was asked for is one more than the last number that was put behind it, and
a name is free exactly if no cell got it.  That is the invariant: it is kept by one search,
hence by all searches of a header.

The number behind a name is the next one that no cell got behind it.  Where that leads to a
name that is in use, because some cell spells it out, the search does not go back to try the
number after it, but goes on behind the name in use.
-/
import Mathlib.Data.List.Nodup
import Mathlib.Order.Bounds.Defs
import DatasetSync.Proofs.Dataset.FreeName

namespace DatasetSync.Header

/-! ### What the counts say about the names given so far -/

/-- The names that the cells of a header ask for, each with the one that the cell gets. -/
def given (cells : List String) : List (String × String) :=
  (cells.mapIdx baseName).zip (names cells)

/-- Some cell got the number behind the name: it asked for the name, or for one that was extended to
it, and the name it got goes on with the number. -/
def Numbered (given : List (String × String)) (name : String) (n : Nat) : Prop :=
  ∃ asked ms ns, (asked, extended (suffixed name n) ns) ∈ given ∧ name = extended asked ms

theorem numbered_concat_iff {given : List (String × String)} {asked name : String}
    {ns : List Nat} {n : Nat} :
    Numbered (given ++ [(asked, extended asked ns)]) name n ↔
      Numbered given name n ∨ ∃ ms, ms ++ [n] <+: ns ∧ name = extended asked ms := by
  constructor
  · rintro ⟨first, ms, rest, hmem, hname⟩
    rcases List.mem_append.mp hmem with hmem | hmem
    · exact .inl ⟨first, ms, rest, hmem, hname⟩
    · obtain ⟨rfl, hgot⟩ := Prod.mk.inj (List.mem_singleton.mp hmem)
      refine .inr ⟨ms, ⟨rest, ?_⟩, hname⟩
      apply extended_inj.mp
      rw [← hgot, hname, List.append_assoc, extended_append]
      rfl
  · rintro (⟨first, ms, rest, hmem, hname⟩ | ⟨ms, ⟨rest, rfl⟩, rfl⟩)
    · exact ⟨first, ms, rest, List.mem_append_left _ hmem, hname⟩
    · refine ⟨asked, ms, rest, ?_, rfl⟩
      rw [List.append_assoc, extended_append]
      exact List.mem_append_right _ (List.mem_singleton.mpr rfl)

/-- The counts stand for the names given so far. -/
structure Tallies (counts : Counts) (given : List (String × String)) : Prop where
  named : ∀ name, counts.of name ≠ 0 ↔ name ∈ given.map Prod.snd
  numbered : ∀ name n, Numbered given name n ↔ n ≠ 0 ∧ n < counts.of name
  /-- A number is only put behind a name to get one that is in use from then on. -/
  taken : ∀ name n, Numbered given name n → counts.of (suffixed name n) ≠ 0

theorem tallies_nil : Tallies [] [] := by
  constructor <;> simp [Counts.of, Numbered]

/-- One more search. -/
theorem Tallies.search {counts : Counts} {given : List (String × String)}
    (h : Tallies counts given) (asked : String) :
    Tallies (freeName counts asked).2 (given ++ [(asked, (freeName counts asked).1)]) := by
  obtain ⟨ns, hfinds⟩ := exists_finds counts asked
  have hnumbered : ∀ name n,
      Numbered (given ++ [(asked, (freeName counts asked).1)]) name n ↔
        Numbered given name n ∨ OnWay asked ns name ∧ n = counts.of name ∧ n ≠ 0 := by
    intro name n
    rw [hfinds.found, numbered_concat_iff, hfinds.passed_iff]
  refine ⟨?_, ?_, ?_⟩
  · intro name
    rw [hfinds.of_ne_zero_iff, h.named, hfinds.found]
    simp
  · intro name n
    rw [hnumbered, h.numbered]
    by_cases hway : OnWay asked ns name
    · rw [hfinds.of_onWay hway, and_iff_right hway]
      omega
    · rw [hfinds.of_not_onWay hway, or_iff_left fun hnew => hway hnew.1]
  · intro name n hname
    rw [hfinds.of_ne_zero_iff]
    rcases (hnumbered name n).mp hname with hold | hnew
    · exact .inl (h.taken name n hold)
    · -- The name with the number is on the way as well, so it is in use or found.
      obtain ⟨ms, hms, rfl⟩ := hfinds.passed_iff.mpr hnew
      have hway : OnWay asked ns (suffixed (extended asked ms) n) :=
        ⟨ms ++ [n], hms, by rw [extended_append]; rfl⟩
      rw [← hfinds.of_ne_zero_iff, hfinds.of_onWay hway]
      exact Nat.succ_ne_zero _

/-! ### All cells of a header -/

/-- Each cell gets what a search finds that starts from the names given before. -/
theorem exists_tallies_namesFrom {counts : Counts} {before : List (String × String)}
    (h : Tallies counts before) (index : Nat) {i : Nat} {cells : List String} {cell : String}
    (hcell : cells[i]? = some cell) :
    ∃ reached, Tallies reached (before ++
        ((cells.mapIdx fun k => baseName (index + k)).zip (namesFrom index counts cells)).take i) ∧
      (namesFrom index counts cells)[i]? =
        some (freeName reached (baseName (index + i) cell)).1 := by
  induction cells generalizing counts before index i with
  | nil => simp at hcell
  | cons first rest ih =>
      cases i with
      | zero =>
          obtain rfl : first = cell := by simpa using hcell
          exact ⟨counts, by simpa using h, rfl⟩
      | succ i =>
          obtain ⟨reached, htallies, hname⟩ :=
            ih (h.search (baseName index first)) (index + 1) (i := i) (by simpa using hcell)
          have hindex : ∀ k, index + 1 + k = index + (k + 1) := by omega
          simp only [hindex] at htallies hname
          refine ⟨reached, ?_, hname⟩
          rw [namesFrom, List.mapIdx_cons, List.zip_cons_cons, List.take_succ_cons]
          rwa [List.append_assoc] at htallies

theorem exists_tallies_names {cells : List String} {i : Nat} {cell : String}
    (hcell : cells[i]? = some cell) :
    ∃ reached, Tallies reached ((given cells).take i) ∧
      (names cells)[i]? = some (freeName reached (baseName i cell)).1 := by
  obtain ⟨reached, htallies, hname⟩ := exists_tallies_namesFrom tallies_nil 0 hcell
  simp only [Nat.zero_add, List.nil_append] at htallies hname
  exact ⟨reached, htallies, hname⟩

/-- The names given at earlier positions. -/
theorem map_snd_take_given (cells : List String) (i : Nat) :
    ((given cells).take i).map Prod.snd = (names cells).take i := by
  rw [List.map_take, given, List.map_snd_zip]
  simp [length_names]

theorem Tallies.of_eq_zero_iff {counts : Counts} {cells : List String} {i : Nat}
    (h : Tallies counts ((given cells).take i)) (name : String) :
    counts.of name = 0 ↔ name ∉ (names cells).take i := by
  rw [← map_snd_take_given, ← h.named, not_not]

/-! ### Names are all different -/

/-- No cell gets a name that was given before. -/
theorem not_mem_take_names {cells : List String} {i : Nat} {name : String}
    (hname : (names cells)[i]? = some name) : name ∉ (names cells).take i := by
  have hlength : i < cells.length := by
    obtain ⟨hi, -⟩ := List.getElem?_eq_some_iff.mp hname
    rwa [length_names] at hi
  obtain ⟨reached, htallies, hgot⟩ :=
    exists_tallies_names (List.getElem?_eq_getElem hlength)
  obtain ⟨ns, hfinds⟩ := exists_finds reached (baseName i cells[i])
  rw [hgot, Option.some.injEq, hfinds.found] at hname
  rw [← htallies.of_eq_zero_iff, ← hname]
  exact hfinds.free

theorem nodup_names (cells : List String) : (names cells).Nodup := by
  rw [List.nodup_iff_getElem?_ne_getElem?]
  intro i j hij hj heq
  have hname := List.getElem?_eq_getElem hj
  refine not_mem_take_names hname (List.mem_take_iff_getElem.mpr ⟨i, by omega, ?_⟩)
  rw [hname, List.getElem?_eq_getElem (by omega), Option.some.injEq] at heq
  exact heq

theorem allBlank_baseName (index : Nat) (cell : String) :
    Text.allBlank (baseName index cell) = false := by
  unfold baseName
  split
  · rw [Text.allBlank, String.toList_append, List.all_append]
    rfl
  · rwa [← Bool.not_eq_true]

/-- A cell whose base name is free gets that. -/
theorem found_of_free {counts : Counts} {name : String} (h : counts.of name = 0) :
    (freeName counts name).1 = name := by
  rw [freeName, if_pos h]

/-- **Every cell gets a name, and the names are all different.**  None of them is blank.  Each
begins with the base name of its cell, and is that, unless the base name was given before.  Names
that are all different already stay as they are.  Any cells have such names,
because every search ends: an extension is longer, and fewer names in use are as long. -/
theorem names_all_different (cells : List String) :
    (names cells).length = cells.length ∧ (names cells).Nodup ∧
      (∀ name ∈ names cells, Text.allBlank name = false) ∧
      (∀ i cell, cells[i]? = some cell → ∃ name, (names cells)[i]? = some name ∧
        (baseName i cell).toList <+: name.toList ∧
        (baseName i cell ∉ (names cells).take i → name = baseName i cell)) ∧
      (cells.Nodup → (∀ cell ∈ cells, Text.allBlank cell = false) → names cells = cells) ∧
      names (names cells) = names cells := by
  have heach : ∀ i cell, cells[i]? = some cell → ∃ name, (names cells)[i]? = some name ∧
      (baseName i cell).toList <+: name.toList ∧
      (baseName i cell ∉ (names cells).take i → name = baseName i cell) := by
    intro i cell hcell
    obtain ⟨reached, htallies, hname⟩ := exists_tallies_names hcell
    obtain ⟨extra, hextra, -⟩ := toList_freeName reached (baseName i cell)
    refine ⟨_, hname, ⟨extra, hextra.symm⟩, fun hnew => ?_⟩
    exact found_of_free ((htallies.of_eq_zero_iff _).mpr hnew)
  have hblank : ∀ name ∈ names cells, Text.allBlank name = false := by
    intro name hmem
    obtain ⟨i, hi, rfl⟩ := List.mem_iff_getElem.mp hmem
    have hlength : i < cells.length := by rwa [length_names] at hi
    obtain ⟨name, hname, ⟨extra, hextra⟩, -⟩ := heach i _ (List.getElem?_eq_getElem hlength)
    obtain ⟨_, rfl⟩ := List.getElem?_eq_some_iff.mp hname
    have hbase := allBlank_baseName i cells[i]
    rw [Text.allBlank] at hbase ⊢
    rw [← hextra, List.all_append, hbase, Bool.false_and]
  exact ⟨length_names cells, nodup_names cells, hblank, heach, names_of_nodup,
    names_of_nodup (nodup_names cells) hblank⟩

/-- A header with a blank cell that has one name three times, and its first extension spelled out
after the second. -/
def repeatedHeader : List String :=
  ["id", "", "name", "name", "name.1", "name"]

/-- Every cell gets a name of its own, which begins with what stands in it.  Cells whose names were
not given before keep them: here the third, though not the fifth, and every one of a header without
repetitions. -/
theorem repeatedHeader_all_different :
    names repeatedHeader = ["id", "Unnamed: 1", "name", "name.1", "name.1.1", "name.2"] ∧
      (names repeatedHeader).Nodup ∧
      (∀ name ∈ names repeatedHeader, Text.allBlank name = false) ∧
      (names repeatedHeader)[2]? = some (baseName 2 "name") ∧
      (∃ name, (names repeatedHeader)[4]? = some name ∧
        (baseName 4 "name.1").toList <+: name.toList ∧ name ≠ baseName 4 "name.1") ∧
      names (names repeatedHeader) = names repeatedHeader ∧
      ["id", "name.1", "name"].Nodup ∧
      (∀ cell ∈ ["id", "name.1", "name"], Text.allBlank cell = false) ∧
      names ["id", "name.1", "name"] = ["id", "name.1", "name"] := by
  obtain ⟨-, hnodup, hblank, heach, -, hagain⟩ := names_all_different repeatedHeader
  obtain ⟨third, hthird, -, hkept⟩ := heach 2 "name" rfl
  obtain ⟨fifth, hfifth, hbegins, -⟩ := heach 4 "name.1" rfl
  have hgiven : names repeatedHeader =
      ["id", "Unnamed: 1", "name", "name.1", "name.1.1", "name.2"] := by decide +kernel
  have hnew : baseName 2 "name" ∉ (names repeatedHeader).take 2 := by decide +kernel
  have hextended : fifth ≠ baseName 4 "name.1" := by
    rw [hgiven] at hfifth
    cases hfifth
    decide +kernel
  have hdistinct : ["id", "name.1", "name"].Nodup := by decide
  have hnames : ∀ cell ∈ ["id", "name.1", "name"], Text.allBlank cell = false := by decide
  rw [hkept hnew] at hthird
  exact ⟨hgiven, hnodup, hblank, hthird, ⟨fifth, hfifth, hbegins, hextended⟩, hagain, hdistinct,
    hnames, (names_all_different _).2.2.2.2.1 hdistinct hnames⟩

/-! ### How a repeated name is numbered -/

/-- **A repeated name is numbered by the next number that no cell got behind it.**  The search goes
on behind that, so the cell gets the name with the smallest number that makes it a new one exactly
if no cell has the name with the next number. -/
theorem repeated_name_iff {cells : List String} {i : Nat} {cell name : String}
    (hcell : cells[i]? = some cell) (hname : (names cells)[i]? = some name)
    (hrepeated : baseName i cell ∈ (names cells).take i) :
    ∃ n, IsLeast {n | 1 ≤ n ∧ ¬Numbered ((given cells).take i) (baseName i cell) n} n ∧
      (∃ ns, name = extended (baseName i cell) (n :: ns)) ∧
      ((∃ k, IsLeast {k | 1 ≤ k ∧ suffixed (baseName i cell) k ∉ (names cells).take i} k ∧
          name = suffixed (baseName i cell) k) ↔
        suffixed (baseName i cell) n ∉ (names cells).take i) := by
  obtain ⟨reached, htallies, hgot⟩ := exists_tallies_names hcell
  obtain ⟨ns, hfinds⟩ := exists_finds reached (baseName i cell)
  rw [hgot, Option.some.injEq, hfinds.found] at hname
  subst hname
  have htaken : reached.of (baseName i cell) ≠ 0 := by
    rw [Ne, htallies.of_eq_zero_iff, not_not]
    exact hrepeated
  -- The name is in use, so the search puts a number behind it.
  obtain ⟨n, ns, rfl⟩ : ∃ n rest, ns = n :: rest := by
    cases ns with
    | nil => exact absurd hfinds.free htaken
    | cons n rest => exact ⟨n, rest, rfl⟩
  obtain ⟨hn, hpos⟩ := hfinds.number [] n ⟨ns, rfl⟩
  rw [extended_nil] at hn
  have hnumbered : ∀ m, Numbered ((given cells).take i) (baseName i cell) m ↔ m ≠ 0 ∧ m < n := by
    intro m
    rw [htallies.numbered, hn]
  refine ⟨n, ⟨⟨by omega, ?_⟩, ?_⟩, ⟨ns, rfl⟩, ?_⟩
  · rw [hnumbered]
    omega
  · rintro m ⟨hm, hfree⟩
    rw [hnumbered] at hfree
    omega
  · constructor
    · rintro ⟨k, ⟨⟨-, hfree⟩, -⟩, heq⟩
      have hone : extended (baseName i cell) (n :: ns) = extended (baseName i cell) [k] := heq
      obtain ⟨rfl, -⟩ := List.cons.inj (extended_inj.mp hone)
      exact hfree
    · intro hfree
      have hnone : ns = [] := by
        cases ns with
        | nil => rfl
        | cons m rest =>
            obtain ⟨hm, hused⟩ := hfinds.number [n] m ⟨rest, rfl⟩
            exact absurd (hm.trans ((htallies.of_eq_zero_iff _).mpr hfree)) hused
      subst hnone
      refine ⟨n, ⟨⟨by omega, hfree⟩, ?_⟩, rfl⟩
      rintro m ⟨hm, hnew⟩
      by_contra hlt
      exact htallies.taken _ m ((hnumbered m).mpr ⟨by omega, by omega⟩)
        ((htallies.of_eq_zero_iff _).mpr hnew)

/-- The next number behind `name` leads to a free name. -/
theorem repeatedHeader_numbered :
    repeatedHeader[5]? = some "name" ∧ (names repeatedHeader)[5]? = some "name.2" ∧
      baseName 5 "name" ∈ (names repeatedHeader).take 5 ∧
      ∃ n, IsLeast {n | 1 ≤ n ∧ ¬Numbered ((given repeatedHeader).take 5) (baseName 5 "name") n} n ∧
        (∃ ns, "name.2" = extended (baseName 5 "name") (n :: ns)) ∧
        ((∃ k, IsLeast {k | 1 ≤ k ∧
              suffixed (baseName 5 "name") k ∉ (names repeatedHeader).take 5} k ∧
            "name.2" = suffixed (baseName 5 "name") k) ↔
          suffixed (baseName 5 "name") n ∉ (names repeatedHeader).take 5) := by
  have hcell : repeatedHeader[5]? = some "name" := rfl
  have hname : (names repeatedHeader)[5]? = some "name.2" := by decide +kernel
  have hrepeated : baseName 5 "name" ∈ (names repeatedHeader).take 5 := by decide +kernel
  exact ⟨hcell, hname, hrepeated, repeated_name_iff hcell hname hrepeated⟩

/-- The cell `a.1` stands in front of the second `a`, which gets `a.1.1`, although `a.2` is free. -/
theorem spelled_out_number_extended :
    names ["a", "a.1", "a"] = ["a", "a.1", "a.1.1"] ∧
      baseName 2 "a" ∈ (names ["a", "a.1", "a"]).take 2 ∧
      IsLeast {k | 1 ≤ k ∧ suffixed (baseName 2 "a") k ∉ (names ["a", "a.1", "a"]).take 2} 2 ∧
      "a.1.1" ≠ suffixed (baseName 2 "a") 2 := by
  have hone : suffixed (baseName 2 "a") 1 ∈ (names ["a", "a.1", "a"]).take 2 := by
    decide +kernel
  have htwo : suffixed (baseName 2 "a") 2 ∉ (names ["a", "a.1", "a"]).take 2 := by
    decide +kernel
  refine ⟨by decide +kernel, by decide +kernel, ⟨⟨by omega, htwo⟩, ?_⟩, by decide +kernel⟩
  rintro k ⟨hpos, hfree⟩
  by_contra hlt
  obtain rfl : k = 1 := by omega
  exact hfree hone

end DatasetSync.Header
