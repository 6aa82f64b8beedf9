/-
What becomes of a header cell.

Every cell gets one name, and the name is the cell, or what stands for a blank
one, with nothing behind it but points and digits: the search for a free name only
ever appends those.  So a name holds no character that its cell does not, apart
from those of the words for a blank cell.

Only a name that was asked for before is taken.  So cells that are all different and
none of them blank stay as they are.
-/
import DatasetSync.Dataset.Header

namespace DatasetSync.Header

theorem length_namesFrom (index : Nat) (counts : Counts) (cells : List String) :
    (namesFrom index counts cells).length = cells.length := by
  induction cells generalizing index counts with
  | nil => rfl
  | cons cell rest ih => simp [namesFrom, ih]

theorem length_names (cells : List String) : (names cells).length = cells.length :=
  length_namesFrom 0 [] cells

/-! ### Characters of a name -/

/-- A point or a digit. -/
def isSuffixPart (c : Char) : Bool :=
  c == '.' || c.isDigit

theorem isDigit_of_mem_toString {n : Nat} {c : Char} (h : c ∈ (toString n).toList) :
    c.isDigit = true := by
  rw [Nat.toString_eq_repr, Nat.toList_repr] at h
  exact Nat.isDigit_of_mem_toDigits (by decide) (by decide) h

/-- A free name is the name that was asked for with points and digits behind it. -/
theorem toList_freeName (counts : Counts) (name : String) :
    ∃ extra, (freeName counts name).1.toList = name.toList ++ extra ∧
      ∀ c ∈ extra, isSuffixPart c = true := by
  induction counts, name using freeName.induct with
  | case1 counts name hfree =>
      refine ⟨[], ?_, by simp⟩
      rw [freeName, if_pos hfree, List.append_nil]
  | case2 counts name htaken ih =>
      obtain ⟨extra, hname, hextra⟩ := ih
      refine ⟨'.' :: (toString (counts.of name)).toList ++ extra, ?_, ?_⟩
      · rw [freeName, if_neg htaken, hname]
        simp [suffixed]
      · intro c hc
        rcases List.mem_append.mp hc with hc | hc
        · rcases List.mem_cons.mp hc with rfl | hc
          · rfl
          · simp [isSuffixPart, isDigit_of_mem_toString hc]
        · exact hextra c hc

theorem nul_not_mem_baseName {index : Nat} {cell : String} (h : '\x00' ∉ cell.toList) :
    '\x00' ∉ (baseName index cell).toList := by
  unfold baseName
  split
  · rw [String.toList_append, List.mem_append]
    rintro (hnul | hnul)
    · revert hnul
      decide
    · exact absurd (isDigit_of_mem_toString hnul) (by decide)
  · exact h

theorem nul_not_mem_namesFrom {index : Nat} {counts : Counts} {cells : List String}
    (h : ∀ cell ∈ cells, '\x00' ∉ cell.toList) :
    ∀ name ∈ namesFrom index counts cells, '\x00' ∉ name.toList := by
  induction cells generalizing index counts with
  | nil => simp [namesFrom]
  | cons cell rest ih =>
      intro name hname
      rcases List.mem_cons.mp hname with rfl | hname
      · obtain ⟨extra, hlist, hextra⟩ := toList_freeName counts (baseName index cell)
        rw [hlist, List.mem_append]
        rintro (hnul | hnul)
        · exact nul_not_mem_baseName (h cell (by simp)) hnul
        · exact absurd (hextra _ hnul) (by decide)
      · exact ih (fun other hother => h other (by simp [hother])) name hname

/-- A header without a NUL gives names without one. -/
theorem nul_not_mem_names {cells : List String} (h : ∀ cell ∈ cells, '\x00' ∉ cell.toList) :
    ∀ name ∈ names cells, '\x00' ∉ name.toList :=
  nul_not_mem_namesFrom h

/-! ### Cells that stay as they are -/

/-- Asking for a name leaves the other names alone. -/
theorem of_bump_of_ne {name other : String} (h : name ≠ other) (counts : Counts) :
    (counts.bump name).of other = counts.of other := by
  induction counts with
  | nil => simp [Counts.bump, Counts.of, h]
  | cons entry rest ih =>
      obtain ⟨key, n⟩ := entry
      by_cases hkey : key = name
      · subst hkey
        simp [Counts.bump, Counts.of, h]
      · simp [Counts.bump, Counts.of, hkey, ih]

theorem namesFrom_of_nodup {cells : List String} (hdistinct : cells.Nodup)
    (hblank : ∀ cell ∈ cells, Text.allBlank cell = false) (index : Nat) {counts : Counts}
    (hfree : ∀ cell ∈ cells, counts.of cell = 0) : namesFrom index counts cells = cells := by
  induction cells generalizing index counts with
  | nil => rfl
  | cons cell rest ih =>
      obtain ⟨hnew, hrest⟩ := List.nodup_cons.mp hdistinct
      have hbase : baseName index cell = cell := by
        simp [baseName, hblank cell (by simp)]
      have hname : freeName counts cell = (cell, counts.bump cell) := by
        rw [freeName, if_pos (hfree cell (by simp))]
      rw [namesFrom, hbase, hname]
      refine congrArg (cell :: ·) (ih hrest (fun other hother => hblank other (by simp [hother]))
        (index + 1) ?_)
      intro other hother
      rw [of_bump_of_ne (ne_of_mem_of_not_mem hother hnew).symm]
      exact hfree other (by simp [hother])

/-- Cells that are all different, and none of them blank, are the names of their columns. -/
theorem names_of_nodup {cells : List String} (hdistinct : cells.Nodup)
    (hblank : ∀ cell ∈ cells, Text.allBlank cell = false) : names cells = cells :=
  namesFrom_of_nodup hdistinct hblank 0 fun _ _ => rfl

end DatasetSync.Header
