/-
Names for the columns of a dataset.

The first record of a payload names the columns, but it may leave names blank or
give one twice.  A blank cell at index `i` is called `Unnamed: i`.  A name that
was asked for before is extended by a point and the number of times it was asked
for, and again in the same way until nobody asked for the result before.

The search ends because every extension is longer: the names at least as long as
the one under trial become fewer with each step.
-/
import DatasetSync.Text.Blank

namespace DatasetSync.Header

/-- How often each name was asked for. -/
abbrev Counts := List (String × Nat)

namespace Counts

/-- How often a name was asked for. -/
def of : Counts → String → Nat
  | [], _ => 0
  | (key, n) :: rest, name => if key = name then n else of rest name

/-- Asks for a name once more. -/
def bump : Counts → String → Counts
  | [], name => [(name, 1)]
  | (key, n) :: rest, name =>
    if key = name then (key, n + 1) :: rest else (key, n) :: bump rest name

/-- How many names are at least `length` characters long. -/
def atLeast (length : Nat) : Counts → Nat
  | [] => 0
  | (key, _) :: rest => (if length ≤ key.length then 1 else 0) + atLeast length rest

theorem atLeast_bump {counts : Counts} {name : String} (h : counts.of name ≠ 0) (length : Nat) :
    (counts.bump name).atLeast length = counts.atLeast length := by
  induction counts with
  | nil => exact absurd rfl h
  | cons entry rest ih =>
    obtain ⟨key, n⟩ := entry
    unfold of at h
    unfold bump
    split at h
    · simp [*, atLeast]
    · simp [*, atLeast]

theorem atLeast_antitone (counts : Counts) {short long : Nat} (h : short ≤ long) :
    counts.atLeast long ≤ counts.atLeast short := by
  induction counts with
  | nil => exact Nat.le_refl _
  | cons entry rest ih =>
    unfold atLeast
    split <;> split <;> omega

theorem atLeast_lt {counts : Counts} {name : String} (h : counts.of name ≠ 0) {length : Nat}
    (lt : name.length < length) : counts.atLeast length < counts.atLeast name.length := by
  induction counts with
  | nil => exact absurd rfl h
  | cons entry rest ih =>
    obtain ⟨key, n⟩ := entry
    unfold of at h
    unfold atLeast
    split at h
    · rename_i same
      subst same
      have := atLeast_antitone rest (Nat.le_of_lt lt)
      split <;> split <;> omega
    · have := ih h
      split <;> split <;> omega

end Counts

/-- A name with a number behind a point. -/
def suffixed (name : String) (n : Nat) : String :=
  name ++ "." ++ toString n

theorem length_lt_suffixed (name : String) (n : Nat) :
    name.length < (suffixed name n).length := by
  have h : ".".length = 1 := rfl
  rw [suffixed, String.length_append, String.length_append, h]
  omega

/-- The first of a name and its extensions that nobody asked for, and the counts with every name on
the way asked for once more. -/
def freeName (counts : Counts) (name : String) : String × Counts :=
  if counts.of name = 0 then (name, counts.bump name)
  else freeName (counts.bump name) (suffixed name (counts.of name))
termination_by counts.atLeast name.length
decreasing_by
  rename_i taken
  rw [Counts.atLeast_bump taken]
  exact Counts.atLeast_lt taken (length_lt_suffixed ..)

/-- The name of the cell at `index` before any extension. -/
def baseName (index : Nat) (cell : String) : String :=
  if Text.allBlank cell then "Unnamed: " ++ toString index else cell

/-- The names of the cells from `index` on. -/
def namesFrom (index : Nat) (counts : Counts) : List String → List String
  | [] => []
  | cell :: rest =>
    let (name, counts) := freeName counts (baseName index cell)
    name :: namesFrom (index + 1) counts rest

/-- The column names that a header record gives. -/
def names (cells : List String) : List String :=
  namesFrom 0 [] cells

end DatasetSync.Header
