/-
The search for a free name.

The search puts one number after the other behind the name that is asked for, until the
result is free.  The number behind a name says how often that name was asked for, and every
name the search comes past is asked for once more.  The names on the way differ from each
other, and the numbers can be read off the result, because digits hold no point.
-/
import Mathlib.Data.List.Induction
import DatasetSync.Proofs.Dataset.Header

namespace DatasetSync.Header

/-! ### Numbers behind a name -/

theorem toList_suffixed (name : String) (n : Nat) :
    (suffixed name n).toList = name.toList ++ '.' :: (toString n).toList := by
  simp [suffixed]

/-- Read from its end, a name with a number has the digits of the number, and a point before
them. -/
theorem takeWhile_dropWhile_suffixed (name : String) (n : Nat) :
    (suffixed name n).toList.reverse.takeWhile Char.isDigit = (toString n).toList.reverse ∧
      (suffixed name n).toList.reverse.dropWhile Char.isDigit = '.' :: name.toList.reverse := by
  have hdigits : ∀ c ∈ (toString n).toList.reverse, c.isDigit = true :=
    fun c hc => isDigit_of_mem_toString (List.mem_reverse.mp hc)
  have hreverse : (suffixed name n).toList.reverse =
      (toString n).toList.reverse ++ '.' :: name.toList.reverse := by
    simp [toList_suffixed]
  rw [hreverse, List.takeWhile_append_of_pos hdigits, List.dropWhile_append_of_pos hdigits]
  simp

theorem toString_inj {m n : Nat} : toString m = toString n ↔ m = n := by
  constructor
  · intro h
    have hvalue := congrArg (fun digits => Nat.ofDigitChars 10 digits.toList 0) h
    simpa [Nat.ofDigitChars_toDigits] using hvalue
  · rintro rfl
    rfl

theorem suffixed_inj {name other : String} {m n : Nat} :
    suffixed name m = suffixed other n ↔ name = other ∧ m = n := by
  constructor
  · intro h
    obtain ⟨hdigits, hname⟩ := takeWhile_dropWhile_suffixed name m
    rw [h] at hdigits hname
    rw [(takeWhile_dropWhile_suffixed other n).1] at hdigits
    rw [(takeWhile_dropWhile_suffixed other n).2] at hname
    constructor
    · simpa [String.toList_inj] using hname.symm
    · rwa [List.reverse_inj, String.toList_inj, toString_inj, eq_comm] at hdigits
  · rintro ⟨rfl, rfl⟩
    rfl

/-- A name with numbers behind it, one after the other. -/
def extended (name : String) (ns : List Nat) : String :=
  ns.foldl suffixed name

@[simp] theorem extended_nil (name : String) : extended name [] = name := rfl

@[simp] theorem extended_cons (name : String) (n : Nat) (ns : List Nat) :
    extended name (n :: ns) = extended (suffixed name n) ns := rfl

theorem extended_append (name : String) (ms ns : List Nat) :
    extended name (ms ++ ns) = extended (extended name ms) ns :=
  List.foldl_append

theorem length_le_extended (name : String) (ns : List Nat) :
    name.length ≤ (extended name ns).length := by
  induction ns generalizing name with
  | nil => exact Nat.le_refl _
  | cons n ns ih => exact Nat.le_trans (Nat.le_of_lt (length_lt_suffixed name n)) (ih _)

theorem extended_suffixed_ne (name : String) (n : Nat) (ns : List Nat) :
    extended (suffixed name n) ns ≠ name := by
  intro h
  have hshort := length_lt_suffixed name n
  have hlong := length_le_extended (suffixed name n) ns
  rw [h] at hlong
  omega

/-- The numbers behind a name can be read off. -/
theorem extended_inj {name : String} {ms ns : List Nat} :
    extended name ms = extended name ns ↔ ms = ns := by
  constructor
  · intro h
    induction ms using List.reverseRecOn generalizing ns with
    | nil =>
        cases ns with
        | nil => rfl
        | cons n ns => exact absurd h.symm (extended_suffixed_ne name n ns)
    | append_singleton ms m ih =>
        rcases List.eq_nil_or_concat ns with rfl | ⟨ns, n, rfl⟩
        · rw [extended_append, extended_nil] at h
          cases ms with
          | nil => exact absurd h (extended_suffixed_ne name m [])
          | cons k ms =>
              rw [← extended_append] at h
              exact absurd h (extended_suffixed_ne name k _)
        · rw [List.concat_eq_append] at h ⊢
          rw [extended_append, extended_append] at h
          obtain ⟨hname, rfl⟩ := suffixed_inj.mp h
          rw [ih hname]
  · rintro rfl
    rfl

/-! ### One search -/

theorem of_bump_self (counts : Counts) (name : String) :
    (counts.bump name).of name = counts.of name + 1 := by
  induction counts with
  | nil => simp [Counts.bump, Counts.of]
  | cons entry rest ih =>
      obtain ⟨key, n⟩ := entry
      by_cases hkey : key = name
      · simp [Counts.bump, Counts.of, hkey]
      · simp [Counts.bump, Counts.of, hkey, ih]

/-- The search from a name puts the numbers `ns` behind it. -/
structure Finds (counts : Counts) (name : String) (ns : List Nat) : Prop where
  found : (freeName counts name).1 = extended name ns
  free : counts.of (extended name ns) = 0
  /-- Each number says how often the name in front of it was asked for before. -/
  number : ∀ ms n, ms ++ [n] <+: ns → n = counts.of (extended name ms) ∧ n ≠ 0
  /-- Every name on the way is asked for once more. -/
  asked : ∀ ms, ms <+: ns →
    (freeName counts name).2.of (extended name ms) = counts.of (extended name ms) + 1
  others : ∀ other, (∀ ms, ms <+: ns → other ≠ extended name ms) →
    (freeName counts name).2.of other = counts.of other

theorem exists_finds (counts : Counts) (name : String) : ∃ ns, Finds counts name ns := by
  induction counts, name using freeName.induct with
  | case1 counts name hfree =>
      have hfound : freeName counts name = (name, counts.bump name) := by
        rw [freeName, if_pos hfree]
      refine ⟨[], by rw [hfound]; rfl, hfree, ?_, ?_, ?_⟩
      · intro ms n hms
        simp at hms
      · intro ms hms
        rw [List.prefix_nil.mp hms, hfound]
        exact of_bump_self counts name
      · intro other hother
        rw [hfound]
        exact of_bump_of_ne (hother [] List.nil_prefix).symm counts
  | case2 counts name htaken ih =>
      obtain ⟨ns, hfinds⟩ := ih
      have hfound : freeName counts name =
          freeName (counts.bump name) (suffixed name (counts.of name)) := by
        rw [freeName, if_neg htaken]
      -- Everything further on the way is longer than the name itself.
      have hlater : ∀ ms, (counts.bump name).of (extended (suffixed name (counts.of name)) ms) =
          counts.of (extended (suffixed name (counts.of name)) ms) :=
        fun ms => of_bump_of_ne (extended_suffixed_ne name _ ms).symm counts
      refine ⟨counts.of name :: ns, ?_, ?_, ?_, ?_, ?_⟩
      · rw [hfound]
        exact hfinds.found
      · rw [extended_cons, ← hlater]
        exact hfinds.free
      · intro ms n hms
        cases ms with
        | nil =>
            obtain ⟨rfl, -⟩ := List.cons_prefix_cons.mp hms
            exact ⟨rfl, htaken⟩
        | cons m ms =>
            obtain ⟨rfl, hrest⟩ := List.cons_prefix_cons.mp hms
            rw [extended_cons, ← hlater]
            exact hfinds.number ms n hrest
      · intro ms hms
        rw [hfound]
        cases ms with
        | nil =>
            rw [extended_nil, hfinds.others name
              fun ms _ => (extended_suffixed_ne name _ ms).symm]
            exact of_bump_self counts name
        | cons m ms =>
            obtain ⟨rfl, hrest⟩ := List.cons_prefix_cons.mp hms
            rw [extended_cons, hfinds.asked ms hrest, hlater]
      · intro other hother
        have hname : other ≠ name := hother [] List.nil_prefix
        rw [hfound, hfinds.others other ?_, of_bump_of_ne hname.symm]
        intro ms hms
        exact hother (counts.of name :: ms) (List.cons_prefix_cons.mpr ⟨rfl, hms⟩)

/-! ### What a search changes -/

/-- The search comes past the name, or ends with it. -/
def OnWay (asked : String) (ns : List Nat) (name : String) : Prop :=
  ∃ ms, ms <+: ns ∧ name = extended asked ms

section Finds

variable {counts : Counts} {asked name : String} {ns : List Nat}

theorem Finds.of_onWay (h : Finds counts asked ns) (hway : OnWay asked ns name) :
    (freeName counts asked).2.of name = counts.of name + 1 := by
  obtain ⟨ms, hms, rfl⟩ := hway
  exact h.asked ms hms

theorem Finds.of_not_onWay (h : Finds counts asked ns) (hway : ¬OnWay asked ns name) :
    (freeName counts asked).2.of name = counts.of name :=
  h.others name fun ms hms heq => hway ⟨ms, hms, heq⟩

/-- The search goes on behind a name with a number if the name is on the way and in use, and the
number is how often it was asked for. -/
theorem Finds.passed_iff (h : Finds counts asked ns) {n : Nat} :
    (∃ ms, ms ++ [n] <+: ns ∧ name = extended asked ms) ↔
      OnWay asked ns name ∧ n = counts.of name ∧ n ≠ 0 := by
  constructor
  · rintro ⟨ms, hms, rfl⟩
    exact ⟨⟨ms, (List.prefix_append ms [n]).trans hms, rfl⟩, h.number ms n hms⟩
  · rintro ⟨⟨ms, ⟨rest, rfl⟩, rfl⟩, hn, hused⟩
    cases rest with
    | nil =>
        have hfree := h.free
        rw [List.append_nil] at hfree
        exact absurd (hn.trans hfree) hused
    | cons k rest =>
        have hpassed : ms ++ [k] <+: ms ++ k :: rest := ⟨rest, by simp⟩
        obtain ⟨hk, -⟩ := h.number ms k hpassed
        rw [← hn] at hk
        exact ⟨ms, hk ▸ hpassed, rfl⟩

/-- The names in use after a search are those before it and the one it found. -/
theorem Finds.of_ne_zero_iff (h : Finds counts asked ns) :
    (freeName counts asked).2.of name ≠ 0 ↔ counts.of name ≠ 0 ∨ name = extended asked ns := by
  by_cases hway : OnWay asked ns name
  · rw [h.of_onWay hway]
    refine iff_of_true (Nat.succ_ne_zero _) ?_
    by_cases hused : counts.of name = 0
    · right
      obtain ⟨ms, ⟨rest, rfl⟩, rfl⟩ := hway
      cases rest with
      | nil => rw [List.append_nil]
      | cons k rest =>
          obtain ⟨hk, hpos⟩ := h.number ms k ⟨rest, by simp⟩
          exact absurd (hk.trans hused) hpos
    · exact .inl hused
  · rw [h.of_not_onWay hway]
    refine (or_iff_left ?_).symm
    rintro rfl
    exact hway ⟨ns, List.prefix_rfl, rfl⟩

end Finds

end DatasetSync.Header
