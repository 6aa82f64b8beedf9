/-
The literals, by their form.

What the readers accept is said here without them: a whole-number literal is a sign and
digits whose value fits into 64 bits; a real literal is a sign and either a word for
infinity, in any casing, or digits with a point among them or around them, and perhaps an
exponent.  The readers accept exactly these texts.

So a whole-number literal is a real literal too, which is why a column whose values are
all whole or all numbers holds nothing that cannot be read as a real number.  A spelling
of "not a number" is no real literal: a decimal begins with a digit or a point.
-/
import DatasetSync.Number.Literal
import DatasetSync.Proofs.Number.Binary64
import Mathlib.Data.List.TakeWhile

namespace DatasetSync.Number

/-! ### Signs and digits -/

/-- A sign in front of a number, or none; it is a minus or it is not. -/
inductive Sign : List Char → Bool → Prop
  | none : Sign [] false
  | plus : Sign ['+'] false
  | minus : Sign ['-'] true

/-- Digits and nothing else. -/
def AllDigits (cs : List Char) : Prop :=
  ∀ c ∈ cs, isDigit c = true

/-- A sign and digits, and the integer that they spell. -/
inductive SignedDigits : List Char → Int → Prop
  | intro {sign digits : List Char} {negative : Bool} (hsign : Sign sign negative)
      (hsome : digits ≠ []) (hdigits : AllDigits digits) :
      SignedDigits (sign ++ digits)
        (if negative then -(digitsValue 0 digits : Int) else digitsValue 0 digits)

/-- No sign stands in front of the text. -/
def NoSign (cs : List Char) : Prop :=
  ∀ c ∈ cs.head?, c ≠ '-' ∧ c ≠ '+'

/-- What is cut off as a sign is one. -/
theorem sign_splitSign (cs : List Char) :
    ∃ sign, Sign sign (splitSign cs).1 ∧ cs = sign ++ (splitSign cs).2 := by
  unfold splitSign
  split
  · exact ⟨['-'], .minus, rfl⟩
  · exact ⟨['+'], .plus, rfl⟩
  · exact ⟨[], .none, rfl⟩

theorem splitSign_of_noSign {cs : List Char} (h : NoSign cs) : splitSign cs = (false, cs) := by
  unfold splitSign
  split
  · exact absurd rfl (h '-' rfl).1
  · exact absurd rfl (h '+' rfl).2
  · rfl

theorem splitSign_append {sign cs : List Char} {negative : Bool} (hsign : Sign sign negative)
    (hcs : NoSign cs) : splitSign (sign ++ cs) = (negative, cs) := by
  cases hsign with
  | none => exact splitSign_of_noSign hcs
  | plus => rfl
  | minus => rfl

theorem noSign_of_isDigit {c : Char} (h : isDigit c = true) (rest : List Char) :
    NoSign (c :: rest) := by
  intro d hd
  cases hd
  constructor <;> rintro rfl <;> exact absurd h (by decide)

theorem AllDigits.noSign {cs : List Char} (h : AllDigits cs) : NoSign cs := by
  cases cs with
  | nil => intro c hc; contradiction
  | cons c rest => exact noSign_of_isDigit (h c (by simp)) rest

/-- Exponents are signed digits, of any size. -/
theorem exponent?_eq_some_iff {cs : List Char} {n : Int} :
    exponent? cs = some n ↔ SignedDigits cs n := by
  constructor
  · intro h
    obtain ⟨sign, hsign, hcs⟩ := sign_splitSign cs
    unfold exponent? at h
    simp only at h
    split at h
    · contradiction
    · rename_i hdigits
      simp only [Bool.or_eq_true, Bool.not_eq_true', not_or, Bool.not_eq_true, Bool.not_eq_false,
        List.isEmpty_eq_false_iff, List.all_eq_true] at hdigits
      have hspelled := SignedDigits.intro hsign hdigits.1 hdigits.2
      rw [← hcs, Option.some.inj h] at hspelled
      exact hspelled
  · rintro ⟨hsign, hsome, hdigits⟩
    rename_i sign digits negative
    have hall : digits.all isDigit = true := List.all_eq_true.mpr hdigits
    simp [exponent?, splitSign_append hsign hdigits.noSign, hsome, hall]

/-! ### Whole-number literals -/

/-- A whole-number literal and its value. -/
structure WholeLiteral (cs : List Char) (n : Int) : Prop where
  spelled : SignedDigits cs n
  le : minInt ≤ n
  ge : n ≤ maxInt

theorem wholeChars?_eq_bind (cs : List Char) : wholeChars? cs = (exponent? cs).bind inRange? := by
  unfold wholeChars? exponent?
  simp only
  split <;> rfl

/-- **Exactly the whole-number literals are read**, each as its value. -/
theorem wholeChars?_eq_some_iff {cs : List Char} {n : Int} :
    wholeChars? cs = some n ↔ WholeLiteral cs n := by
  rw [wholeChars?_eq_bind, Option.bind_eq_some_iff]
  constructor
  · rintro ⟨m, hm, hrange⟩
    unfold inRange? at hrange
    split at hrange
    · rename_i hfits
      cases hrange
      exact ⟨exponent?_eq_some_iff.mp hm, hfits.1, hfits.2⟩
    · contradiction
  · intro h
    exact ⟨n, exponent?_eq_some_iff.mpr h.spelled, if_pos ⟨h.le, h.ge⟩⟩

/-! ### Real literals -/

/-- Digits with a point among them or around them, or without one. -/
inductive Mantissa : List Char → Prop
  | whole {digits : List Char} (hsome : digits ≠ []) (hdigits : AllDigits digits) :
      Mantissa digits
  | pointed {before after : List Char} (hsome : before ≠ [] ∨ after ≠ [])
      (hbefore : AllDigits before) (hafter : AllDigits after) : Mantissa (before ++ '.' :: after)

/-- A letter and signed digits behind a number, or nothing. -/
inductive Exponent : List Char → Prop
  | none : Exponent []
  | some {letter : Char} {cs : List Char} {n : Int} (hletter : letter = 'e' ∨ letter = 'E')
      (hcs : SignedDigits cs n) : Exponent (letter :: cs)

/-- A decimal literal. -/
inductive DecimalLiteral : List Char → Prop
  | intro {sign mantissa exponent : List Char} {negative : Bool} (hsign : Sign sign negative)
      (hmantissa : Mantissa mantissa) (hexponent : Exponent exponent) :
      DecimalLiteral (sign ++ (mantissa ++ exponent))

/-- A real literal: a decimal one, or a sign and a word for infinity. -/
inductive RealLiteral : List Char → Prop
  | decimal {cs : List Char} (h : DecimalLiteral cs) : RealLiteral cs
  | infinite {sign word : List Char} {negative : Bool} (hsign : Sign sign negative)
      (hword : word.map Text.foldChar = "inf".toList ∨
        word.map Text.foldChar = "infinity".toList) : RealLiteral (sign ++ word)

/-- A whole-number literal is a real literal. -/
theorem WholeLiteral.realLiteral {cs : List Char} {n : Int} (h : WholeLiteral cs n) :
    RealLiteral cs := by
  obtain ⟨⟨hsign, hsome, hdigits⟩, -, -⟩ := h
  have hdecimal := DecimalLiteral.intro hsign (.whole hsome hdigits) .none
  rw [List.append_nil] at hdecimal
  exact .decimal hdecimal

/-- If there is a digit in front of the point or behind it, what is cut off is a mantissa. -/
theorem mantissa_splitPoint {cs : List Char}
    (hsome : (splitPoint cs).1 ≠ [] ∨ (splitPoint cs).2.1 ≠ []) :
    ∃ mantissa, Mantissa mantissa ∧ cs = mantissa ++ (splitPoint cs).2.2 := by
  have hbefore : AllDigits (cs.takeWhile isDigit) := fun c hc => List.mem_takeWhile_imp hc
  have hcut : cs.takeWhile isDigit ++ cs.dropWhile isDigit = cs := List.takeWhile_append_dropWhile
  unfold splitPoint at hsome ⊢
  simp only at hsome ⊢
  split at hsome
  · rename_i rest hrest
    have hafter : AllDigits (rest.takeWhile isDigit) := fun c hc => List.mem_takeWhile_imp hc
    refine ⟨_, .pointed hsome hbefore hafter, ?_⟩
    rw [List.append_assoc, List.cons_append, List.takeWhile_append_dropWhile, ← hrest, hcut]
  · have hdigits : cs.takeWhile isDigit ≠ [] := by simpa using hsome
    exact ⟨_, .whole hdigits hbefore, hcut.symm⟩

/-- A digit or a point would still belong to the number in front of it. -/
def EndsNumber (cs : List Char) : Prop :=
  ∀ c ∈ cs.head?, isDigit c = false ∧ c ≠ '.'

theorem Exponent.endsNumber {cs : List Char} (h : Exponent cs) : EndsNumber cs := by
  cases h with
  | none => intro c hc; contradiction
  | some hletter hcs =>
      intro c hc
      cases hc
      rcases hletter with rfl | rfl <;> decide

theorem EndsNumber.takeWhile_append {cs digits : List Char} (h : EndsNumber cs)
    (hdigits : AllDigits digits) :
    (digits ++ cs).takeWhile isDigit = digits ∧ (digits ++ cs).dropWhile isDigit = cs := by
  rw [List.takeWhile_append_of_pos hdigits, List.dropWhile_append_of_pos hdigits]
  cases cs with
  | nil => simp
  | cons c rest => simp [(h c rfl).1]

theorem splitPoint_whole {cs digits : List Char} (hdigits : AllDigits digits)
    (h : EndsNumber cs) : splitPoint (digits ++ cs) = (digits, [], cs) := by
  obtain ⟨htaken, hleft⟩ := h.takeWhile_append hdigits
  unfold splitPoint
  simp only [htaken, hleft]
  split
  · exact absurd rfl (h '.' rfl).2
  · rfl

theorem splitPoint_pointed {cs before after : List Char} (hbefore : AllDigits before)
    (hafter : AllDigits after) (h : EndsNumber cs) :
    splitPoint (before ++ '.' :: (after ++ cs)) = (before, after, cs) := by
  obtain ⟨htaken, hleft⟩ := h.takeWhile_append hafter
  have hpoint : isDigit '.' = false := by decide
  unfold splitPoint
  rw [List.takeWhile_append_of_pos hbefore, List.dropWhile_append_of_pos hbefore]
  simp [hpoint, htaken, hleft]

/-- A mantissa is cut into its digits, of which there are some. -/
theorem Mantissa.splitPoint {mantissa exponent : List Char} (h : Mantissa mantissa)
    (hexponent : Exponent exponent) :
    ∃ before after, (before ≠ [] ∨ after ≠ []) ∧
      Number.splitPoint (mantissa ++ exponent) = (before, after, exponent) := by
  cases h with
  | whole hsome hdigits =>
      exact ⟨mantissa, [], .inl hsome, splitPoint_whole hdigits hexponent.endsNumber⟩
  | @pointed before after hsome hbefore hafter =>
      refine ⟨before, after, hsome, ?_⟩
      rw [List.append_assoc, List.cons_append]
      exact splitPoint_pointed hbefore hafter hexponent.endsNumber

/-- A mantissa begins with a digit or a point. -/
theorem Mantissa.begins {mantissa : List Char} (h : Mantissa mantissa) :
    ∃ c rest, mantissa = c :: rest ∧ (isDigit c = true ∨ c = '.') := by
  cases h with
  | whole hsome hdigits =>
      obtain ⟨c, rest, rfl⟩ := List.exists_cons_of_ne_nil hsome
      exact ⟨c, rest, rfl, .inl (hdigits c (by simp))⟩
  | @pointed before after hsome hbefore hafter =>
      cases before with
      | nil => exact ⟨'.', after, rfl, .inr rfl⟩
      | cons c rest => exact ⟨c, rest ++ '.' :: after, rfl, .inl (hbefore c (by simp))⟩

theorem Mantissa.noSign {mantissa : List Char} (h : Mantissa mantissa) (rest : List Char) :
    NoSign (mantissa ++ rest) := by
  obtain ⟨c, others, rfl, hdigit | rfl⟩ := h.begins
  · exact noSign_of_isDigit hdigit (others ++ rest)
  · intro d hd
    cases hd
    decide

/-- **Exactly the decimal literals are read as decimals.** -/
theorem exists_decimal_iff {cs : List Char} :
    (∃ d, decimalChars? cs = some d) ↔ DecimalLiteral cs := by
  constructor
  · rintro ⟨d, hd⟩
    obtain ⟨sign, hsign, hcs⟩ := sign_splitSign cs
    unfold decimalChars? at hd
    simp only [Bool.and_eq_true, List.isEmpty_iff] at hd
    by_cases hnone : (splitPoint (splitSign cs).2).1 = [] ∧ (splitPoint (splitSign cs).2).2.1 = []
    · rw [if_pos hnone] at hd
      contradiction
    · rw [if_neg hnone] at hd
      obtain ⟨mantissa, hmantissa, hcut⟩ := mantissa_splitPoint (Decidable.not_and_iff_or_not.mp hnone)
      rw [hcs, hcut]
      refine .intro hsign hmantissa ?_
      split at hd
      · rename_i hrest
        rw [hrest]
        exact .none
      · rename_i letter rest hrest
        rw [hrest]
        by_cases hletter : letter = 'e' ∨ letter = 'E'
        · rw [if_pos (by simpa using hletter)] at hd
          obtain ⟨n, hn, -⟩ := Option.map_eq_some_iff.mp hd
          exact .some hletter (exponent?_eq_some_iff.mp hn)
        · rw [if_neg (by simpa using hletter)] at hd
          contradiction
  · rintro ⟨hsign, hmantissa, hexponent⟩
    rename_i sign mantissa exponent negative
    obtain ⟨before, after, hsome, hcut⟩ := hmantissa.splitPoint hexponent
    have hdigits : ¬(before = [] ∧ after = []) := by
      rintro ⟨hbefore, hafter⟩
      rcases hsome with hsome | hsome <;> contradiction
    unfold decimalChars?
    simp only [splitSign_append hsign (hmantissa.noSign exponent), hcut, Bool.and_eq_true,
      List.isEmpty_iff, if_neg hdigits]
    cases hexponent with
    | none => exact ⟨_, rfl⟩
    | @some letter cs n hletter hcs =>
        have hread := exponent?_eq_some_iff.mpr hcs
        rcases hletter with rfl | rfl <;> simp [hread]

theorem foldChar_of_isDigit {c : Char} (h : isDigit c = true) : Text.foldChar c = c := by
  unfold isDigit at h
  unfold Text.foldChar
  rw [if_neg]
  intro hcapital
  simp only [Bool.and_eq_true, decide_eq_true_eq] at h
  exact absurd (Char.le_trans hcapital.1 h.2) (by decide)

/-- A decimal is no spelling of "not a number". -/
theorem Mantissa.fold_ne_nan {mantissa : List Char} (h : Mantissa mantissa) (rest : List Char) :
    (mantissa ++ rest).map Text.foldChar ≠ "nan".toList := by
  obtain ⟨c, others, rfl, hfirst⟩ := h.begins
  intro hnan
  have hletter : Text.foldChar c = 'n' := (List.cons.inj hnan).1
  rcases hfirst with hdigit | rfl
  · rw [foldChar_of_isDigit hdigit] at hletter
    rw [hletter] at hdigit
    exact absurd hdigit (by decide)
  · exact absurd hletter (by decide)

/-- A word for infinity begins with a letter. -/
theorem noSign_of_infinite {word : List Char}
    (h : word.map Text.foldChar = "inf".toList ∨ word.map Text.foldChar = "infinity".toList) :
    NoSign word := by
  intro c hc
  obtain ⟨rest, rfl⟩ := List.head?_eq_some_iff.mp hc
  have hletter : Text.foldChar c = 'i' := by
    rcases h with h | h <;> exact (List.cons.inj h).1
  constructor <;> rintro rfl <;> exact absurd hletter (by decide)

/-- **Exactly the real literals are read as numbers.** -/
theorem exists_number_iff {s : String} :
    (∃ x, real? s = some (.number x)) ↔ RealLiteral s.toList := by
  unfold real?
  simp only [Bool.or_eq_true, beq_iff_eq, ← String.toList_inj, String.toList_ofList]
  constructor
  · rintro ⟨x, hx⟩
    by_cases hinfinite : (splitSign s.toList).2.map Text.foldChar = "inf".toList ∨
        (splitSign s.toList).2.map Text.foldChar = "infinity".toList
    · obtain ⟨sign, hsign, hcs⟩ := sign_splitSign s.toList
      rw [hcs]
      exact .infinite hsign hinfinite
    · rw [if_neg hinfinite] at hx
      split at hx
      · cases hx
      · obtain ⟨d, hd, -⟩ := Option.map_eq_some_iff.mp hx
        exact .decimal (exists_decimal_iff.mp ⟨d, hd⟩)
  · intro h
    generalize s.toList = cs at h ⊢
    cases h with
    | decimal hdecimal =>
        obtain ⟨d, hd⟩ := exists_decimal_iff.mpr hdecimal
        obtain ⟨hsign, hmantissa, hexponent⟩ := hdecimal
        rw [splitSign_append hsign (hmantissa.noSign _), hd]
        split
        · exact ⟨_, rfl⟩
        · rw [if_neg (hmantissa.fold_ne_nan _)]
          exact ⟨_, rfl⟩
    | infinite hsign hword =>
        rw [splitSign_append hsign (noSign_of_infinite hword), if_pos hword]
        exact ⟨_, rfl⟩

/-! ### Cells -/

/-- A cell is read as a whole number exactly if it is a whole-number literal between its blanks. -/
theorem parseWhole_eq_some_iff {s : String} {n : Int} :
    parseWhole s = some n ↔ WholeLiteral (Text.trim s).toList n :=
  wholeChars?_eq_some_iff

/-- A cell is read as a number exactly if it is a real literal between its blanks. -/
theorem exists_parseReal_iff {s : String} :
    (∃ x, parseReal s = some x) ↔ RealLiteral (Text.trim s).toList := by
  rw [← exists_number_iff]
  unfold parseReal
  cases h : real? (Text.trim s) with
  | none => simp
  | some real => cases real <;> simp

/-- What a cell is read as is a number indeed. -/
theorem isNaN_of_parseReal {s : String} {x : Binary64} (h : parseReal s = some x) :
    x.isNaN = false := by
  have hread : real? (Text.trim s) = some (.number x) := by
    unfold parseReal at h
    split at h
    · rename_i y hy
      cases h
      exact hy
    · contradiction
  unfold real? at hread
  simp only at hread
  split at hread
  · rw [← Real.number.inj (Option.some.inj hread)]
    exact Binary64.isNaN_ofParts _ (Nat.le_refl _)
  · split at hread
    · cases hread
    · obtain ⟨d, -, heq⟩ := Option.map_eq_some_iff.mp hread
      rw [← Real.number.inj heq]
      exact Binary64.isNaN_ofDecimal d.negative d.digits d.exponent

/-- A cell that is read as a whole number is read as a number, too. -/
theorem parseReal_of_parseWhole {s : String} {n : Int} (h : parseWhole s = some n) :
    ∃ x, parseReal s = some x :=
  exists_parseReal_iff.mpr (parseWhole_eq_some_iff.mp h).realLiteral

end DatasetSync.Number
