/-
What the readers take from a layout.

A reader is put in front of its part of a layout, with any text behind that part, and
leaves exactly the text behind.  A text in quotes is taken as it was before its
characters were escaped, whatever characters those are; blanks in front of a part are
passed over.
-/
import DatasetSync.Proofs.Json.Layout
import DatasetSync.Proofs.Results

namespace DatasetSync.Json

variable {c : Char} {gap lead : List Char} {first : Bool}

/-! ### Blanks -/

theorem skipSpace_gap (h : IsGap gap) (rest : List Char) :
    skipSpace (gap ++ rest) = skipSpace rest := by
  unfold skipSpace
  exact List.dropWhile_append_of_pos h

theorem skipSpace_cons (h : isSpace c = false) (rest : List Char) :
    skipSpace (c :: rest) = c :: rest := by
  unfold skipSpace
  exact List.dropWhile_cons_of_neg (by simp [h])

theorem skipSpace_gap_cons (hgap : IsGap gap) (h : isSpace c = false) (rest : List Char) :
    skipSpace (gap ++ c :: rest) = c :: rest := by
  rw [skipSpace_gap hgap, skipSpace_cons h]

/-! ### Texts -/

/-- How a character stands inside quotes. -/
inductive Escaped (c : Char) : List Char → Prop
  | short {letter : Char} (h : shortEscape? letter = some c) (hletter : letter ≠ 'u') :
      Escaped c ['\\', letter]
  | unit (h : c.toNat < 0x20) :
      Escaped c ['\\', 'u', '0', '0', Nat.digitChar (c.toNat / 16), Nat.digitChar (c.toNat % 16)]
  | plain (hquote : c ≠ '"') (hbackslash : c ≠ '\\') (h : ¬c.toNat < 0x20) : Escaped c [c]

theorem escaped_escapedChar (c : Char) : Escaped c (escapedChar c) := by
  unfold escapedChar
  split
  -- A character that has no letter of its own.
  case h_8 hquote hbackslash _ _ _ _ _ =>
    by_cases h : c.toNat < 0x20
    · rw [if_pos h]
      exact .unit h
    · rw [if_neg h]
      exact .plain hquote hbackslash h
  all_goals exact .short (by decide) (by decide)

theorem Escaped.ne_nil {cs : List Char} (h : Escaped c cs) : cs ≠ [] := by
  cases h <;> exact List.cons_ne_nil _ _

/-- The two digits of a control character say its number. -/
theorem hexValue?_digitChar {n : Nat} (h : n < 16) : hexValue? (Nat.digitChar n) = some n := by
  decide +revert

theorem readHex_unit (h : c.toNat < 0x20) (rest : List Char) :
    readHex ('0' :: '0' :: Nat.digitChar (c.toNat / 16) :: Nat.digitChar (c.toNat % 16) :: rest) =
      .ok (c.toNat, rest) := by
  have hhigh := hexValue?_digitChar (show c.toNat / 16 < 16 by omega)
  have hlow := hexValue?_digitChar (show c.toNat % 16 < 16 by omega)
  have hzero : hexValue? '0' = some 0 := by decide
  simp only [readHex, hzero, hhigh, hlow]
  rw [show 0 * 4096 + 0 * 256 + c.toNat / 16 * 16 + c.toNat % 16 = c.toNat by omega]

/-- One step of the reader takes one character, however it is escaped. -/
theorem Escaped.readCharsFrom {cs : List Char} (h : Escaped c cs) (fuel : Nat)
    (done rest : List Char) :
    readCharsFrom (fuel + 1) done (cs ++ rest) = readCharsFrom fuel (c :: done) rest := by
  cases h with
  | @short letter h hletter =>
      have hread : readEscape (letter :: rest) = .ok (c, rest) := by
        rw [readEscape, if_neg hletter, h]
      simp [Json.readCharsFrom, hread]
  | unit h =>
      have hlow : isLowSurrogate c.toNat = false := by
        simp only [isLowSurrogate, Bool.and_eq_false_iff, decide_eq_false_iff_not]
        omega
      have hhigh : isHighSurrogate c.toNat = false := by
        simp only [isHighSurrogate, Bool.and_eq_false_iff, decide_eq_false_iff_not]
        omega
      have hread : readEscape ('u' :: '0' :: '0' :: Nat.digitChar (c.toNat / 16) ::
          Nat.digitChar (c.toNat % 16) :: rest) = .ok (c, rest) := by
        simp [readEscape, readHex_unit h, hlow, hhigh]
      simp [Json.readCharsFrom, hread]
  | plain hquote hbackslash h => simp [Json.readCharsFrom, hquote, hbackslash, h]

theorem readCharsFrom_flatMap {fuel : Nat} {cs : List Char} (h : cs.length < fuel)
    (done rest : List Char) :
    readCharsFrom fuel done (cs.flatMap escapedChar ++ '"' :: rest) =
      .ok (String.ofList (done.reverse ++ cs), rest) := by
  induction cs generalizing fuel done with
  | nil =>
      obtain ⟨left, rfl⟩ : ∃ left, fuel = left + 1 := ⟨fuel - 1, by omega⟩
      simp [readCharsFrom]
  | cons c cs ih =>
      obtain ⟨left, rfl⟩ : ∃ left, fuel = left + 1 := ⟨fuel - 1, by omega⟩
      rw [List.flatMap_cons, List.append_assoc, (escaped_escapedChar c).readCharsFrom,
        ih (Nat.lt_of_succ_lt_succ h)]
      simp

theorem length_le_flatMap_escapedChar (cs : List Char) :
    cs.length ≤ (cs.flatMap escapedChar).length := by
  induction cs with
  | nil => exact Nat.le_refl _
  | cons c cs ih =>
      have hpos := List.length_pos_iff.mpr (escaped_escapedChar c).ne_nil
      simp only [List.length_cons, List.flatMap_cons, List.length_append]
      omega

/-- **A text in quotes is read back**, whatever characters it has. -/
theorem readChars_flatMap (cs rest : List Char) :
    readChars (cs.flatMap escapedChar ++ '"' :: rest) = .ok (String.ofList cs, rest) := by
  have hlength := length_le_flatMap_escapedChar cs
  unfold readChars
  rw [readCharsFrom_flatMap _ [] rest]
  · simp
  · simp only [List.length_append]
    omega

theorem toList_writeString (s : String) (rest : List Char) :
    (writeString s).toList ++ rest = '"' :: (s.toList.flatMap escapedChar ++ '"' :: rest) := by
  simp [writeString]

theorem readText_writeString (hgap : IsGap gap) (s : String) (rest : List Char) :
    readText (gap ++ ((writeString s).toList ++ rest)) = .ok (s, rest) := by
  rw [toList_writeString, readText, skipSpace_gap_cons hgap (by decide)]
  simp [readChars_flatMap]

/-! ### What stands between the parts -/

/-- What stands in front of an item or a field: blanks, with a comma among them unless it is the
first. -/
inductive Lead : Bool → List Char → Prop
  | first {gap : List Char} (hgap : IsGap gap) : Lead true gap
  | next {before after : List Char} (hbefore : IsGap before) (hafter : IsGap after) :
      Lead false (before ++ ',' :: after)

theorem Lead.append (h : Lead first lead) (hgap : IsGap gap) : Lead first (lead ++ gap) := by
  cases h with
  | first hbefore => exact .first (hbefore.append hgap)
  | next hbefore hafter =>
      rw [List.append_assoc, List.cons_append]
      exact .next hbefore (hafter.append hgap)

theorem nextItem_lead (h : Lead first lead) (hspace : isSpace c = false) (hend : c ≠ ']')
    (hcomma : c ≠ ',') (rest : List Char) :
    nextItem first (lead ++ c :: rest) = .ok (true, c :: rest) := by
  cases h with
  | first hgap => simp [nextItem, skipSpace_gap_cons hgap hspace, hend, hcomma]
  | next hbefore hafter =>
      rw [List.append_assoc, List.cons_append]
      simp [nextItem, skipSpace_gap_cons hbefore (show isSpace ',' = false by decide),
        skipSpace_gap_cons hafter hspace, hend]

theorem nextItem_end (hgap : IsGap gap) (first : Bool) (rest : List Char) :
    nextItem first (gap ++ ']' :: rest) = .ok (false, ']' :: rest) := by
  simp [nextItem, skipSpace_gap_cons hgap (show isSpace ']' = false by decide)]

theorem nextKey_lead (h : Lead first lead) (key : String) (rest : List Char) :
    nextKey first (lead ++ ((writeString key).toList ++ rest)) = .ok (some key, rest) := by
  rw [toList_writeString]
  cases h with
  | first hgap =>
      simp [nextKey, skipSpace_gap_cons hgap (show isSpace '"' = false by decide),
        readChars_flatMap, Except.map]
  | next hbefore hafter =>
      rw [List.append_assoc, List.cons_append]
      simp [nextKey, skipSpace_gap_cons hbefore (show isSpace ',' = false by decide),
        skipSpace_gap_cons hafter (show isSpace '"' = false by decide), readChars_flatMap,
        Except.map]

theorem nextKey_end (hgap : IsGap gap) (first : Bool) (rest : List Char) :
    nextKey first (gap ++ '\x7d' :: rest) = .ok (none, '\x7d' :: rest) := by
  simp [nextKey, skipSpace_gap_cons hgap (show isSpace '\x7d' = false by decide)]

theorem readColon_gap (hgap : IsGap gap) (rest : List Char) :
    readColon (gap ++ ':' :: rest) = .ok rest := by
  simp [readColon, skipSpace_gap_cons hgap (show isSpace ':' = false by decide)]

theorem endList_bracket (rest : List Char) : endList (']' :: rest) = .ok rest := by
  simp [endList, skipSpace_cons (show isSpace ']' = false by decide)]

theorem endObject_brace (rest : List Char) : endObject ('\x7d' :: rest) = .ok rest := by
  simp [endObject, skipSpace_cons (show isSpace '\x7d' = false by decide)]

end DatasetSync.Json
