/-
A text is read back from its bytes.

A character is written in one to four bytes: the first says how many there are and
holds the high bits, each of the others holds six more.  The bounds that reading puts
on the second byte keep out what no character is written as, so they never stand in
the way of what was written.  What follows a character does not matter, and so the
bytes of a text are read back one character after the other.
-/
import DatasetSync.Text.Utf8

namespace DatasetSync.Text.Utf8

/-! ### Single bytes -/

theorem toNat_toUInt8 {n : Nat} (h : n < 256) : n.toUInt8.toNat = n := by
  simp [Nat.mod_eq_of_lt h]

/-- A byte behind the first one of a character, with its six bits. -/
structure Carries (b : UInt8) (n : Nat) : Prop where
  toNat : b.toNat = 0x80 + n
  lt : n < 64

theorem carries_toUInt8 {n : Nat} (h : n < 64) : Carries (0x80 + n).toUInt8 n :=
  ⟨toNat_toUInt8 (Nat.lt_trans (Nat.add_lt_add_left h 0x80) (by decide)), h⟩

theorem Carries.isContinuation {b : UInt8} {n : Nat} (h : Carries b n) :
    isContinuation b = true := by
  have hlt := h.lt
  simp only [Utf8.isContinuation, UInt8.le_iff_toNat_le, h.toNat, Bool.and_eq_true,
    decide_eq_true_eq]
  constructor
  · exact Nat.le_add_right _ _
  · show 0x80 + n ≤ 0xBF
    omega

theorem Carries.low {b : UInt8} {n : Nat} (h : Carries b n) : low b = n := by
  have hsum := h.toNat
  show b.toNat - 0x80 = n
  omega

/-! ### Single characters

The first byte decides which case of the reader applies.  In three and in four bytes the second
one has bounds of its own under some first bytes.
-/

section Characters

variable {a b c d : UInt8} {lead i j k : Nat}

theorem decodeChar?_one (ha : a.toNat < 0x80) (rest : List UInt8) :
    decodeChar? (a :: rest) = some (Char.ofNat a.toNat, 1, rest) := by
  have hone : a < 0x80 := UInt8.lt_iff_toNat_lt.mpr ha
  simp [decodeChar?, hone]

theorem decodeChar?_two (ha : a.toNat = 0xC0 + lead) (hlow : 2 ≤ lead) (hhigh : lead < 32)
    (hb : Carries b i) (rest : List UInt8) :
    decodeChar? (a :: b :: rest) = some (Char.ofNat (lead * 64 + i), 2, rest) := by
  have hone : ¬a < 0x80 := by
    simp [UInt8.lt_iff_toNat_lt, ha]
    omega
  have htwo : 0xC2 ≤ a ∧ a ≤ 0xDF := by
    simp [UInt8.le_iff_toNat_le, ha]
    omega
  simp [decodeChar?, hone, htwo, hb.isContinuation, hb.low, ha]

theorem decodeChar?_three (ha : a.toNat = 0xE0 + lead) (hhigh : lead < 16) (hb : Carries b i)
    (hc : Carries c j) (hshort : lead = 0 → 32 ≤ i) (hsurrogate : lead = 13 → i < 32)
    (rest : List UInt8) :
    decodeChar? (a :: b :: c :: rest) =
      some (Char.ofNat (lead * 4096 + i * 64 + j), 3, rest) := by
  have hone : ¬a < 0x80 := by
    simp [UInt8.lt_iff_toNat_lt, ha]
    omega
  have htwo : ¬(0xC2 ≤ a ∧ a ≤ 0xDF) := by
    simp [UInt8.le_iff_toNat_le, ha]
    omega
  have hthree : 0xE0 ≤ a ∧ a ≤ 0xEF := by
    simp [UInt8.le_iff_toNat_le, ha]
    omega
  have hsecond : (a = 0xE0 → 0xA0 ≤ b) ∧ (a = 0xED → b ≤ 0x9F) := by
    simp [UInt8.le_iff_toNat_le, ← UInt8.toNat_inj, ha, hb.toNat]
    omega
  simp [decodeChar?, hone, htwo, hthree, hb.isContinuation, hc.isContinuation, hb.low, hc.low, ha,
    bne, Decidable.not_or_of_imp hsecond.1, Decidable.not_or_of_imp hsecond.2]

theorem decodeChar?_four (ha : a.toNat = 0xF0 + lead) (hhigh : lead < 5) (hb : Carries b i)
    (hc : Carries c j) (hd : Carries d k) (hshort : lead = 0 → 16 ≤ i)
    (hbeyond : lead = 4 → i < 16) (rest : List UInt8) :
    decodeChar? (a :: b :: c :: d :: rest) =
      some (Char.ofNat (lead * 262144 + i * 4096 + j * 64 + k), 4, rest) := by
  have hone : ¬a < 0x80 := by
    simp [UInt8.lt_iff_toNat_lt, ha]
    omega
  have htwo : ¬(0xC2 ≤ a ∧ a ≤ 0xDF) := by
    simp [UInt8.le_iff_toNat_le, ha]
    omega
  have hthree : ¬(0xE0 ≤ a ∧ a ≤ 0xEF) := by
    simp [UInt8.le_iff_toNat_le, ha]
    omega
  have hfour : 0xF0 ≤ a ∧ a ≤ 0xF4 := by
    simp [UInt8.le_iff_toNat_le, ha]
    omega
  have hsecond : (a = 0xF0 → 0x90 ≤ b) ∧ (a = 0xF4 → b ≤ 0x8F) := by
    simp [UInt8.le_iff_toNat_le, ← UInt8.toNat_inj, ha, hb.toNat]
    omega
  simp [decodeChar?, hone, htwo, hthree, hfour, hb.isContinuation, hc.isContinuation,
    hd.isContinuation, hb.low, hc.low, hd.low, ha, bne, Decidable.not_or_of_imp hsecond.1,
    Decidable.not_or_of_imp hsecond.2]

end Characters

/-- A character is read back, whatever follows it. -/
theorem decodeChar?_encodeChar (c : Char) (rest : List UInt8) :
    decodeChar? (encodeChar c ++ rest) = some (c, charSize c, rest) := by
  have hvalid : c.toNat < 0xD800 ∨ 0xDFFF < c.toNat ∧ c.toNat < 0x110000 := c.valid
  have hback : Char.ofNat c.toNat = c := Char.ofNat_toNat c
  unfold charSize encodeChar
  dsimp only
  split
  · rename_i hone
    have ha : c.toNat.toUInt8.toNat = c.toNat := toNat_toUInt8 (by omega)
    rw [List.singleton_append, decodeChar?_one (by rw [ha]; exact hone), ha, hback]
    rfl
  · split
    · rename_i htwo
      have ha := toNat_toUInt8 (show 0xC0 + c.toNat / 64 < 256 by omega)
      have hb := carries_toUInt8 (show c.toNat % 64 < 64 by omega)
      have hsum : c.toNat / 64 * 64 + c.toNat % 64 = c.toNat := by omega
      rw [List.cons_append, List.singleton_append,
        decodeChar?_two ha (by omega) (by omega) hb, hsum, hback]
      rfl
    · split
      · have ha := toNat_toUInt8 (show 0xE0 + c.toNat / 4096 < 256 by omega)
        have hb := carries_toUInt8 (show c.toNat / 64 % 64 < 64 by omega)
        have hc := carries_toUInt8 (show c.toNat % 64 < 64 by omega)
        have hsum : c.toNat / 4096 * 4096 + c.toNat / 64 % 64 * 64 + c.toNat % 64 = c.toNat := by
          omega
        rw [List.cons_append, List.cons_append, List.singleton_append,
          decodeChar?_three ha (by omega) hb hc (by omega) (by omega), hsum, hback]
        rfl
      · have ha := toNat_toUInt8 (show 0xF0 + c.toNat / 262144 < 256 by omega)
        have hb := carries_toUInt8 (show c.toNat / 4096 % 64 < 64 by omega)
        have hc := carries_toUInt8 (show c.toNat / 64 % 64 < 64 by omega)
        have hd := carries_toUInt8 (show c.toNat % 64 < 64 by omega)
        have hsum : c.toNat / 262144 * 262144 + c.toNat / 4096 % 64 * 4096 +
            c.toNat / 64 % 64 * 64 + c.toNat % 64 = c.toNat := by omega
        rw [List.cons_append, List.cons_append, List.cons_append, List.singleton_append,
          decodeChar?_four ha (by omega) hb hc hd (by omega) (by omega), hsum, hback]
        rfl

/-! ### Texts -/

/-- Reading goes on behind the characters that were written first. -/
theorem decodeFrom_encodeChars (cs done : List Char) (size : Nat) :
    decodeFrom done size (encodeChars cs) = .ok (done.reverse ++ cs) := by
  induction cs generalizing done size with
  | nil => simp [encodeChars, decodeFrom, decodeChar?]
  | cons c rest ih =>
      have hread := decodeChar?_encodeChar c (encodeChars rest)
      rw [encodeChars, List.flatMap_cons, ← encodeChars, decodeFrom]
      split
      · rename_i heq
        rw [hread] at heq
        cases heq
        rw [ih]
        simp
      · rename_i heq
        rw [hread] at heq
        contradiction

theorem encode_append (s t : String) : encode (s ++ t) = encode s ++ encode t := by
  simp [encode, encodeChars, List.flatMap_append]

theorem length_encodeChars_replicate (n : Nat) (c : Char) :
    (encodeChars (List.replicate n c)).length = n * charSize c := by
  rw [encodeChars, List.length_flatMap, List.map_replicate, List.sum_replicate_nat, charSize]

/-- **A text is read back from its bytes.** -/
theorem decode_encode (s : String) : decode (encode s) = .ok s := by
  rw [decode, decodeChars, encode, decodeFrom_encodeChars]
  simp [Except.map]

end DatasetSync.Text.Utf8
