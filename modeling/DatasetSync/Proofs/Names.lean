/-
Names as the database compares them.

Being the same identifier is an equivalence: it is equality of the names in lower
case.  So a lookup does not depend on how the name is spelled, which is what the
lookups of `Proofs/Database/Tables.lean` use.  What may be called a table is
spelled with letters, digits and underscores, so it holds no NUL and is none of
the names the database keeps for itself.
-/
import DatasetSync.Source.Basic

namespace DatasetSync

namespace Text

/-! ### The same identifier -/

theorem sameName_iff {a b : String} : sameName a b = true ↔ fold a = fold b := by
  simp [sameName]

@[simp] theorem sameName_self (a : String) : sameName a a = true :=
  sameName_iff.mpr rfl

theorem sameName_comm (a b : String) : sameName a b = sameName b a := by
  unfold sameName
  exact Bool.beq_comm

/-- Two spellings of one identifier compare alike with every name. -/
theorem sameName_congr {a b : String} (h : sameName a b = true) (c : String) :
    sameName a c = sameName b c := by
  unfold sameName
  rw [sameName_iff.mp h]

theorem sameName_congr_right {a b : String} (h : sameName a b = true) (c : String) :
    sameName c a = sameName c b := by
  rw [sameName_comm c a, sameName_comm c b, sameName_congr h]

/-! ### Names that are all different identifiers -/

/-- No two of the names are the same identifier. -/
def DistinctNames (names : List String) : Prop :=
  names.Pairwise fun a b => sameName a b = false

instance (names : List String) : Decidable (DistinctNames names) :=
  inferInstanceAs (Decidable (names.Pairwise fun a b => sameName a b = false))

theorem distinctNames_cons {a : String} {names : List String} :
    DistinctNames (a :: names) ↔ (∀ b ∈ names, sameName a b = false) ∧ DistinctNames names :=
  List.pairwise_cons

/-- Names are all different identifiers exactly if none comes twice and none has two spellings. -/
theorem distinctNames_iff {names : List String} :
    DistinctNames names ↔
      names.Nodup ∧ ∀ a ∈ names, ∀ b ∈ names, sameName a b = true → a = b := by
  induction names with
  | nil => simp [DistinctNames]
  | cons name rest ih =>
      rw [distinctNames_cons, List.nodup_cons, ih]
      constructor
      · rintro ⟨hfirst, hnodup, halike⟩
        have hnew : name ∉ rest := by
          intro hmem
          have := hfirst name hmem
          rw [sameName_self] at this
          contradiction
        refine ⟨⟨hnew, hnodup⟩, ?_⟩
        intro a ha b hb hsame
        rcases List.mem_cons.mp ha with rfl | ha'
        · rcases List.mem_cons.mp hb with rfl | hb'
          · rfl
          · rw [hfirst b hb'] at hsame
            contradiction
        · rcases List.mem_cons.mp hb with rfl | hb'
          · rw [sameName_comm, hfirst a ha'] at hsame
            contradiction
          · exact halike a ha' b hb' hsame
      · rintro ⟨⟨hnew, hnodup⟩, halike⟩
        refine ⟨?_, hnodup, fun a ha b hb => halike a (by simp [ha]) b (by simp [hb])⟩
        intro b hb
        rw [Bool.eq_false_iff]
        intro hsame
        rw [halike name (by simp) b (by simp [hb]) hsame] at hnew
        exact hnew hb

theorem distinctNames_perm {names names' : List String} (h : names.Perm names') :
    DistinctNames names ↔ DistinctNames names' := by
  simp only [distinctNames_iff, h.nodup_iff, h.mem_iff]

end Text

/-! ### Names of tables -/

/-- No character of a table's name is a NUL. -/
theorem nul_not_isNamePart : isNamePart '\x00' = false := by
  decide

theorem isNamePart_of_isNameStart {c : Char} (h : isNameStart c = true) : isNamePart c = true := by
  simp [isNamePart, h]

/-- The characters of a name come no earlier than the digits, the first one later. -/
theorem le_toNat_of_isNamePart {c : Char} (h : isNamePart c = true) : 48 ≤ c.toNat := by
  simp only [isNamePart, isNameStart, Bool.or_eq_true, Bool.and_eq_true, decide_eq_true_eq,
    beq_iff_eq, Char.le_def] at h
  rcases h with ((⟨hlow, -⟩ | ⟨hlow, -⟩) | rfl) | ⟨hlow, -⟩
  · exact Nat.le_trans (by decide) (UInt32.le_iff_toNat_le.mp hlow)
  · exact Nat.le_trans (by decide) (UInt32.le_iff_toNat_le.mp hlow)
  · decide
  · exact UInt32.le_iff_toNat_le.mp hlow

theorem lt_toNat_of_isNameStart {c : Char} (h : isNameStart c = true) : 57 < c.toNat := by
  simp only [isNameStart, Bool.or_eq_true, Bool.and_eq_true, decide_eq_true_eq, beq_iff_eq,
    Char.le_def] at h
  rcases h with (⟨hlow, -⟩ | ⟨hlow, -⟩) | rfl
  · exact Nat.lt_of_lt_of_le (by decide) (UInt32.le_iff_toNat_le.mp hlow)
  · exact Nat.lt_of_lt_of_le (by decide) (UInt32.le_iff_toNat_le.mp hlow)
  · decide

/-- A name that can be that of a table begins with a letter or an underscore and goes on with
letters, digits and underscores. -/
theorem toList_of_isTableName {name : String} (h : isTableName name = true) :
    ∃ c rest, name.toList = c :: rest ∧ isNameStart c = true ∧
      ∀ x ∈ name.toList, isNamePart x = true := by
  unfold isTableName at h
  split at h
  · contradiction
  · rename_i c rest heq
    simp only [Bool.and_eq_true, List.all_eq_true] at h
    obtain ⟨⟨hstart, hrest⟩, -⟩ := h
    refine ⟨c, rest, heq, hstart, ?_⟩
    intro x hx
    rw [heq] at hx
    rcases List.mem_cons.mp hx with rfl | hx
    · exact isNamePart_of_isNameStart hstart
    · exact hrest x hx

theorem nul_not_mem_of_isTableName {name : String} (h : isTableName name = true) :
    '\x00' ∉ name.toList := by
  obtain ⟨_, _, -, -, hparts⟩ := toList_of_isTableName h
  intro hnul
  exact absurd (hparts _ hnul) (by rw [nul_not_isNamePart]; simp)

theorem not_isInternalName_of_isTableName {name : String} (h : isTableName name = true) :
    isInternalName name = false := by
  unfold isTableName at h
  split at h
  · contradiction
  · simp only [Bool.and_eq_true, Bool.not_eq_true'] at h
    exact h.2

/-! ### Other spellings of a table's name -/

theorem toNat_foldChar (c : Char) :
    (Text.foldChar c).toNat = if 65 ≤ c.toNat ∧ c.toNat ≤ 90 then c.toNat + 32 else c.toNat := by
  have hcapital : ('A' ≤ c ∧ c ≤ 'Z') ↔ 65 ≤ c.toNat ∧ c.toNat ≤ 90 := by
    simp only [Char.le_def, UInt32.le_iff_toNat_le]
    rfl
  unfold Text.foldChar
  simp only [hcapital]
  split
  · have hvalid : (c.toNat + 32).isValidChar := Or.inl (by omega)
    rw [Char.ofNat, dif_pos hvalid]
    rfl
  · rfl

theorem isNameStart_iff {c : Char} :
    isNameStart c = true ↔
      97 ≤ c.toNat ∧ c.toNat ≤ 122 ∨ 65 ≤ c.toNat ∧ c.toNat ≤ 90 ∨ c.toNat = 95 := by
  have hunderscore : c = '_' ↔ c.toNat = 95 := by
    rw [← Char.toNat_inj]
    rfl
  simp only [isNameStart, Bool.or_eq_true, Bool.and_eq_true, decide_eq_true_eq, beq_iff_eq,
    hunderscore, Char.le_def, UInt32.le_iff_toNat_le, or_assoc]
  rfl

theorem isNamePart_iff {c : Char} :
    isNamePart c = true ↔ isNameStart c = true ∨ 48 ≤ c.toNat ∧ c.toNat ≤ 57 := by
  simp only [isNamePart, Bool.or_eq_true, Bool.and_eq_true, decide_eq_true_eq, Char.le_def,
    UInt32.le_iff_toNat_le]
  rfl

theorem isNameStart_foldChar (c : Char) : isNameStart (Text.foldChar c) = isNameStart c := by
  rw [Bool.eq_iff_iff, isNameStart_iff, isNameStart_iff, toNat_foldChar]
  split <;> omega

theorem isNamePart_foldChar (c : Char) : isNamePart (Text.foldChar c) = isNamePart c := by
  rw [Bool.eq_iff_iff, isNamePart_iff, isNamePart_iff, isNameStart_foldChar, toNat_foldChar]
  rw [isNameStart_iff]
  split <;> omega

/-- Whether a name can be that of a table is seen in lower case. -/
theorem isTableName_fold (name : String) : isTableName (Text.fold name) = isTableName name := by
  have hinternal : isInternalName (Text.fold name) = isInternalName name := by
    have htwice : ∀ c, Text.foldChar (Text.foldChar c) = Text.foldChar c := by
      intro c
      rw [← Char.toNat_inj, toNat_foldChar, toNat_foldChar, if_neg (by split <;> omega)]
    have hfold : Text.fold (Text.fold name) = Text.fold name := by
      simp [Text.fold, Function.comp_def, htwice]
    rw [isInternalName, isInternalName, hfold]
  have hall : ∀ cs : List Char, (cs.map Text.foldChar).all isNamePart = cs.all isNamePart := by
    intro cs
    rw [List.all_map]
    exact congrArg (cs.all ·) (funext isNamePart_foldChar)
  unfold isTableName
  rw [hinternal, Text.fold, String.toList_ofList]
  cases name.toList with
  | nil => rfl
  | cons c rest => simp only [List.map_cons, isNameStart_foldChar, hall]

/-- Two spellings of one identifier can both be the name of a table, or neither can. -/
theorem isTableName_congr {a b : String} (h : Text.sameName a b = true) :
    isTableName a = isTableName b := by
  rw [← isTableName_fold a, Text.sameName_iff.mp h, isTableName_fold]

end DatasetSync
