/-
How the characters of a text cling together.

Characters that only show together form one cluster: a letter with its marks,
the letters of a Hangul syllable or of an Indic conjunct, the two letters of a
flag, pictures tied by a joiner.  The rules are those of the Unicode standard for
extended grapheme clusters: a text is read from left to right, and what the open
cluster ends with decides whether the next character still belongs to it.
-/
import DatasetSync.Text.Ranges

namespace DatasetSync.Text

/-! ### Classes of characters -/

/-- Characters that stand between clusters and join nothing. -/
def separators : Ranges :=
  [(0x0, 0x1F), (0x7F, 0x9F), (0xAD, 0xAD), (0x61C, 0x61C), (0x180E, 0x180E), (0x200B, 0x200B),
    (0x200E, 0x200F), (0x2028, 0x202E), (0x2060, 0x206F), (0xFEFF, 0xFEFF), (0xFFF0, 0xFFFB),
    (0x13430, 0x1343F), (0x1BCA0, 0x1BCA3), (0x1D173, 0x1D17A), (0xE0000, 0xE001F),
    (0xE0080, 0xE00FF), (0xE01F0, 0xE0FFF)]

/-- Marks that follow their letter and take room of their own. -/
def spacingMarks : Ranges :=
  [(0x903, 0x903), (0x93B, 0x93B), (0x93E, 0x940), (0x949, 0x94C), (0x94E, 0x94F),
    (0x982, 0x983), (0x9BF, 0x9C0), (0x9C7, 0x9C8), (0x9CB, 0x9CC), (0xA03, 0xA03),
    (0xA3E, 0xA40), (0xA83, 0xA83), (0xABE, 0xAC0), (0xAC9, 0xAC9), (0xACB, 0xACC),
    (0xB02, 0xB03), (0xB40, 0xB40), (0xB47, 0xB48), (0xB4B, 0xB4C), (0xBBF, 0xBBF),
    (0xBC1, 0xBC2), (0xBC6, 0xBC8), (0xBCA, 0xBCC), (0xC01, 0xC03), (0xC41, 0xC44),
    (0xC82, 0xC83), (0xCBE, 0xCBE), (0xCC0, 0xCC1), (0xCC3, 0xCC4), (0xCC7, 0xCC8),
    (0xCCA, 0xCCB), (0xCF3, 0xCF3), (0xD02, 0xD03), (0xD3F, 0xD40), (0xD46, 0xD48),
    (0xD4A, 0xD4C), (0xD82, 0xD83), (0xDD0, 0xDD1), (0xDD8, 0xDDE), (0xDF2, 0xDF3),
    (0xE33, 0xE33), (0xEB3, 0xEB3), (0xF3E, 0xF3F), (0xF7F, 0xF7F), (0x1031, 0x1031),
    (0x103B, 0x103C), (0x1056, 0x1057), (0x1084, 0x1084), (0x1715, 0x1715), (0x1734, 0x1734),
    (0x17B6, 0x17B6), (0x17BE, 0x17C5), (0x17C7, 0x17C8), (0x1923, 0x1926), (0x1929, 0x192B),
    (0x1930, 0x1931), (0x1933, 0x1938), (0x1A19, 0x1A1A), (0x1A55, 0x1A55), (0x1A57, 0x1A57),
    (0x1A6D, 0x1A72), (0x1B04, 0x1B04), (0x1B3B, 0x1B3B), (0x1B3D, 0x1B41), (0x1B43, 0x1B44),
    (0x1B82, 0x1B82), (0x1BA1, 0x1BA1), (0x1BA6, 0x1BA7), (0x1BAA, 0x1BAA), (0x1BE7, 0x1BE7),
    (0x1BEA, 0x1BEC), (0x1BEE, 0x1BEE), (0x1BF2, 0x1BF3), (0x1C24, 0x1C2B), (0x1C34, 0x1C35),
    (0x1CE1, 0x1CE1), (0x1CF7, 0x1CF7), (0xA823, 0xA824), (0xA827, 0xA827), (0xA880, 0xA881),
    (0xA8B4, 0xA8C3), (0xA952, 0xA953), (0xA983, 0xA983), (0xA9B4, 0xA9B5), (0xA9BA, 0xA9BB),
    (0xA9BE, 0xA9C0), (0xAA2F, 0xAA30), (0xAA33, 0xAA34), (0xAA4D, 0xAA4D), (0xAAEB, 0xAAEB),
    (0xAAEE, 0xAAEF), (0xAAF5, 0xAAF5), (0xABE3, 0xABE4), (0xABE6, 0xABE7), (0xABE9, 0xABEA),
    (0xABEC, 0xABEC), (0x11000, 0x11000), (0x11002, 0x11002), (0x11082, 0x11082),
    (0x110B0, 0x110B2), (0x110B7, 0x110B8), (0x1112C, 0x1112C), (0x11145, 0x11146),
    (0x11182, 0x11182), (0x111B3, 0x111B5), (0x111BF, 0x111C0), (0x111CE, 0x111CE),
    (0x1122C, 0x1122E), (0x11232, 0x11233), (0x11235, 0x11235), (0x112E0, 0x112E2),
    (0x11302, 0x11303), (0x1133F, 0x1133F), (0x11341, 0x11344), (0x11347, 0x11348),
    (0x1134B, 0x1134D), (0x11362, 0x11363), (0x11435, 0x11437), (0x11440, 0x11441),
    (0x11445, 0x11445), (0x114B1, 0x114B2), (0x114B9, 0x114B9), (0x114BB, 0x114BC),
    (0x114BE, 0x114BE), (0x114C1, 0x114C1), (0x115B0, 0x115B1), (0x115B8, 0x115BB),
    (0x115BE, 0x115BE), (0x11630, 0x11632), (0x1163B, 0x1163C), (0x1163E, 0x1163E),
    (0x116AC, 0x116AC), (0x116AE, 0x116AF), (0x116B6, 0x116B6), (0x11726, 0x11726),
    (0x1182C, 0x1182E), (0x11838, 0x11838), (0x11931, 0x11935), (0x11937, 0x11938),
    (0x1193D, 0x1193D), (0x11940, 0x11940), (0x11942, 0x11942), (0x119D1, 0x119D3),
    (0x119DC, 0x119DF), (0x119E4, 0x119E4), (0x11A39, 0x11A39), (0x11A57, 0x11A58),
    (0x11A97, 0x11A97), (0x11C2F, 0x11C2F), (0x11C3E, 0x11C3E), (0x11CA9, 0x11CA9),
    (0x11CB1, 0x11CB1), (0x11CB4, 0x11CB4), (0x11D8A, 0x11D8E), (0x11D93, 0x11D94),
    (0x11D96, 0x11D96), (0x11EF5, 0x11EF6), (0x11F03, 0x11F03), (0x11F34, 0x11F35),
    (0x11F3E, 0x11F3F), (0x11F41, 0x11F41), (0x16F51, 0x16F87), (0x16FF0, 0x16FF1),
    (0x1D166, 0x1D166), (0x1D16D, 0x1D16D)]

/-- Marks that stand before the character they belong to. -/
def leadingMarks : Ranges :=
  [(0x600, 0x605), (0x6DD, 0x6DD), (0x70F, 0x70F), (0x890, 0x891), (0x8E2, 0x8E2),
    (0xD4E, 0xD4E), (0x110BD, 0x110BD), (0x110CD, 0x110CD), (0x111C2, 0x111C3),
    (0x1193F, 0x1193F), (0x11941, 0x11941), (0x11A3A, 0x11A3A), (0x11A84, 0x11A89),
    (0x11D46, 0x11D46), (0x11F02, 0x11F02)]

/-- Pictures, and the places kept for further ones. -/
def pictures : Ranges :=
  [(0xA9, 0xA9), (0xAE, 0xAE), (0x203C, 0x203C), (0x2049, 0x2049), (0x2122, 0x2122),
    (0x2139, 0x2139), (0x2194, 0x2199), (0x21A9, 0x21AA), (0x231A, 0x231B), (0x2328, 0x2328),
    (0x2388, 0x2388), (0x23CF, 0x23CF), (0x23E9, 0x23F3), (0x23F8, 0x23FA), (0x24C2, 0x24C2),
    (0x25AA, 0x25AB), (0x25B6, 0x25B6), (0x25C0, 0x25C0), (0x25FB, 0x25FE), (0x2600, 0x2605),
    (0x2607, 0x2612), (0x2614, 0x2685), (0x2690, 0x2705), (0x2708, 0x2712), (0x2714, 0x2714),
    (0x2716, 0x2716), (0x271D, 0x271D), (0x2721, 0x2721), (0x2728, 0x2728), (0x2733, 0x2734),
    (0x2744, 0x2744), (0x2747, 0x2747), (0x274C, 0x274C), (0x274E, 0x274E), (0x2753, 0x2755),
    (0x2757, 0x2757), (0x2763, 0x2767), (0x2795, 0x2797), (0x27A1, 0x27A1), (0x27B0, 0x27B0),
    (0x27BF, 0x27BF), (0x2934, 0x2935), (0x2B05, 0x2B07), (0x2B1B, 0x2B1C), (0x2B50, 0x2B50),
    (0x2B55, 0x2B55), (0x3030, 0x3030), (0x303D, 0x303D), (0x3297, 0x3297), (0x3299, 0x3299),
    (0x1F000, 0x1F0FF), (0x1F10D, 0x1F10F), (0x1F12F, 0x1F12F), (0x1F16C, 0x1F171),
    (0x1F17E, 0x1F17F), (0x1F18E, 0x1F18E), (0x1F191, 0x1F19A), (0x1F1AD, 0x1F1E5),
    (0x1F201, 0x1F20F), (0x1F21A, 0x1F21A), (0x1F22F, 0x1F22F), (0x1F232, 0x1F23A),
    (0x1F23C, 0x1F23F), (0x1F249, 0x1F3FA), (0x1F400, 0x1F53D), (0x1F546, 0x1F64F),
    (0x1F680, 0x1F6FF), (0x1F774, 0x1F77F), (0x1F7D5, 0x1F7FF), (0x1F80C, 0x1F80F),
    (0x1F848, 0x1F84F), (0x1F85A, 0x1F85F), (0x1F888, 0x1F88F), (0x1F8AE, 0x1F8FF),
    (0x1F90C, 0x1F93A), (0x1F93C, 0x1F945), (0x1F947, 0x1FAFF), (0x1FC00, 0x1FFFD)]

/-- The consonants of the scripts that write conjuncts. -/
def conjunctConsonants : Ranges :=
  [(0x915, 0x939), (0x958, 0x95F), (0x978, 0x97F), (0x995, 0x9A8), (0x9AA, 0x9B0),
    (0x9B2, 0x9B2), (0x9B6, 0x9B9), (0x9DC, 0x9DD), (0x9DF, 0x9DF), (0x9F0, 0x9F1),
    (0xA95, 0xAA8), (0xAAA, 0xAB0), (0xAB2, 0xAB3), (0xAB5, 0xAB9), (0xAF9, 0xAF9),
    (0xB15, 0xB28), (0xB2A, 0xB30), (0xB32, 0xB33), (0xB35, 0xB39), (0xB5C, 0xB5D),
    (0xB5F, 0xB5F), (0xB71, 0xB71), (0xC15, 0xC28), (0xC2A, 0xC39), (0xC58, 0xC5A),
    (0xD15, 0xD3A)]

/-- The signs that tie a consonant to the next one. -/
def conjunctSigns : List Nat :=
  [0x94D, 0x9CD, 0xACD, 0xB4D, 0xC4D, 0xD4D]

/-- How a character behaves at the border of a cluster. -/
inductive Joint
  /-- Stands alone. -/
  | separator
  /-- Is drawn on the character before it. -/
  | mark
  /-- Ties the pictures on its two sides. -/
  | joiner
  | spacingMark
  | leadingMark
  /-- A consonant at the start of a Hangul syllable. -/
  | onset
  /-- A Hangul vowel, or a syllable that ends in one. -/
  | vowel (syllable : Bool)
  /-- A consonant at the end of a Hangul syllable, or a syllable that ends in one. -/
  | coda (syllable : Bool)
  /-- One of the letters that stand for a flag in pairs. -/
  | flagLetter
  | picture
  | plain
deriving DecidableEq, Repr

/-- The character changes the colour of the skin in the picture before it. -/
def isSkinTone (c : Char) : Bool :=
  0x1F3FB ≤ c.toNat && c.toNat ≤ 0x1F3FF

/-- How a character behaves at the border of a cluster. -/
def Joint.of (c : Char) : Joint :=
  let n := c.toNat
  let within (low high : Nat) : Bool := low ≤ n && n ≤ high
  if separators.has c then .separator
  else if n < 0xA9 then .plain
  else if n = 0x200D then .joiner
  else if isExtender c || isSkinTone c then .mark
  else if within 0x1100 0x115F || within 0xA960 0xA97C then .onset
  else if within 0x1160 0x11A7 || within 0xD7B0 0xD7C6 then .vowel false
  else if within 0x11A8 0x11FF || within 0xD7CB 0xD7FB then .coda false
  else if within 0xAC00 0xD7A3 then
    if (n - 0xAC00) % 28 = 0 then .vowel true else .coda true
  else if within 0x1F1E6 0x1F1FF then .flagLetter
  else if spacingMarks.has c then .spacingMark
  else if leadingMarks.has c then .leadingMark
  else if pictures.has c then .picture
  else .plain

/-! ### Clusters -/

/-- How far an Indic conjunct has come at the end of a cluster. -/
inductive Conjunct
  | none
  /-- A consonant, perhaps with marks. -/
  | consonant
  /-- A consonant and a sign that ties it to the next. -/
  | tied
deriving DecidableEq, Repr

/-- What the end of an open cluster says about the character that comes next. -/
structure Edge where
  last : Char
  /-- A picture stands there with nothing but marks after it, or these and one joiner. -/
  pictured : Bool
  /-- A flag letter waits for its second. -/
  flagged : Bool
  conjunct : Conjunct
deriving Repr

namespace Edge

/-- The edge after the first character of a cluster. -/
def start (c : Char) : Edge where
  last := c
  pictured := Joint.of c = .picture
  flagged := Joint.of c = .flagLetter
  conjunct := if conjunctConsonants.has c then .consonant else .none

/-- The character still belongs to the cluster. -/
def joins (e : Edge) (c : Char) : Bool :=
  match Joint.of e.last, Joint.of c with
  | .separator, _ => e.last == '\r' && c == '\n'
  | _, .separator => false
  | _, .mark | _, .joiner | _, .spacingMark | .leadingMark, _ => true
  | .onset, .onset | .onset, .vowel _ | .onset, .coda true => true
  | .vowel _, .vowel false | .vowel _, .coda false | .coda _, .coda false => true
  | .joiner, .picture => e.pictured
  | .flagLetter, .flagLetter => e.flagged
  | _, _ => e.conjunct = .tied && conjunctConsonants.has c

/-- The edge after one more character of the same cluster. -/
def push (e : Edge) (c : Char) : Edge where
  last := c
  pictured :=
    match Joint.of c with
    | .picture => true
    | .mark | .joiner => e.pictured && Joint.of e.last != .joiner
    | _ => false
  flagged := Joint.of c = .flagLetter && !e.flagged
  conjunct :=
    if conjunctConsonants.has c then .consonant
    else if e.conjunct != .none && conjunctSigns.contains c.toNat then .tied
    else if (Joint.of c = .mark || Joint.of c = .joiner) && c.toNat != 0x200C then e.conjunct
    else .none

end Edge

/-- Splits a text into clusters, given the characters of the open one, the last of them first. -/
def clustersFrom (opened : List Char) (edge : Edge) : List Char → List (List Char)
  | [] => [opened.reverse]
  | c :: rest =>
    if edge.joins c then clustersFrom (c :: opened) (edge.push c) rest
    else opened.reverse :: clustersFrom [c] (.start c) rest

/-- Splits a text into clusters. -/
def clusters : List Char → List (List Char)
  | [] => []
  | c :: rest => clustersFrom [c] (.start c) rest

theorem flatten_clustersFrom (opened : List Char) (edge : Edge) (rest : List Char) :
    (clustersFrom opened edge rest).flatten = opened.reverse ++ rest := by
  induction rest generalizing opened edge with
  | nil => simp [clustersFrom]
  | cons c rest ih =>
    unfold clustersFrom
    split
    · simp [ih]
    · simp [ih]

/-- Nothing is lost: the clusters one after the other are the text. -/
theorem flatten_clusters (text : List Char) : (clusters text).flatten = text := by
  cases text with
  | nil => rfl
  | cons c rest => simp [clusters, flatten_clustersFrom]

theorem nil_not_mem_clustersFrom {opened : List Char} (h : opened ≠ []) (edge : Edge)
    (rest : List Char) : [] ∉ clustersFrom opened edge rest := by
  induction rest generalizing opened edge with
  | nil => simp [clustersFrom, h]
  | cons c rest ih =>
    unfold clustersFrom
    split
    · exact ih (List.cons_ne_nil _ _) _
    · simp [h, ih (List.cons_ne_nil _ _)]

/-- No cluster is empty. -/
theorem nil_not_mem_clusters (text : List Char) : [] ∉ clusters text := by
  cases text with
  | nil => simp [clusters]
  | cons c rest => exact nil_not_mem_clustersFrom (List.cons_ne_nil _ _) _ _

end DatasetSync.Text
