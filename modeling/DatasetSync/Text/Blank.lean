/-
Blanks, letter case and padding.

A cell, a name or a recorded address is compared after the blanks around it are
cut off, and a blank here is any character with the Unicode property
`White_Space`.  That is wider than the six ASCII blanks and narrower than "looks
empty": a zero-width space and a byte-order mark are no blanks.

Identifiers of the database compare without regard to case, but only for the
letters `A`-`Z`; `é` and `É` stay different names.
-/

namespace DatasetSync.Text

/-! ### Blanks -/

/-- The characters with the Unicode property `White_Space`. -/
def isBlank (c : Char) : Bool :=
  let n := c.toNat
  (0x09 ≤ n && n ≤ 0x0D) || n == 0x20 || n == 0x85 || n == 0xA0 || n == 0x1680 ||
    (0x2000 ≤ n && n ≤ 0x200A) || n == 0x2028 || n == 0x2029 || n == 0x202F || n == 0x205F ||
    n == 0x3000

/-- Cuts blanks at the end. -/
def trimRight (cs : List Char) : List Char :=
  (cs.reverse.dropWhile isBlank).reverse

/-- Cuts blanks at both ends. -/
def trimChars (cs : List Char) : List Char :=
  trimRight (cs.dropWhile isBlank)

/-- The text without the blanks around it. -/
def trim (s : String) : String :=
  String.ofList (trimChars s.toList)

/-- Nothing is left of the text once its blanks are cut. -/
def allBlank (s : String) : Bool :=
  s.toList.all isBlank

/-! ### Letter case -/

/-- `A`-`Z` become `a`-`z`; every other character stays. -/
def foldChar (c : Char) : Char :=
  if 'A' ≤ c ∧ c ≤ 'Z' then Char.ofNat (c.toNat + 32) else c

/-- The text with its ASCII capitals in lower case. -/
def fold (s : String) : String :=
  String.ofList (s.toList.map foldChar)

/-- Two names are the same identifier when they differ at most in ASCII case. -/
def sameName (a b : String) : Bool :=
  fold a == fold b

/-! ### Padding -/

/-- Fills up with blanks on the right to `width` characters. -/
def padRight (width : Nat) (s : String) : String :=
  String.ofList (s.toList ++ List.replicate (width - s.length) ' ')

/-- Fills up with blanks on the left to `width` characters. -/
def padLeft (width : Nat) (s : String) : String :=
  String.ofList (List.replicate (width - s.length) ' ' ++ s.toList)

end DatasetSync.Text
