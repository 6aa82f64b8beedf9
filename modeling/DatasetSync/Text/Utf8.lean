/-
UTF-8, as bytes in a list.

`encode` writes a character in one to four bytes.  `decode` reads a whole byte
string and, when it is not UTF-8, says how long its valid part is: the number of
bytes before the first character that is cut off, overlong, a surrogate or out
of range.  That number is what a complaint about a bad field shows.
-/

namespace DatasetSync.Text.Utf8

/-- The bytes of one character. -/
def encodeChar (c : Char) : List UInt8 :=
  let n := c.toNat
  if n < 0x80 then [n.toUInt8]
  else if n < 0x800 then [(0xC0 + n / 64).toUInt8, (0x80 + n % 64).toUInt8]
  else if n < 0x10000 then
    [(0xE0 + n / 4096).toUInt8, (0x80 + n / 64 % 64).toUInt8, (0x80 + n % 64).toUInt8]
  else
    [(0xF0 + n / 262144).toUInt8, (0x80 + n / 4096 % 64).toUInt8, (0x80 + n / 64 % 64).toUInt8,
      (0x80 + n % 64).toUInt8]

/-- How many bytes a character takes. -/
def charSize (c : Char) : Nat :=
  (encodeChar c).length

/-- The bytes of a text. -/
def encodeChars (cs : List Char) : List UInt8 :=
  cs.flatMap encodeChar

/-- The bytes of a text. -/
def encode (s : String) : List UInt8 :=
  encodeChars s.toList

/-- A byte of the form `10xxxxxx`. -/
def isContinuation (b : UInt8) : Bool :=
  0x80 ≤ b && b ≤ 0xBF

/-- The six low bits of a continuation byte. -/
def low (b : UInt8) : Nat :=
  b.toNat - 0x80

/-- The character that a byte string begins with, its size, and the rest.  The bounds on the
second byte keep out overlong forms, surrogates and what lies beyond U+10FFFF. -/
def decodeChar? : List UInt8 → Option (Char × Nat × List UInt8)
  | [] => none
  | a :: rest =>
    if a < 0x80 then some (Char.ofNat a.toNat, 1, rest)
    else if 0xC2 ≤ a && a ≤ 0xDF then
      match rest with
      | b :: rest =>
        if isContinuation b then some (Char.ofNat ((a.toNat - 0xC0) * 64 + low b), 2, rest)
        else none
      | [] => none
    else if 0xE0 ≤ a && a ≤ 0xEF then
      match rest with
      | b :: c :: rest =>
        if isContinuation b && isContinuation c && (a != 0xE0 || 0xA0 ≤ b) &&
            (a != 0xED || b ≤ 0x9F) then
          some (Char.ofNat ((a.toNat - 0xE0) * 4096 + low b * 64 + low c), 3, rest)
        else none
      | _ => none
    else if 0xF0 ≤ a && a ≤ 0xF4 then
      match rest with
      | b :: c :: d :: rest =>
        if isContinuation b && isContinuation c && isContinuation d && (a != 0xF0 || 0x90 ≤ b) &&
            (a != 0xF4 || b ≤ 0x8F) then
          some (Char.ofNat ((a.toNat - 0xF0) * 262144 + low b * 4096 + low c * 64 + low d), 4, rest)
        else none
      | _ => none
    else none

theorem decodeChar?_shorter {bytes rest : List UInt8} {c : Char} {size : Nat}
    (h : decodeChar? bytes = some (c, size, rest)) : rest.length < bytes.length := by
  unfold decodeChar? at h
  repeat' split at h
  all_goals first
    | rw [← (Prod.mk.inj (Prod.mk.inj (Option.some.inj h)).2).2]
      simp only [List.length_cons]
      omega
    | contradiction

/-- Reads on from `done` characters (the newest first) that took `size` bytes. -/
def decodeFrom (done : List Char) (size : Nat) (bytes : List UInt8) : Except Nat (List Char) :=
  match _h : decodeChar? bytes with
  | some (c, n, rest) => decodeFrom (c :: done) (size + n) rest
  | none => if bytes.isEmpty then .ok done.reverse else .error size
termination_by bytes.length
decreasing_by exact decodeChar?_shorter _h

/-- The characters of a byte string, or the length of its valid part. -/
def decodeChars (bytes : List UInt8) : Except Nat (List Char) :=
  decodeFrom [] 0 bytes

/-- The text of a byte string, or the length of its valid part. -/
def decode (bytes : List UInt8) : Except Nat String :=
  (decodeChars bytes).map String.ofList

/-- The text of a byte string that is UTF-8. -/
def decode? (bytes : List UInt8) : Option String :=
  (decode bytes).toOption

end DatasetSync.Text.Utf8
