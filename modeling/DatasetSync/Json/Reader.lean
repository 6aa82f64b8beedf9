/-
Reading JSON text, piece by piece.

A reader takes the unread text and gives back what it read and the text behind
it, or a stop: what is wrong, and the unread text at the place where it was
noticed.  The line and the column of a stop are only worked out at the end, by
comparing what is unread with the whole.

A stop is noticed either behind a byte that was taken or in front of one that was
only looked at; the latter counts as well, so a stop also says how many bytes of
the unread text were looked at.
-/
import DatasetSync.Json.Fault
import DatasetSync.Number.Literal
import DatasetSync.Text.Utf8

namespace DatasetSync.Json

/-- Where and why reading stops. -/
structure Stop where
  problem : Problem
  /-- The unread text. -/
  rest : List Char
  /-- How many bytes of the unread text were looked at. -/
  ahead : Nat := 0

/-- Stops in front of a byte that was looked at, or at the end. -/
def stopBefore {α : Type} (problem : Problem) (rest : List Char) : Except Stop α :=
  .error ⟨problem, rest, 1⟩

/-- Stops behind what was taken. -/
def stopBehind {α : Type} (problem : Problem) (rest : List Char) : Except Stop α :=
  .error ⟨problem, rest, 0⟩

/-- The line and column of a stop in a text. -/
def Stop.locate (whole : List Char) (stop : Stop) : Fault :=
  let bytes := Text.Utf8.encodeChars whole
  let unread := (Text.Utf8.encodeChars stop.rest).length
  let before := bytes.take (bytes.length - unread + stop.ahead)
  let line := before.filter (· == 0x0A)
  ⟨stop.problem, line.length + 1, (before.reverse.takeWhile (· != 0x0A)).length⟩

/-! ### Blanks and words -/

/-- A blank between the parts of a value. -/
def isSpace (c : Char) : Bool :=
  c == ' ' || c == '\n' || c == '\t' || c == '\r'

/-- The text behind the blanks in front. -/
def skipSpace (cs : List Char) : List Char :=
  cs.dropWhile isSpace

/-- Takes the remaining letters of a word. -/
def readWord : List Char → List Char → Except Stop (List Char)
  | [], cs => .ok cs
  | _ :: _, [] => stopBehind .eofInValue []
  | w :: word, c :: rest =>
    if c = w then readWord word rest else stopBefore .expectedIdent (c :: rest)

/-! ### Texts -/

/-- The value of a hexadecimal digit. -/
def hexValue? (c : Char) : Option Nat :=
  if '0' ≤ c ∧ c ≤ '9' then some (c.toNat - 48)
  else if 'a' ≤ c ∧ c ≤ 'f' then some (c.toNat - 87)
  else if 'A' ≤ c ∧ c ≤ 'F' then some (c.toNat - 55)
  else none

/-- Takes four hexadecimal digits.  Four bytes are taken whatever they are. -/
def readHex (cs : List Char) : Except Stop (Nat × List Char) :=
  let refused : Except Stop (Nat × List Char) :=
    if (Text.Utf8.encodeChars (cs.take 4)).length < 4 then stopBehind .eofInString []
    else .error ⟨.invalidEscape, cs, 4⟩
  match cs with
  | a :: b :: c :: d :: rest =>
    match hexValue? a, hexValue? b, hexValue? c, hexValue? d with
    | some a, some b, some c, some d => .ok (a * 4096 + b * 256 + c * 16 + d, rest)
    | _, _, _, _ => refused
  | _ => refused

/-- The code unit is the second half of a pair. -/
def isLowSurrogate (n : Nat) : Bool :=
  0xDC00 ≤ n && n ≤ 0xDFFF

/-- The code unit is the first half of a pair. -/
def isHighSurrogate (n : Nat) : Bool :=
  0xD800 ≤ n && n ≤ 0xDBFF

/-- Takes the second half of a pair behind the first, with its backslash and letter. -/
def readLowSurrogate (high : Nat) : List Char → Except Stop (Char × List Char)
  | '\\' :: 'u' :: cs => do
    let (low, rest) ← readHex cs
    if isLowSurrogate low then
      return (Char.ofNat ((high - 0xD800) * 1024 + (low - 0xDC00) + 0x10000), rest)
    else stopBehind .loneSurrogate rest
  | ['\\'] => stopBehind .eofInString []
  | '\\' :: rest => stopBefore .unexpectedEndOfHexEscape rest
  | [] => stopBehind .eofInString []
  | rest => stopBefore .unexpectedEndOfHexEscape rest

/-- The characters that a backslash and one letter stand for. -/
def shortEscape? : Char → Option Char
  | '"' => some '"'
  | '\\' => some '\\'
  | '/' => some '/'
  | 'b' => some '\x08'
  | 'f' => some '\x0c'
  | 'n' => some '\n'
  | 'r' => some '\r'
  | 't' => some '\t'
  | _ => none

/-- Takes an escape behind its backslash. -/
def readEscape : List Char → Except Stop (Char × List Char)
  | [] => stopBehind .eofInString []
  | c :: rest =>
    if c = 'u' then do
      let (n, rest) ← readHex rest
      if isLowSurrogate n then stopBehind .loneSurrogate rest
      else if isHighSurrogate n then readLowSurrogate n rest
      else return (Char.ofNat n, rest)
    else
      match shortEscape? c with
      | some e => .ok (e, rest)
      | none => stopBefore .invalidEscape (c :: rest)

/-- Takes a text behind its opening quote; `done` holds what is read, the newest first. -/
def readCharsFrom : Nat → List Char → List Char → Except Stop (String × List Char)
  | 0, _, _ => stopBehind .eofInString []
  | _, _, [] => stopBehind .eofInString []
  | fuel + 1, done, c :: rest =>
    if c = '"' then .ok (String.ofList done.reverse, rest)
    else if c = '\\' then do
      let (e, rest) ← readEscape rest
      readCharsFrom fuel (e :: done) rest
    else if c.toNat < 0x20 then stopBefore .controlCharacter (c :: rest)
    else readCharsFrom fuel (c :: done) rest

/-- Takes a text behind its opening quote. -/
def readChars (cs : List Char) : Except Stop (String × List Char) :=
  readCharsFrom (cs.length + 1) [] cs

/-- Passes over a text behind its opening quote.  Escapes are only taken, not understood. -/
def skipCharsFrom : Nat → List Char → Except Stop (List Char)
  | 0, _ => stopBehind .eofInString []
  | _, [] => stopBehind .eofInString []
  | fuel + 1, c :: rest =>
    if c = '"' then .ok rest
    else if c = '\\' then
      match rest with
      | [] => stopBehind .eofInString []
      | 'u' :: rest => do
        let (_, rest) ← readHex rest
        skipCharsFrom fuel rest
      | e :: after =>
        if (shortEscape? e).isSome then skipCharsFrom fuel after
        else stopBefore .invalidEscape rest
    else if c.toNat < 0x20 then stopBehind .controlCharacter (c :: rest)
    else skipCharsFrom fuel rest

/-- Passes over a text behind its opening quote. -/
def skipChars (cs : List Char) : Except Stop (List Char) :=
  skipCharsFrom (cs.length + 1) cs

/-! ### Numbers

Only the kind and value of a misplaced number are of interest, for the message.
Up to twenty digits are kept; a number with a point or an exponent, or with more
digits than fit into 64 bits, is a floating-point one: its kept digits times a
power of ten, each of the two rounded. -/

/-- The greatest number that fits into 64 bits without a sign. -/
def maxUnsigned : Nat := 0xFFFFFFFFFFFFFFFF

/-- Keeps digits while they fit: the digits kept, how many were kept, and the text from the first
that does not fit. -/
def keepDigits (kept count : Nat) : List Char → Nat × Nat × List Char
  | [] => (kept, count, [])
  | c :: rest =>
    if Number.isDigit c && kept * 10 + Number.digitValue c ≤ maxUnsigned then
      keepDigits (kept * 10 + Number.digitValue c) (count + 1) rest
    else (kept, count, c :: rest)

/-- The power of ten as a double. -/
def powerOfTen (n : Nat) : Number.Binary64 :=
  Number.Binary64.ofDecimal false 1 n

/-- Scales a double down by powers of ten, at most `10 ^ 308` at a time. -/
def scaleDown : Nat → Number.Binary64 → Nat → Number.Binary64
  | 0, x, _ => x
  | fuel + 1, x, n =>
    if n ≤ 308 then x.div (powerOfTen n)
    else if x.isZero then x
    else scaleDown fuel (x.div (powerOfTen 308)) (n - 308)

/-- The double for kept digits and a power of ten, unless it is infinite. -/
def floating? (negative : Bool) (digits : Nat) (exponent : Int) : Option Number.Binary64 :=
  let x := Number.Binary64.ofNat digits
  let signed (x : Number.Binary64) := if negative then x.neg else x
  if exponent < 0 then some (signed (scaleDown 8 x (-exponent).toNat))
  else if 308 < exponent then (if x.isZero then some (signed x) else none)
  else
    let y := x.mul (powerOfTen exponent.toNat)
    if y.isInfinite then none else some (signed y)

/-- Finishes a floating-point number. -/
def finishFloating (negative : Bool) (digits : Nat) (exponent : Int) (rest : List Char) :
    Except Stop (Unexpected × List Char) :=
  match floating? negative digits exponent with
  | some x => .ok (.floating x, rest)
  | none => stopBehind .numberOutOfRange rest

/-- Takes an exponent behind its letter. -/
def readExponent (negative : Bool) (digits : Nat) (start : Int) (cs : List Char) :
    Except Stop (Unexpected × List Char) :=
  let (down, unsigned) := Number.splitSign cs
  match unsigned with
  | [] => stopBehind .eofInValue []
  | c :: _ =>
    if !Number.isDigit c then stopBefore .invalidNumber unsigned
    else
      let written := unsigned.takeWhile Number.isDigit
      let rest := unsigned.dropWhile Number.isDigit
      let n := Number.digitsValue 0 written
      if n < 0x80000000 then
        finishFloating negative digits (start + if down then -(n : Int) else n) rest
      else if digits ≠ 0 ∧ !down then
        let fitting := (List.range written.length).takeWhile fun k =>
          Number.digitsValue 0 (written.take (k + 1)) < 0x80000000
        stopBehind .numberOutOfRange (unsigned.drop (fitting.length + 1))
      else .ok (.floating (Number.Binary64.zero negative), rest)

/-- Takes the digits behind a point. -/
def readFraction (negative : Bool) (digits : Nat) (start : Int) (cs : List Char) :
    Except Stop (Unexpected × List Char) :=
  let (kept, count, rest) := keepDigits digits 0 cs
  let overflow := rest.takeWhile Number.isDigit
  let rest := rest.dropWhile Number.isDigit
  if count = 0 && overflow.isEmpty then
    match rest with
    | [] => stopBefore .eofInValue []
    | _ => stopBefore .invalidNumber rest
  else
    let exponent := start - count
    match rest with
    | c :: behind =>
      if c = 'e' ∨ c = 'E' then readExponent negative kept exponent behind
      else finishFloating negative kept exponent rest
    | [] => finishFloating negative kept exponent []

/-- Takes a number behind its sign. -/
def readNumber (negative : Bool) (cs : List Char) : Except Stop (Unexpected × List Char) :=
  match cs with
  | [] => stopBehind .eofInValue []
  | c :: after =>
    if !Number.isDigit c then stopBefore .invalidNumber cs
    else if c = '0' && (after.head?.elim false Number.isDigit) then stopBefore .invalidNumber after
    else
      let (kept, _, rest) := keepDigits 0 0 cs
      let dropped := rest.takeWhile Number.isDigit
      let rest := rest.dropWhile Number.isDigit
      let exponent : Int := dropped.length
      match rest with
      | '.' :: behind => readFraction negative kept exponent behind
      | 'e' :: behind => readExponent negative kept exponent behind
      | 'E' :: behind => readExponent negative kept exponent behind
      | _ =>
        if !dropped.isEmpty then finishFloating negative kept exponent rest
        else if !negative then .ok (.integer kept, rest)
        else if kept = 0 ∨ 0x8000000000000000 < kept then
          .ok (.floating (Number.Binary64.ofNat kept).neg, rest)
        else .ok (.integer (-(kept : Int)), rest)

/-- Passes over an exponent behind its letter. -/
def skipExponent (cs : List Char) : Except Stop (List Char) :=
  let (_, unsigned) := Number.splitSign cs
  match unsigned with
  | c :: rest =>
    if Number.isDigit c then .ok (rest.dropWhile Number.isDigit)
    else stopBefore .invalidNumber unsigned
  | [] => stopBehind .invalidNumber []

/-- Passes over a number behind its sign. -/
def skipNumber (cs : List Char) : Except Stop (List Char) :=
  let tail (rest : List Char) : Except Stop (List Char) :=
    match rest with
    | '.' :: behind =>
      if behind.head?.elim false Number.isDigit then
        match behind.dropWhile Number.isDigit with
        | 'e' :: rest => skipExponent rest
        | 'E' :: rest => skipExponent rest
        | rest => .ok rest
      else stopBefore .invalidNumber behind
    | 'e' :: behind => skipExponent behind
    | 'E' :: behind => skipExponent behind
    | _ => .ok rest
  match cs with
  | [] => stopBehind .invalidNumber []
  | c :: rest =>
    if c = '0' then
      if rest.head?.elim false Number.isDigit then stopBefore .invalidNumber rest else tail rest
    else if Number.isDigit c then tail (rest.dropWhile Number.isDigit)
    else stopBefore .invalidNumber cs

/-! ### Values that are passed over -/

/-- What a value is nested in. -/
inductive Frame
  | list
  | object
deriving DecidableEq

/-- What comes next while a value is passed over. -/
inductive Ahead
  | value
  /-- The end of the innermost frame, or another member of it; `afterMember` if one came before. -/
  | member (afterMember : Bool)

/-- Passes over a value that is no list or object. -/
def skipScalar (c : Char) (rest : List Char) : Except Stop (List Char) :=
  if c = 'n' then readWord ['u', 'l', 'l'] rest
  else if c = 't' then readWord ['r', 'u', 'e'] rest
  else if c = 'f' then readWord ['a', 'l', 's', 'e'] rest
  else if c = '-' then skipNumber rest
  else if Number.isDigit c then skipNumber (c :: rest)
  else if c = '"' then skipChars rest
  else stopBefore .expectedValue (c :: rest)

/-- Passes over a key and its colon. -/
def skipKey (cs : List Char) : Except Stop (List Char) :=
  match skipSpace cs with
  | '"' :: rest => do
    let rest ← skipChars rest
    match skipSpace rest with
    | ':' :: rest => .ok rest
    | [] => stopBefore .eofInObject []
    | rest => stopBefore .expectedColon rest
  | [] => stopBefore .eofInObject []
  | rest => stopBefore .keyNotAString rest

/-- Passes over a value inside `frames`, the innermost first, up to the end of the outermost. -/
def skipFrom : Nat → Ahead → List Frame → List Char → Except Stop (List Char)
  | 0, _, _, cs => stopBehind .eofInValue cs
  | fuel + 1, .value, frames, cs =>
    match skipSpace cs with
    | [] => stopBefore .eofInValue []
    | '[' :: rest => skipFrom fuel (.member false) (.list :: frames) rest
    | '\x7b' :: rest => skipFrom fuel (.member false) (.object :: frames) rest
    | c :: rest => do
      let rest ← skipScalar c rest
      skipFrom fuel (.member true) frames rest
  | _ + 1, .member _, [], cs => .ok cs
  | fuel + 1, .member afterMember, frame :: outer, cs =>
    let next (rest : List Char) : Except Stop (List Char) :=
      match frame with
      | .list => skipFrom fuel .value (frame :: outer) rest
      | .object => do
        let rest ← skipKey rest
        skipFrom fuel .value (frame :: outer) rest
    match skipSpace cs, frame with
    | [], .list => stopBefore .eofInList []
    | [], .object => stopBefore .eofInObject []
    | ']' :: rest, .list => skipFrom fuel (.member true) outer rest
    | '\x7d' :: rest, .object => skipFrom fuel (.member true) outer rest
    | ',' :: rest, _ => if afterMember then next rest else next (',' :: rest)
    | rest, .list => if afterMember then stopBefore .expectedListCommaOrEnd rest else next rest
    | rest, .object => if afterMember then stopBefore .expectedObjectCommaOrEnd rest else next rest

/-- Passes over a value, however deep. -/
def skipValue (cs : List Char) : Except Stop (List Char) :=
  skipFrom (2 * cs.length + 2) .value [] cs

/-! ### Values of a wanted kind -/

/-- Stops at a value of another kind than the one expected.  A value that is no list or object is
taken first. -/
def unexpected {α : Type} (expected : String) (cs : List Char) : Except Stop α :=
  let wrong (found : Unexpected) (rest : List Char) : Except Stop α :=
    stopBehind (.invalidType found expected) rest
  match cs with
  | [] => stopBefore .eofInValue []
  | c :: rest =>
    if c = '[' then wrong .sequence cs
    else if c = '\x7b' then wrong .map cs
    else if c = 'n' then do wrong .null (← readWord ['u', 'l', 'l'] rest)
    else if c = 't' then do wrong (.boolean true) (← readWord ['r', 'u', 'e'] rest)
    else if c = 'f' then do wrong (.boolean false) (← readWord ['a', 'l', 's', 'e'] rest)
    else if c = '"' then do
      let (s, rest) ← readChars rest
      wrong (.string s) rest
    else if c = '-' then do
      let (found, rest) ← readNumber true rest
      wrong found rest
    else if Number.isDigit c then do
      let (found, rest) ← readNumber false cs
      wrong found rest
    else stopBefore .expectedValue cs

/-- Takes a text. -/
def readText (cs : List Char) : Except Stop (String × List Char) :=
  match skipSpace cs with
  | '"' :: rest => readChars rest
  | rest => unexpected "a string" rest

/-- Looks for the next item of a list: the text from it on, or nothing in front of the closing
bracket. -/
def nextItem (first : Bool) (cs : List Char) : Except Stop (Bool × List Char) :=
  match skipSpace cs with
  | [] => stopBefore .eofInList []
  | ']' :: rest => .ok (false, ']' :: rest)
  | ',' :: rest =>
    if first then .ok (true, ',' :: rest)
    else
      match skipSpace rest with
      | [] => stopBefore .eofInValue []
      | ']' :: rest => stopBefore .trailingComma (']' :: rest)
      | rest => .ok (true, rest)
  | rest => if first then .ok (true, rest) else stopBefore .expectedListCommaOrEnd rest

/-- Takes the next key of an object, or nothing in front of the closing brace. -/
def nextKey (first : Bool) (cs : List Char) : Except Stop (Option String × List Char) :=
  match skipSpace cs with
  | [] => stopBefore .eofInObject []
  | '\x7d' :: rest => .ok (none, '\x7d' :: rest)
  | c :: rest =>
    if first then
      if c = '"' then (readChars rest).map fun (key, rest) => (some key, rest)
      else stopBefore .keyNotAString (c :: rest)
    else if c = ',' then
      match skipSpace rest with
      | [] => stopBefore .eofInValue []
      | '"' :: rest => (readChars rest).map fun (key, rest) => (some key, rest)
      | '\x7d' :: rest => stopBefore .trailingComma ('\x7d' :: rest)
      | rest => stopBefore .keyNotAString rest
    else stopBefore .expectedObjectCommaOrEnd (c :: rest)

/-- Takes the colon between a key and its value. -/
def readColon (cs : List Char) : Except Stop (List Char) :=
  match skipSpace cs with
  | ':' :: rest => .ok rest
  | [] => stopBefore .eofInObject []
  | rest => stopBefore .expectedColon rest

/-- Takes the bracket that ends a list. -/
def endList (cs : List Char) : Except Stop (List Char) :=
  match skipSpace cs with
  | ']' :: rest => .ok rest
  | ',' :: rest =>
    match skipSpace rest with
    | ']' :: rest => stopBefore .trailingComma (']' :: rest)
    | rest => stopBefore .trailingCharacters rest
  | [] => stopBefore .eofInList []
  | rest => stopBefore .trailingCharacters rest

/-- Takes the brace that ends an object. -/
def endObject (cs : List Char) : Except Stop (List Char) :=
  match skipSpace cs with
  | '\x7d' :: rest => .ok rest
  | ',' :: rest => stopBefore .trailingComma (',' :: rest)
  | [] => stopBefore .eofInObject []
  | rest => stopBefore .trailingCharacters rest

/-- A list whose content is refused is left at the place where looking for its end leads. -/
def leaveList {α : Type} (problem : Problem) (cs : List Char) : Except Stop α :=
  match skipSpace cs with
  | ']' :: rest => stopBehind problem rest
  | ',' :: rest => stopBehind problem (skipSpace rest)
  | rest => stopBehind problem rest

/-- An object whose content is refused is left at the place where looking for its end leads. -/
def leaveObject {α : Type} (problem : Problem) (cs : List Char) : Except Stop α :=
  match skipSpace cs with
  | '\x7d' :: rest => stopBehind problem rest
  | rest => stopBehind problem rest

/-- Refuses anything but blanks at the end of a text. -/
def atEnd (cs : List Char) : Except Stop Unit :=
  match skipSpace cs with
  | [] => .ok ()
  | rest => stopBefore .trailingCharacters rest

end DatasetSync.Json
