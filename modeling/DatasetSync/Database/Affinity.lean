/-
What a column does to the values stored in it.

A column's declared type gives it an affinity.  Text that looks like a decimal
number becomes one in a numeric column, a whole real number becomes an integer in
an integer column, and everything in a real column is read back as a real number;
the negative zero is read back there as zero.  Text columns turn numbers into
text.  Text that does not look like a number is kept in any column.

Looking like a number is narrower than being a real literal: ASCII digits with an
optional sign, point and exponent, and ASCII blanks around.
-/
import DatasetSync.Database.Numeral
import DatasetSync.Value

namespace DatasetSync.Database

/-- What a column prefers to store. -/
inductive Affinity
  | integer
  | real
  | text
  | numeric
  | blob
deriving DecidableEq, Repr

/-- One text occurs in another. -/
def occursIn (part : List Char) : List Char → Bool
  | [] => part.isEmpty
  | c :: rest => part.isPrefixOf (c :: rest) || occursIn part rest

/-- The affinity of a declared type, found by the words in it. -/
def Affinity.ofDeclared (declared : String) : Affinity :=
  let word := (Text.fold declared).toList
  let has (part : String) : Bool := occursIn part.toList word
  if has "int" then .integer
  else if has "char" || has "clob" || has "text" then .text
  else if has "blob" || word.isEmpty then .blob
  else if has "real" || has "floa" || has "doub" then .real
  else .numeric

/-- One of the six ASCII blanks. -/
def isAsciiBlank (c : Char) : Bool :=
  c == ' ' || (0x09 ≤ c.toNat && c.toNat ≤ 0x0D)

/-- The text without the ASCII blanks around it. -/
def trimAscii (cs : List Char) : List Char :=
  ((cs.dropWhile isAsciiBlank).reverse.dropWhile isAsciiBlank).reverse

/-- A whole real number, strictly between the bounds of what is stored as an integer. -/
def exactInt? (x : Number.Binary64) : Option Int :=
  match x.toInt? with
  | some n => if Number.minInt < n ∧ n < Number.maxInt then some n else none
  | none => none

/-- A real number where integers are preferred. -/
def preferInteger (x : Number.Binary64) : Value :=
  (exactInt? x).elim (.real x) .integer

/-- Text where numbers are preferred. -/
def numericText (s : String) : Value :=
  let cs := trimAscii s.toList
  if (Number.decimalChars? cs).isNone then .text s
  else
    match Number.wholeChars? cs with
    | some n => .integer n
    | none => preferInteger (Numeral.read cs)

/-- A number as text. -/
def numberText : Value → Value
  | .integer n => .text (toString n)
  | .real x => .text x.plain
  | v => v

/-- An integer where real numbers are preferred. -/
def asReal : Value → Value
  | .integer n => .real (Number.Binary64.ofInt n)
  | v => v

/-- The value that is read back after a value was stored. -/
def Affinity.store (a : Affinity) (v : Value) : Value :=
  match a with
  | .blob => v
  | .text => numberText v
  | .integer | .numeric =>
    match v with
    | .text s => numericText s
    | .real x => preferInteger x
    | v => v
  | .real =>
    match v with
    | .text s => asReal (numericText s)
    | .real x => asReal (preferInteger x)
    | v => asReal v

end DatasetSync.Database
