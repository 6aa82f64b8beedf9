/-
Numbers as they are written.

A whole-number literal is an optional sign and ASCII digits, and it has to fit
into 64 bits.  A real literal is an optional sign and either a word for infinity
or for "not a number", in any casing, or digits with an optional point and an
optional exponent.  Neither allows blanks; callers cut them first.
-/
import DatasetSync.Number.Binary64
import DatasetSync.Text.Blank

namespace DatasetSync.Number

/-- `0`-`9`. -/
def isDigit (c : Char) : Bool :=
  '0' ≤ c && c ≤ '9'

/-- The value of a digit. -/
def digitValue (c : Char) : Nat :=
  c.toNat - 48

/-- The value of a row of digits, read after `start`. -/
def digitsValue (start : Nat) (cs : List Char) : Nat :=
  cs.foldl (fun n c => n * 10 + digitValue c) start

/-- An optional sign (is it a minus?) and what follows it. -/
def splitSign : List Char → Bool × List Char
  | '-' :: rest => (true, rest)
  | '+' :: rest => (false, rest)
  | cs => (false, cs)

/-! ### Whole numbers -/

/-- The least and the greatest whole number that is stored. -/
def minInt : Int := -0x8000000000000000

def maxInt : Int := 0x7FFFFFFFFFFFFFFF

/-- The integer, if it fits into 64 bits. -/
def inRange? (n : Int) : Option Int :=
  if minInt ≤ n ∧ n ≤ maxInt then some n else none

/-- Reads a whole-number literal. -/
def wholeChars? (cs : List Char) : Option Int :=
  let (negative, digits) := splitSign cs
  if digits.isEmpty || !digits.all isDigit then none
  else
    let n : Int := digitsValue 0 digits
    inRange? (if negative then -n else n)

/-- Reads a whole-number literal. -/
def whole? (s : String) : Option Int :=
  wholeChars? s.toList

/-! ### Real numbers -/

/-- A written decimal: its digits without the point, and the power of ten they count. -/
structure Decimal where
  negative : Bool
  digits : Nat
  exponent : Int
deriving DecidableEq, Repr

/-- The double nearest to a written decimal. -/
def Decimal.toBinary64 (d : Decimal) : Binary64 :=
  Binary64.ofDecimal d.negative d.digits d.exponent

/-- Reads the exponent behind its letter: an optional sign and at least one digit. -/
def exponent? (cs : List Char) : Option Int :=
  let (negative, digits) := splitSign cs
  if digits.isEmpty || !digits.all isDigit then none
  else
    let n : Int := digitsValue 0 digits
    some (if negative then -n else n)

/-- The digits before and after an optional point, and what follows them. -/
def splitPoint (cs : List Char) : List Char × List Char × List Char :=
  let before := cs.takeWhile isDigit
  match cs.dropWhile isDigit with
  | '.' :: rest => (before, rest.takeWhile isDigit, rest.dropWhile isDigit)
  | rest => (before, [], rest)

/-- Reads digits with an optional point and an optional exponent; a digit has to stand before or
after the point. -/
def decimalChars? (cs : List Char) : Option Decimal :=
  let (negative, unsigned) := splitSign cs
  let (before, after, rest) := splitPoint unsigned
  if before.isEmpty && after.isEmpty then none
  else
    let digits := digitsValue (digitsValue 0 before) after
    let places : Int := -(after.length : Int)
    match rest with
    | [] => some ⟨negative, digits, places⟩
    | c :: rest =>
      if c == 'e' || c == 'E' then
        (exponent? rest).map fun e => ⟨negative, digits, places + e⟩
      else none

/-- A real literal, or a word that stands for one. -/
inductive Real
  | number (value : Binary64)
  | notANumber

/-- Reads a real literal. -/
def real? (s : String) : Option Real :=
  let (negative, rest) := splitSign s.toList
  let word := String.ofList (rest.map Text.foldChar)
  if word == "inf" || word == "infinity" then some (.number (Binary64.infinity negative))
  else if word == "nan" then some .notANumber
  else (decimalChars? s.toList).map fun d => .number d.toBinary64

/-- The number that a text denotes once its blanks are cut.  No spelling of "not a number" denotes
one; the infinities do. -/
def parseReal (s : String) : Option Binary64 :=
  match real? (Text.trim s) with
  | some (.number x) => some x
  | _ => none

/-- The whole number that a text denotes once its blanks are cut. -/
def parseWhole (s : String) : Option Int :=
  whole? (Text.trim s)

end DatasetSync.Number
