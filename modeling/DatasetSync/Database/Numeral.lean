/-
Decimal text as the database reads it.

Only so many digits count that they fit into 63 bits.  They are multiplied by
powers of ten one after the other, each product rounded to 64 significant bits,
and the last product is rounded once more, to a double.  The outcome can lie one
place beside the double nearest to the text.
-/
import DatasetSync.Number.Literal

namespace DatasetSync.Database.Numeral

open Number (Binary64)

/-! ### Products in 64 significant bits -/

/-- The number `significand * 2 ^ exponent`. -/
structure Scaled where
  significand : Nat
  exponent : Int
deriving DecidableEq, Repr

namespace Scaled

/-- A quotient rounded to 64 significant bits, a tie to the even one. -/
def ofQuotient (num den : Nat) : Scaled :=
  let place := Binary64.floorLog num den - 63
  ⟨Binary64.roundHalfEven (num <<< (-place).toNat) (den <<< place.toNat), place⟩

/-- A product rounded to 64 significant bits. -/
def mul (x y : Scaled) : Scaled :=
  let product := ofQuotient (x.significand * y.significand) 1
  ⟨product.significand, product.exponent + x.exponent + y.exponent⟩

/-- Multiplies again and again by the same number. -/
def mulTimes (x y : Scaled) : Nat → Scaled
  | 0 => x
  | n + 1 => (x.mul y).mulTimes y n

/-- The digits multiplied by a power of ten, a hundred places at a time, then ten, then one. -/
def ofDecimal (digits : Nat) (exponent : Int) : Scaled :=
  let factor (places : Nat) : Scaled :=
    if 0 ≤ exponent then ofQuotient (Binary64.tenTo places) 1
    else ofQuotient 1 (Binary64.tenTo places)
  let n := exponent.natAbs
  (((⟨digits, 0⟩ : Scaled).mulTimes (factor 100) (n / 100)).mulTimes (factor 10)
    (n % 100 / 10)).mulTimes (factor 1) (n % 10)

/-- The double nearest to a number; past the greatest double it is infinite. -/
def toBinary64 (negative : Bool) (x : Scaled) : Binary64 :=
  let num := x.significand <<< x.exponent.toNat
  let den := 1 <<< (-x.exponent).toNat
  if (0x1FFFFFFFFFFFFF <<< 971) * den < num then Binary64.infinity negative
  else Binary64.ofQuotient negative num den

end Scaled

/-! ### The digits of a text -/

/-- From here on no further digit is taken. -/
def fullAt : Nat := (0x8000000000000000 - 10) / 10

/-- Takes in the digits before the point.  Those that do not fit any more count as zeros. -/
def takeWhole (digits : Nat) (exponent : Int) : List Char → Nat × Int
  | [] => (digits, exponent)
  | c :: rest =>
    if digits < fullAt then takeWhole (digits * 10 + Number.digitValue c) exponent rest
    else takeWhole digits (exponent + 1) rest

/-- Takes in the digits behind the point.  Those that do not fit any more are left out. -/
def takePlaces (digits : Nat) (exponent : Int) : List Char → Nat × Int
  | [] => (digits, exponent)
  | c :: rest =>
    if digits < fullAt then takePlaces (digits * 10 + Number.digitValue c) (exponent - 1) rest
    else takePlaces digits exponent rest

/-- The exponent that is written; from ten thousand on its digits count for nothing. -/
def writtenExponent (cs : List Char) : Int :=
  let (negative, digits) := Number.splitSign cs
  let size := digits.foldl
    (fun n c => if n < 10000 then n * 10 + Number.digitValue c else 10000) 0
  if negative then -(size : Int) else size

/-- Turns places of a positive exponent into zeros behind the digits, as long as they fit into 64
bits. -/
def growDigits (digits : Nat) : Nat → Nat × Nat
  | 0 => (digits, 0)
  | n + 1 =>
    if 0xFFFFFFFFFFFFFFFF / 10 ≤ digits then (digits, n + 1) else growDigits (digits * 10) n

/-- Takes zeros at the end of the digits away from the places of a negative exponent. -/
def shrinkDigits (digits : Nat) : Nat → Nat × Nat
  | 0 => (digits, 0)
  | n + 1 => if digits % 10 ≠ 0 then (digits, n + 1) else shrinkDigits (digits / 10) n

/-- The number that digits and a power of ten stand for. -/
def value (negative : Bool) (digits : Nat) (exponent : Int) : Binary64 :=
  if digits = 0 then Binary64.zero negative
  else
    let (digits, exponent) : Nat × Int :=
      if 0 ≤ exponent then
        let (digits, left) := growDigits digits exponent.toNat
        (digits, left)
      else
        let (digits, left) := shrinkDigits digits exponent.natAbs
        (digits, -left)
    (Scaled.ofDecimal digits exponent).toBinary64 negative

/-- The number that a decimal literal stands for. -/
def read (cs : List Char) : Binary64 :=
  let (negative, unsigned) := Number.splitSign cs
  let (before, after, rest) := Number.splitPoint unsigned
  let (digits, exponent) := takeWhole 0 0 before
  let (digits, exponent) := takePlaces digits exponent after
  value negative digits (exponent + writtenExponent (rest.drop 1))

end DatasetSync.Database.Numeral
