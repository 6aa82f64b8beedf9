/-
Double-precision numbers, exactly.

A number is its 64 bits: a sign, eleven bits of exponent and fifty-two of
fraction.  Every finite one is an integer times a power of two, so arithmetic
here is exact arithmetic on natural numbers followed by one rounding, to the
nearest double and on a tie to the one with the even last bit.  `ofQuotient` is
that rounding; products, quotients and decimal literals all end in it.
-/

namespace DatasetSync.Number

/-- A double-precision number, given by its bits. -/
structure Binary64 where
  bits : UInt64
deriving DecidableEq, Repr, Inhabited

namespace Binary64

/-! ### Powers

A power of two is a shift. -/

/-- The value of the sign's bit, `2 ^ 63`. -/
def signBit : Nat := 0x8000000000000000

/-- The value of the bit above the fraction, `2 ^ 52`. -/
def fractionEnd : Nat := 0x10000000000000

/-- A power of ten. -/
def tenTo (n : Nat) : Nat := Nat.pow 10 n

/-! ### Parts of a number -/

/-- The bits of a number, as a natural number. -/
def code (x : Binary64) : Nat :=
  x.bits.toNat

def isNegative (x : Binary64) : Bool :=
  signBit ≤ x.code

/-- The bits without the sign. -/
def magnitudeCode (x : Binary64) : Nat :=
  x.code % signBit

/-- The exponent field. -/
def exponentField (x : Binary64) : Nat :=
  x.magnitudeCode / fractionEnd

/-- The fraction field. -/
def fraction (x : Binary64) : Nat :=
  x.magnitudeCode % fractionEnd

/-- The magnitude of both infinities. -/
def infinityCode : Nat := 0x7FF0000000000000

def isNaN (x : Binary64) : Bool :=
  infinityCode < x.magnitudeCode

def isInfinite (x : Binary64) : Bool :=
  x.magnitudeCode == infinityCode

def isZero (x : Binary64) : Bool :=
  x.magnitudeCode == 0

/-- A finite magnitude is `significand * 2 ^ exponent / 2 ^ 1074`. -/
def significand (x : Binary64) : Nat :=
  if x.exponentField = 0 then x.fraction else fractionEnd + x.fraction

def exponent (x : Binary64) : Nat :=
  x.exponentField - 1

/-- A finite magnitude as a fraction over `2 ^ 1074`. -/
def numerator (x : Binary64) : Nat :=
  x.significand <<< x.exponent

/-- The common denominator of all finite magnitudes. -/
def denominator : Nat := 1 <<< 1074

/-! ### Making numbers -/

/-- The number with this sign and these other bits. -/
def ofParts (negative : Bool) (magnitude : Nat) : Binary64 :=
  ⟨((if negative then signBit else 0) + magnitude).toUInt64⟩

def infinity (negative : Bool) : Binary64 :=
  ofParts negative infinityCode

def zero (negative : Bool) : Binary64 :=
  ofParts negative 0

/-- The quotient rounded to a natural number, a tie to the even one. -/
def roundHalfEven (num den : Nat) : Nat :=
  let q := num / den
  let twice := 2 * (num % den)
  if twice < den then q
  else if den < twice then q + 1
  else q + q % 2

/-- The quotient rounded to a natural number, a tie upwards. -/
def roundHalfUp (num den : Nat) : Nat :=
  (2 * num + den) / (2 * den)

/-- The logarithm of `num / den` to base two, rounded down. -/
def floorLog (num den : Nat) : Int :=
  let k : Int := (Nat.log2 num : Int) - Nat.log2 den
  if den <<< k.toNat ≤ num <<< (-k).toNat then k else k - 1

/-- The bits of `num / den` rounded to the nearest magnitude.  With `2 ^ k` at most the quotient and
`2 ^ (k + 1)` above it, the last place is worth `2 ^ (k - 52)`, and never less than
`2 ^ (-1074)`; counted in that place the rounded quotient has at most 53 bits, and one that grows to
54 carries into the exponent by itself. -/
def magnitudeOfQuotient (num den : Nat) : Nat :=
  let place : Int := max (floorLog num den - 52) (-1074)
  let digits := roundHalfEven (num <<< (-place).toNat) (den <<< place.toNat)
  min infinityCode ((place + 1074).toNat * fractionEnd + digits)

/-- The number nearest to `num / den`, with the given sign. -/
def ofQuotient (negative : Bool) (num den : Nat) : Binary64 :=
  if num = 0 then zero negative else ofParts negative (magnitudeOfQuotient num den)

/-- The number nearest to a natural number. -/
def ofNat (n : Nat) : Binary64 :=
  ofQuotient false n 1

/-- The number nearest to an integer. -/
def ofInt (n : Int) : Binary64 :=
  ofQuotient (n < 0) n.natAbs 1

/-- The number nearest to `digits * 10 ^ exponent`.  The logarithm of the digits to base ten lies
between 0.3 times and, plus one, 0.31 times their binary one; when the value is thereby past
`10 ^ 400` it is an infinity and below `10 ^ (-400)` a zero, and no larger power is formed. -/
def ofDecimal (negative : Bool) (digits : Nat) (exponent : Int) : Binary64 :=
  let log : Int := Nat.log2 digits
  if digits = 0 then zero negative
  else if 400 < exponent + log * 3 / 10 then infinity negative
  else if exponent + log * 31 / 100 + 1 < -400 then zero negative
  else ofQuotient negative (digits * tenTo exponent.toNat) (tenTo (-exponent).toNat)

/-! ### Arithmetic -/

/-- The number with the other sign. -/
def neg (x : Binary64) : Binary64 :=
  ofParts (!x.isNegative) x.magnitudeCode

/-- The product of two finite numbers. -/
def mul (x y : Binary64) : Binary64 :=
  ofQuotient (x.isNegative != y.isNegative) (x.numerator * y.numerator)
    (denominator * denominator)

/-- The quotient of two finite numbers, the second not zero. -/
def div (x y : Binary64) : Binary64 :=
  ofQuotient (x.isNegative != y.isNegative) x.numerator y.numerator

/-- The finite number, if it is a whole one. -/
def toInt? (x : Binary64) : Option Int :=
  if infinityCode ≤ x.magnitudeCode then none
  else if x.numerator % denominator = 0 then
    let n : Int := (x.numerator / denominator : Nat)
    some (if x.isNegative then -n else n)
  else none

/-! ### Decimal text -/

/-- A natural number in units of `10 ^ (-places)`, with a point. -/
def pointed (places n : Nat) : String :=
  let digits := toString n
  if places = 0 then digits
  else
    let padded := String.ofList (List.replicate (places + 1 - digits.length) '0') ++ digits
    let cs := padded.toList
    String.ofList (cs.take (cs.length - places) ++ '.' :: cs.drop (cs.length - places))

/-- A finite magnitude with a fixed number of places, rounded from its exact value, a tie to the
even digit. -/
def fixed (places : Nat) (x : Binary64) : String :=
  (if x.isNegative then "-" else "") ++
    pointed places (roundHalfEven (x.numerator * tenTo places) denominator)

/-- The decimals with `count` significant digits that lie next to a magnitude, below and above, each
as an integer and the power of ten that it counts. -/
def neighbours (x : Binary64) (count : Nat) : List (Nat × Int) :=
  let num := x.numerator
  let size : Int := (Nat.toDigits 10 (num / denominator)).length
  let lead : Int :=
    if denominator ≤ num then size
    else
      -- one less than the power of ten of the first digit, searched downwards
      ((List.range 330).find? fun k => denominator ≤ num * tenTo (k + 1)).elim (-330)
        fun k => -(k : Int)
  let power : Int := lead - count
  let below := num * tenTo (-power).toNat / (denominator * tenTo power.toNat)
  [(below, power), (below + 1, power)]

/-- The decimal with the fewest digits that is read back as the same number; of two such, the
nearer. -/
def shortest (x : Binary64) : Nat × Int :=
  let readsBack (d : Nat × Int) : Bool := ofDecimal false d.1 d.2 == ofParts false x.magnitudeCode
  let distance (d : Nat × Int) : Nat :=
    let a := d.1 * tenTo d.2.toNat * denominator
    let b := x.numerator * tenTo (-d.2).toNat
    max a b - min a b
  let better (count : Nat) : Option (Nat × Int) :=
    match (neighbours x count).filter readsBack with
    | [] => none
    | [d] => some d
    | d :: e :: _ => some (if distance e < distance d then e else d)
  ((List.range 17).findSome? fun k => better (k + 1)).getD (0, 0)

/-- The shortest text that is read back as the same number, without an exponent and with a point. -/
def plain (x : Binary64) : String :=
  let sign := if x.isNegative then "-" else ""
  if x.isInfinite then sign ++ "inf"
  else if x.isZero then sign ++ "0.0"
  else
    let (digits, power) := shortest x
    sign ++
      (if 0 ≤ power then toString (digits * tenTo power.toNat) ++ ".0"
       else
        let places := (-power).toNat
        let trimmed := (pointed places digits).toList.reverse.dropWhile (· == '0')
        match trimmed with
        | '.' :: _ => String.ofList (('0' :: trimmed).reverse)
        | _ => String.ofList trimmed.reverse)

end Binary64
end DatasetSync.Number
