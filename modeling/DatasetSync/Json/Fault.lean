/-
What can be wrong with a JSON text, and where.

A fault is noticed at a place: the line, counted from one, and the number of
bytes of that line that were looked at.
-/
import DatasetSync.Text.Quoted
import DatasetSync.Number.Binary64
namespace DatasetSync.Json

/-- A value that stands where another kind of value is expected. -/
inductive Unexpected
  | integer (value : Int)
  | floating (value : Number.Binary64)
  | boolean (value : Bool)
  | string (value : String)
  | null
  | map
  | sequence
deriving DecidableEq, Repr

/-- The value as a message names it. -/
def Unexpected.describe : Unexpected → String
  | integer value => "integer `" ++ toString value ++ "`"
  | floating value => "floating point `" ++ value.plain ++ "`"
  | boolean value => "boolean `" ++ toString value ++ "`"
  | string value => "string " ++ Text.quoted value
  | null => "null"
  | map => "map"
  | sequence => "sequence"

/-- What is wrong. -/
inductive Problem
  | eofInValue
  | eofInObject
  | eofInList
  | eofInString
  | expectedValue
  | expectedColon
  | expectedObjectCommaOrEnd
  | expectedListCommaOrEnd
  | expectedIdent
  | trailingComma
  | trailingCharacters
  | keyNotAString
  | invalidNumber
  | numberOutOfRange
  | invalidEscape
  | unexpectedEndOfHexEscape
  | loneSurrogate
  | controlCharacter
  | invalidType (found : Unexpected) (expected : String)
  | invalidLength (length : Nat) (expected : String)
  | missingField (name : String)
  | duplicateField (name : String)
deriving DecidableEq, Repr

/-- What is wrong, in words. -/
def Problem.message : Problem → String
  | eofInValue => "EOF while parsing a value"
  | eofInObject => "EOF while parsing an object"
  | eofInList => "EOF while parsing a list"
  | eofInString => "EOF while parsing a string"
  | expectedValue => "expected value"
  | expectedColon => "expected `:`"
  | expectedObjectCommaOrEnd => "expected `,` or `\x7d`"
  | expectedListCommaOrEnd => "expected `,` or `]`"
  | expectedIdent => "expected ident"
  | trailingComma => "trailing comma"
  | trailingCharacters => "trailing characters"
  | keyNotAString => "key must be a string"
  | invalidNumber => "invalid number"
  | numberOutOfRange => "number out of range"
  | invalidEscape => "invalid escape"
  | unexpectedEndOfHexEscape => "unexpected end of hex escape"
  | loneSurrogate => "lone leading surrogate in hex escape"
  | controlCharacter => "control character (\\u0000-\\u001F) found while parsing a string"
  | invalidType found expected => "invalid type: " ++ found.describe ++ ", expected " ++ expected
  | invalidLength length expected =>
    "invalid length " ++ toString length ++ ", expected " ++ expected
  | missingField name => "missing field `" ++ name ++ "`"
  | duplicateField name => "duplicate field `" ++ name ++ "`"

/-- A problem and the place where it is noticed. -/
structure Fault where
  problem : Problem
  line : Nat
  column : Nat
deriving DecidableEq, Repr

/-- The message of a fault. -/
def Fault.message (f : Fault) : String :=
  f.problem.message ++ " at line " ++ toString f.line ++ " column " ++ toString f.column

end DatasetSync.Json
