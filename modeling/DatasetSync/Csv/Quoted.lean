/-
Records written with every field in quotes.

Between quotes a field can hold anything, commas and line ends included; only a quote
inside it is written twice.  Lines end in one of three ways, and empty lines may stand
in front of a record and at the end of the text.
-/
import DatasetSync.Csv.Record

namespace DatasetSync.Csv

/-- The ends of lines that are in use. -/
inductive LineEnd
  | lineFeed
  | carriageReturn
  /-- A carriage return and a line feed. -/
  | both
deriving DecidableEq, Repr

/-- The bytes of a line end. -/
def LineEnd.bytes : LineEnd → List UInt8
  | .lineFeed => [Csv.lineFeed]
  | .carriageReturn => [Csv.carriageReturn]
  | .both => [Csv.carriageReturn, Csv.lineFeed]

/-- The bytes of some line ends, one behind the other. -/
def lineEnds (ends : List LineEnd) : List UInt8 :=
  ends.flatMap LineEnd.bytes

/-- A field with its quotes written twice. -/
def doubled (field : List UInt8) : List UInt8 :=
  field.flatMap fun b => if b = quote then [quote, quote] else [b]

/-- A field in quotes. -/
def quotedField (field : List UInt8) : List UInt8 :=
  quote :: doubled field ++ [quote]

/-- Fields in quotes, with commas between them. -/
def quotedFields : List (List UInt8) → List UInt8
  | [] => []
  | [field] => quotedField field
  | field :: rest => quotedField field ++ comma :: quotedFields rest

/-- A record, the empty lines in front of it, and how its own line ends. -/
structure Line where
  blank : List LineEnd := []
  fields : List (List UInt8)
  ending : LineEnd := .lineFeed
deriving DecidableEq, Repr

def Line.bytes (line : Line) : List UInt8 :=
  lineEnds line.blank ++ quotedFields line.fields ++ line.ending.bytes

/-- The text of some lines, with or without a byte-order mark, and with empty lines at the end. -/
def written (mark : Bool) (lines : List Line) (blank : List LineEnd) : List UInt8 :=
  (if mark then byteOrderMark else []) ++ lines.flatMap Line.bytes ++ lineEnds blank

example :
    written true [⟨[.both], [[0x61], [quote]], .carriageReturn⟩] [] =
      byteOrderMark ++
        [0x0D, 0x0A, quote, 0x61, quote, comma, quote, quote, quote, quote, 0x0D] := by
  decide

end DatasetSync.Csv
