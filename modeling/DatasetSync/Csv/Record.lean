/-
Records of a comma-separated text.

A comma ends a field; a carriage return or a line feed ends a record, so that
`CR LF` is one end followed by an empty line, and empty lines before a record are
passed over.  A double quote opens a quoted field only at the very start of the
field; inside, a doubled quote stands for one quote, and whatever follows the
closing quote up to the next comma or line end is taken as it is.  The end of
the text ends whatever is open.

Each record remembers where its reading began: the bytes before it and one more
than the line feeds among them.  Reading begins right behind the byte that ended
the record before, so the empty lines that are passed over do not count yet.
-/
namespace DatasetSync.Csv

def comma : UInt8 := 0x2C
def quote : UInt8 := 0x22
def carriageReturn : UInt8 := 0x0D
def lineFeed : UInt8 := 0x0A

/-- A byte that ends a record. -/
def isTerminator (b : UInt8) : Bool :=
  b == carriageReturn || b == lineFeed

/-- A place in the text. -/
structure Position where
  /-- One more than the number of line feeds before. -/
  line : Nat := 1
  /-- The number of bytes before. -/
  byte : Nat := 0
deriving DecidableEq, Repr

/-- The place behind one more byte. -/
def Position.after (p : Position) (b : UInt8) : Position :=
  ⟨if b == lineFeed then p.line + 1 else p.line, p.byte + 1⟩

/-- The fields of one record and where its reading began. -/
structure Record where
  start : Position
  fields : List (List UInt8)
deriving DecidableEq, Repr

/-- How far a field has been read. -/
inductive Place
  /-- Nothing of the field was read. -/
  | fieldStart
  /-- In a field, or in what follows its closing quote. -/
  | plain
  /-- Between quotes. -/
  | quoted
  /-- Behind a quote that closes the field unless another follows. -/
  | quoteSeen
deriving DecidableEq, Repr

/-- What one byte means at a place in a field. -/
inductive Effect
  /-- The byte belongs to the field. -/
  | keep (next : Place)
  /-- The byte is a quote that only delimits. -/
  | drop (next : Place)
  | endField
  | endRecord

/-- The quoting rules, one byte at a time. -/
def effect (place : Place) (b : UInt8) : Effect :=
  match place with
  | .quoted => if b == quote then .drop .quoteSeen else .keep .quoted
  | .fieldStart =>
    if b == quote then .drop .quoted
    else if b == comma then .endField
    else if isTerminator b then .endRecord
    else .keep .plain
  | .plain =>
    if b == comma then .endField
    else if isTerminator b then .endRecord
    else .keep .plain
  | .quoteSeen =>
    if b == quote then .keep .quoted
    else if b == comma then .endField
    else if isTerminator b then .endRecord
    else .keep .plain

/-- What a read of one record leaves: its fields, the rest of the text and the place of the rest. -/
structure Scan where
  fields : List (List UInt8)
  rest : List UInt8
  position : Position

/-- Reads to the end of a record.  `field` and `fields` hold what is read so far, the newest
first. -/
def scan (place : Place) (field : List UInt8) (fields : List (List UInt8)) (position : Position) :
    List UInt8 → Scan
  | [] => ⟨(field.reverse :: fields).reverse, [], position⟩
  | b :: rest =>
    match effect place b with
    | .keep next => scan next (b :: field) fields (position.after b) rest
    | .drop next => scan next field fields (position.after b) rest
    | .endField => scan .fieldStart [] (field.reverse :: fields) (position.after b) rest
    | .endRecord => ⟨(field.reverse :: fields).reverse, rest, position.after b⟩

/-- Passes over the line ends before a record. -/
def skipTerminators (position : Position) : List UInt8 → List UInt8 × Position
  | [] => ([], position)
  | b :: rest =>
    if isTerminator b then skipTerminators (position.after b) rest else (b :: rest, position)

theorem scan_rest_le (place : Place) (field : List UInt8) (fields : List (List UInt8))
    (position : Position) (bytes : List UInt8) :
    (scan place field fields position bytes).rest.length ≤ bytes.length := by
  induction bytes generalizing place field fields position with
  | nil => simp [scan]
  | cons b rest ih =>
    unfold scan
    split
    · exact Nat.le_succ_of_le (ih ..)
    · exact Nat.le_succ_of_le (ih ..)
    · exact Nat.le_succ_of_le (ih ..)
    · simp

/-- A record that begins with a byte takes at least that byte. -/
theorem scan_rest_lt (place : Place) (field : List UInt8) (fields : List (List UInt8))
    (position : Position) (b : UInt8) (rest : List UInt8) :
    (scan place field fields position (b :: rest)).rest.length < (b :: rest).length := by
  rw [List.length_cons]
  unfold scan
  split
  · exact Nat.lt_succ_of_le (scan_rest_le ..)
  · exact Nat.lt_succ_of_le (scan_rest_le ..)
  · exact Nat.lt_succ_of_le (scan_rest_le ..)
  · simp

theorem skipTerminators_le (position : Position) (bytes : List UInt8) :
    (skipTerminators position bytes).1.length ≤ bytes.length := by
  induction bytes generalizing position with
  | nil => simp [skipTerminators]
  | cons b rest ih =>
    unfold skipTerminators
    split
    · exact Nat.le_succ_of_le (ih ..)
    · simp

/-- The records of a text whose reading goes on at `position`. -/
def recordsFrom (position : Position) (start : Position) (bytes : List UInt8) : List Record :=
  match _h : skipTerminators position bytes with
  | ([], _) => []
  | (b :: rest, behind) =>
    let read := scan .fieldStart [] [] behind (b :: rest)
    ⟨start, read.fields⟩ :: recordsFrom read.position read.position read.rest
termination_by bytes.length
decreasing_by
  have le := skipTerminators_le position bytes
  rw [_h] at le
  exact Nat.lt_of_lt_of_le (scan_rest_lt ..) le

/-- The three bytes of a byte-order mark. -/
def byteOrderMark : List UInt8 := [0xEF, 0xBB, 0xBF]

/-- The text without a byte-order mark in front. -/
def stripMark (bytes : List UInt8) : List UInt8 :=
  if byteOrderMark.isPrefixOf bytes then bytes.drop 3 else bytes

/-- The records of a text.  A byte-order mark in front is no part of the first record, but its bytes
count. -/
def records (bytes : List UInt8) : List Record :=
  if byteOrderMark.isPrefixOf bytes then recordsFrom ⟨1, 3⟩ ⟨1, 0⟩ (bytes.drop 3)
  else recordsFrom ⟨1, 0⟩ ⟨1, 0⟩ bytes

end DatasetSync.Csv
