/-
Statements read back from their texts.

A statement is cut into words, marks and names.  A name stands in double quotes, where
a doubled quote is one quote of the name and a quote alone closes it; everything else in
quotes belongs to the name.  Outside of quotes there are words, blanks and a few marks,
and any other character is refused.  From the pieces a definition gives the schema again,
and an insertion its table, its columns and the places of its values.

The rule is about quotes only: that the database takes a text to end at its first NUL is no
part of it.
-/
import DatasetSync.Database.Statement
import DatasetSync.Source.Basic

namespace DatasetSync.Statement

/-! ### Pieces -/

/-- A piece of a statement. -/
inductive Token
  /-- A name, without its quotes. -/
  | name (text : String)
  | word (text : String)
  | opening
  | closing
  | comma
  /-- The place of a value. -/
  | place
deriving DecidableEq, Repr

/-- What the scanner is in.  The characters of a word or name are kept, the newest first. -/
inductive Inside
  | nothing
  | word (done : List Char)
  | name (done : List Char)
  /-- A name, behind a quote that closes it unless another one follows. -/
  | quoteSeen (done : List Char)
deriving DecidableEq, Repr

/-- What was under way up to here, if it can end here. -/
def Inside.ended : Inside → Option (List Token)
  | nothing => some []
  | word done => some [.word (String.ofList done.reverse)]
  | name _ => none
  | quoteSeen done => some [.name (String.ofList done.reverse)]

/-- A blank between pieces. -/
def isSpace (c : Char) : Bool :=
  c == ' ' || c == '\t' || c == '\n' || c == '\x0c' || c == '\r'

/-- A character outside of words and names. -/
def begin? (c : Char) : Option (List Token × Inside) :=
  if c = '"' then some ([], .name [])
  else if c = '(' then some ([.opening], .nothing)
  else if c = ')' then some ([.closing], .nothing)
  else if c = ',' then some ([.comma], .nothing)
  else if c = '?' then some ([.place], .nothing)
  else if isSpace c then some ([], .nothing)
  else if isNamePart c then some ([], .word [c])
  else none

/-- What was under way ends, and a character follows. -/
def Inside.leave (inside : Inside) (c : Char) : Option (List Token × Inside) :=
  match inside.ended, begin? c with
  | some before, some (tokens, next) => some (before ++ tokens, next)
  | _, _ => none

/-- One more character: the pieces that it completes, and what the scanner is in behind it. -/
def Inside.step (inside : Inside) (c : Char) : Option (List Token × Inside) :=
  match inside with
  | .nothing => begin? c
  | .word done => if isNamePart c then some ([], .word (c :: done)) else inside.leave c
  | .name done => some ([], if c = '"' then .quoteSeen done else .name (c :: done))
  | .quoteSeen done => if c = '"' then some ([], .name ('"' :: done)) else inside.leave c

/-- The pieces of a text. -/
def scan (inside : Inside) : List Char → Option (List Token)
  | [] => inside.ended
  | c :: rest =>
    match inside.step c with
    | some (tokens, next) => (scan next rest).map (tokens ++ ·)
    | none => none

/-- The pieces of a statement, or nothing if it is not made of pieces. -/
def tokens? (statement : String) : Option (List Token) :=
  scan .nothing statement.toList

/-! ### Statements -/

/-- The parts of a list in brackets, as its commas cut it, and the pieces behind it. -/
def takeList? : List Token → Option (List (List Token) × List Token)
  | .opening :: rest =>
    let items := rest.takeWhile (· ≠ .closing)
    match rest.dropWhile (· ≠ .closing) with
    | .closing :: behind => some (if items = [] then [] else items.splitOn .comma, behind)
    | _ => none
  | _ => none

/-- The type of a word. -/
def typeOf? (word : String) : Option ColumnType :=
  [ColumnType.integer, .real, .text].find? fun type => type.word == word

/-- The column of a part of a definition. -/
def columnOf? : List Token → Option Column
  | [.name name, .word type] => (typeOf? type).map (⟨name, ·, true⟩)
  | [.name name, .word type, .word "NOT", .word "NULL"] => (typeOf? type).map (⟨name, ·, false⟩)
  | _ => none

/-- The name of a part that is one name. -/
def nameOf? : List Token → Option String
  | [.name name] => some name
  | _ => none

/-- The schema that a statement creates a table for. -/
def schemaOf? (statement : String) : Option Schema := do
  match ← tokens? statement with
  | .word "CREATE" :: .word "TABLE" :: .name table :: rest =>
    let (parts, []) ← takeList? rest | none
    return ⟨table, ← parts.mapM columnOf?⟩
  | _ => none

/-- What a statement inserts: into which table and columns, and how many values. -/
structure Insertion where
  table : String
  columns : List String
  values : Nat
deriving DecidableEq, Repr

/-- What a statement inserts. -/
def insertionOf? (statement : String) : Option Insertion := do
  match ← tokens? statement with
  | .word "INSERT" :: .word "INTO" :: .name table :: rest =>
    let (columns, .word "VALUES" :: behind) ← takeList? rest | none
    let (values, []) ← takeList? behind | none
    if values.all (· = [.place]) then
      return ⟨table, ← columns.mapM nameOf?, values.length⟩
    else none
  | _ => none

end DatasetSync.Statement
