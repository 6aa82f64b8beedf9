/-
Tables defined by hand.

The definition of a table's columns as a person writes it: each column's name, the words
of its type and the conditions for its values, and commas in between.  Quotes stand
around names and texts, with an inner quote doubled.

Conditions that stand apart from the columns, expressions in brackets, and references to
other tables are passed over.
-/
import DatasetSync.Database.Basic

namespace DatasetSync.Database

open Text (sameName)

/-! ### Pieces -/

/-- A piece of a definition. -/
inductive Token
  | word (text : String)
  /-- A name or a text, without its quotes. -/
  | quoted (text : String)
  | opening
  | closing
  | comma
deriving DecidableEq, Repr

/-- What is under way, with its characters, the newest first. -/
inductive Reading
  | word (done : List Char)
  /-- Something in quotes that a character closes. -/
  | quoted (closing : Char) (done : List Char)
  /-- The same behind that character: if it comes once more, it is one of the text. -/
  | quoteSeen (closing : Char) (done : List Char)

/-- A character that may stand in a bare word. -/
def isWordPart (c : Char) : Bool :=
  isNamePart c || 0x80 ≤ c.toNat || ['$', '+', '-', '.', '='].contains c

/-- The piece that was under way. -/
def Reading.ended : Reading → List Token
  | word done => if done.isEmpty then [] else [.word (String.ofList done.reverse)]
  | quoted _ done | quoteSeen _ done => [.quoted (String.ofList done.reverse)]

/-- A character outside of words and quotes. -/
def beginToken (c : Char) : List Token × Reading :=
  if c = '"' || c = '\'' || c = '`' then ([], .quoted c [])
  else if c = '[' then ([], .quoted ']' [])
  else if c = '(' then ([.opening], .word [])
  else if c = ')' then ([.closing], .word [])
  else if c = ',' then ([.comma], .word [])
  else if isWordPart c then ([], .word [c])
  else ([], .word [])

/-- What was under way ends, and a character follows. -/
def Reading.leave (reading : Reading) (c : Char) : List Token × Reading :=
  let (tokens, next) := beginToken c
  (reading.ended ++ tokens, next)

/-- One more character: the pieces that it completes, and what is under way behind it. -/
def Reading.step (reading : Reading) (c : Char) : List Token × Reading :=
  match reading with
  | .word done => if isWordPart c then ([], .word (c :: done)) else reading.leave c
  | .quoted closing done =>
    ([], if c = closing then .quoteSeen closing done else .quoted closing (c :: done))
  | .quoteSeen closing done =>
    if c = closing then ([], .quoted closing (c :: done)) else reading.leave c

/-- The pieces of a text behind what is under way. -/
def tokensFrom (reading : Reading) : List Char → List Token
  | [] => reading.ended
  | c :: rest =>
    let (tokens, next) := reading.step c
    tokens ++ tokensFrom next rest

/-- The pieces of a text. -/
def tokens (text : String) : List Token :=
  tokensFrom (.word []) text.toList

/-- The text of a piece. -/
def Token.text : Token → String
  | word s | quoted s => s
  | opening => "("
  | closing => ")"
  | comma => ","

/-- A bare word without regard to case; a quoted one is no keyword. -/
def Token.keyword : Token → String
  | word s => Text.fold s
  | _ => ""

/-! ### Columns -/

/-- The words that conditions begin with, and so end the type before them. -/
def conditionWords : List String :=
  ["constraint", "primary", "not", "null", "unique", "check", "default", "collate", "references",
    "generated", "as"]

/-- The collation of a name. -/
def Collation.named (name : String) : Collation :=
  if sameName name "nocase" then .nocase
  else if sameName name "rtrim" then .rtrim
  else .binary

/-- The value that a piece stands for. -/
def Token.literal : Token → Value
  | word s => if sameName s "null" then .null else numericText s
  | token => .text token.text

/-- What a reference to a table leads to, by the pieces behind the table's name. -/
def Reference.ofTokens : List Token → Reference
  | .opening :: name :: _ => .column name.text
  | _ => .key

/-- A column of a table with the condition that a piece begins, if it begins one. -/
def ColumnDef.withCondition (table : String) (c : ColumnDef) (token : Token)
    (behind : List Token) : ColumnDef :=
  match token.keyword, behind with
  | "not", next :: _ => if next.keyword = "null" then { c with notNull := true } else c
  | "primary", _ => { c with isKey := true }
  | "unique", _ => { c with isUnique := true }
  | "collate", name :: _ => { c with collation := .named name.text }
  | "default", .opening :: _ => c
  | "default", value :: _ => { c with preset := value.literal }
  | "references", parent :: rest =>
    if sameName parent.text table then { c with refersTo := some (.ofTokens rest) } else c
  | _, _ => c

/-- A column of a table with the conditions behind its type.  None begins inside of brackets. -/
def ColumnDef.withConditions (table : String) (depth : Nat) (c : ColumnDef) :
    List Token → ColumnDef
  | [] => c
  | .opening :: rest => withConditions table (depth + 1) c rest
  | .closing :: rest => withConditions table (depth - 1) c rest
  | token :: rest =>
    withConditions table depth (if depth = 0 then c.withCondition table token rest else c) rest

/-- A type as it is written: words, and what may stand in brackets behind them. -/
def typeText (pieces : List Token) : String :=
  let isBare (token : Token) : Bool := token ≠ .opening
  " ".intercalate ((pieces.takeWhile isBare).map Token.text) ++
    String.join ((pieces.dropWhile isBare).map Token.text)

/-- The column of a table that one part of a definition is for. -/
def columnOf (table : String) : List Token → Option ColumnDef
  | [] => none
  | name :: rest =>
    let isType (token : Token) : Bool := token.keyword ∉ conditionWords
    let c : ColumnDef := { name := name.text, declared := typeText (rest.takeWhile isType) }
    if name.keyword ∈ "foreign" :: conditionWords then none
    else some (c.withConditions table 0 (rest.dropWhile isType))

/-- The parts of a definition, as the commas outside of brackets cut it. -/
def partsFrom (depth : Nat) (part : List Token) : List Token → List (List Token)
  | [] => [part.reverse]
  | .comma :: rest =>
    if depth = 0 then part.reverse :: partsFrom 0 [] rest
    else partsFrom depth (.comma :: part) rest
  | token :: rest =>
    let depth := match token with
      | .opening => depth + 1
      | .closing => depth - 1
      | _ => depth
    partsFrom depth (token :: part) rest

/-- The columns of a table that a definition is for. -/
def columnsOf (table : String) (pieces : List Token) : List ColumnDef :=
  (partsFrom 0 [] pieces).filterMap (columnOf table)

/-! ### Statements -/

/-- Creates a table with columns defined by hand. -/
def createTableAs (db : Database) (name definition : String) : Except Fault Database := do
  let statement := "CREATE TABLE " ++ Statement.quoteName name ++ " (" ++ definition ++ ")"
  db.checkNewName name statement 13
  let columns := columnsOf name (tokens definition)
  checkColumns name statement [] (columns.map fun c => (c.name, 0))
  return { db with tables := db.tables ++ [{ name, columns, definition := statement }] }

/-- Inserts one row, given as texts, into the table of a name. -/
def insertTexts (db : Database) (name : String) (cells : List (Option String)) :
    Except Fault Database :=
  match db.table? name with
  | none =>
    match db.view? name, objectList? name with
    | some v, _ => .error (.viewNotWritten v.name)
    | none, some list => .error (.systemTableNotWritten list)
    | none, none => .error (.noSuchTable name)
  | some t =>
    if cells.length ≠ t.columns.length then
      .error (.valueCount name t.columns.length cells.length)
    else do return db.putTable (← t.insert (cells.map fun cell => cell.elim .null .text))

end DatasetSync.Database
