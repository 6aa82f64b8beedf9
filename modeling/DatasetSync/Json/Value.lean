/-
JSON values and their text.

A value is written either compactly, without a blank, or laid out over lines with
two blanks for each level of nesting.  Both layouts write a text in double
quotes, where a quote, a backslash and the control characters are escaped.
-/
namespace DatasetSync.Json

/-- A JSON value made of texts. -/
inductive Value
  | string (s : String)
  | array (items : List Value)
  | object (fields : List (String × Value))
deriving Repr

/-! ### Texts -/

/-- One character inside quotes. -/
def escapedChar (c : Char) : List Char :=
  match c with
  | '"' => ['\\', '"']
  | '\\' => ['\\', '\\']
  | '\x08' => ['\\', 'b']
  | '\x0c' => ['\\', 'f']
  | '\n' => ['\\', 'n']
  | '\r' => ['\\', 'r']
  | '\t' => ['\\', 't']
  | _ =>
    if c.toNat < 0x20 then
      ['\\', 'u', '0', '0', Nat.digitChar (c.toNat / 16), Nat.digitChar (c.toNat % 16)]
    else [c]

/-- A text in quotes. -/
def writeString (s : String) : String :=
  String.ofList ('"' :: s.toList.flatMap escapedChar ++ ['"'])

/-! ### Compact layout -/

mutual

/-- A value without any blanks. -/
def compact : Value → String
  | .string s => writeString s
  | .array items => "[" ++ compactItems items ++ "]"
  | .object fields => "\x7b" ++ compactFields fields ++ "\x7d"

/-- Values with commas between them. -/
def compactItems : List Value → String
  | [] => ""
  | [item] => compact item
  | item :: rest => compact item ++ "," ++ compactItems rest

/-- Fields with commas between them. -/
def compactFields : List (String × Value) → String
  | [] => ""
  | [(key, value)] => writeString key ++ ":" ++ compact value
  | (key, value) :: rest => writeString key ++ ":" ++ compact value ++ "," ++ compactFields rest

end

/-! ### Layout over lines -/

/-- The start of a line at a level of nesting. -/
def newline (depth : Nat) : String :=
  String.ofList ('\n' :: List.replicate (2 * depth) ' ')

mutual

/-- A value that begins at a level of nesting.  What is empty stays on one line. -/
def pretty (depth : Nat) : Value → String
  | .string s => writeString s
  | .array [] => "[]"
  | .array (item :: rest) =>
    "[" ++ newline (depth + 1) ++ pretty (depth + 1) item ++ prettyItems (depth + 1) rest ++
      newline depth ++ "]"
  | .object [] => "\x7b\x7d"
  | .object ((key, value) :: rest) =>
    "\x7b" ++ newline (depth + 1) ++ writeString key ++ ": " ++ pretty (depth + 1) value ++
      prettyFields (depth + 1) rest ++ newline depth ++ "\x7d"

/-- The values after the first. -/
def prettyItems (depth : Nat) : List Value → String
  | [] => ""
  | item :: rest => "," ++ newline depth ++ pretty depth item ++ prettyItems depth rest

/-- The fields after the first. -/
def prettyFields (depth : Nat) : List (String × Value) → String
  | [] => ""
  | (key, value) :: rest =>
    "," ++ newline depth ++ writeString key ++ ": " ++ pretty depth value ++
      prettyFields depth rest

end

end DatasetSync.Json
