/-
Which lines of the log are shown.

A setting is a list of rules with commas between them.  A rule is a level, a part
of the program, or both with an equals sign; a part alone means every level.  Of
the rules that cover a line the one that names the longest path decides, and a
line that no rule covers is not shown.  A setting without rules shows errors.
-/
import DatasetSync.Files.Path
import DatasetSync.Log
import DatasetSync.Text.Blank

namespace DatasetSync

/-- A rule: for the parts of the program below a path, how far down lines are shown. -/
structure LogRule where
  path : String
  depth : Nat
deriving DecidableEq, Repr

/-- Rules, in the order in which they were given. -/
abbrev LogFilter := List LogRule

namespace LogFilter

/-- How far down a word or a digit reaches. -/
def depth? (word : String) : Option Nat :=
  [("off", 0), ("0", 0), ("error", 1), ("1", 1), ("warn", 2), ("2", 2), ("info", 3), ("3", 3),
    ("debug", 4), ("4", 4), ("trace", 5), ("5", 5)].lookup (Text.fold word)

/-- Reads one rule. -/
def rule? (text : String) : Option LogRule :=
  match Path.splitOn '=' text.toList with
  | [word] =>
    match depth? (String.ofList word) with
    | some depth => some ⟨"", depth⟩
    | none => some ⟨String.ofList word, 5⟩
  | [path, word] => (depth? (String.ofList word)).map fun depth => ⟨String.ofList path, depth⟩
  | _ => none

/-- Reads a setting. -/
def parse (text : String) : Option LogFilter :=
  let rules := ((Path.splitOn ',' text.toList).filter fun part => !part.isEmpty).mapM fun part =>
    rule? (String.ofList part)
  rules.map fun rules => if rules.isEmpty then [⟨"", 1⟩] else rules

/-- The rule that decides about a part of the program: of the longest paths the last given. -/
def deciding? (filter : LogFilter) (component : Component) : Option LogRule :=
  (filter.filter fun r => r.path.toList.isPrefixOf component.path.toList).foldl (fun best r =>
    match best with
    | none => some r
    | some b => if b.path.length ≤ r.path.length then some r else some b) none

/-- The line is shown. -/
def shows (filter : LogFilter) (line : LogLine) : Bool :=
  match filter.deciding? line.component with
  | some r => line.level.depth ≤ r.depth
  | none => false

/-- The filter in effect: the setting if it can be read, and otherwise everything down to `INFO`, or
to `DEBUG` when more is asked for. -/
def inEffect (setting : Option String) (verbose : Bool) : LogFilter :=
  (setting.bind parse).getD [⟨"", if verbose then 4 else 3⟩]

end LogFilter
end DatasetSync
