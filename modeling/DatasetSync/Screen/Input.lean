/-
What the person at the terminal does.

A terminal reports keys, and also the pointer and changes of its size.  Two keys
mean something to a run: `q`, and `c` together with control.
-/

namespace DatasetSync.Screen

/-- Something that a terminal reports. -/
inductive Input
  /-- The key of a character, perhaps together with control. -/
  | key (key : Char) (control : Bool)
  /-- A key without a character, as an arrow. -/
  | otherKey
  | pointer
  | resize
deriving DecidableEq, Repr

namespace Input

/-- Whether the run shall stop. -/
def quits : Input → Bool
  | key k control => k = 'q' || (k = 'c' && control)
  | _ => false

/-- Whether a key was pressed. -/
def isKey : Input → Bool
  | key .. | otherKey => true
  | _ => false

/-- The key that sends a character of its own.  Control with a letter sends the place of the
letter in the alphabet, except where that is the code of another key. -/
def ofChar (c : Char) : Input :=
  if c = '\t' || c = '\r' || c = '\x7f' || c = '\x1b' then otherKey
  else if c = '\x00' then key ' ' true
  else if c.toNat ≤ 26 then key (Char.ofNat (c.toNat + 96)) true
  else if c.toNat < 32 then key (Char.ofNat (c.toNat + 24)) true
  else key c false

/-- The rest after the numbers and the last character of a key's sequence. -/
def afterSequence (cs : List Char) : List Char :=
  (cs.dropWhile fun c => !('@' ≤ c && c ≤ '~')).tail

theorem length_afterSequence (cs : List Char) : (afterSequence cs).length ≤ cs.length := by
  have dropped : (cs.dropWhile fun c => !('@' ≤ c && c ≤ '~')).length ≤ cs.length :=
    (List.dropWhile_sublist _).length_le
  simp only [afterSequence, List.length_tail]
  omega

/-- The keys behind the characters that a terminal sent.  An escape announces a sequence for one
key; before any other character it stands for the alternate key held together with it. -/
def ofTyped : List Char → List Input
  | [] => []
  | '\x1b' :: '[' :: rest =>
    have _ := length_afterSequence rest
    otherKey :: ofTyped (afterSequence rest)
  | '\x1b' :: 'O' :: _ :: rest => otherKey :: ofTyped rest
  | '\x1b' :: c :: rest => ofChar c :: ofTyped rest
  | c :: rest => ofChar c :: ofTyped rest
termination_by cs => cs.length
decreasing_by all_goals simp only [List.length_cons]; omega

end Input

end DatasetSync.Screen
