/-
Reading arguments by a table.

An option has a long name, and perhaps a letter; letters can be written together
behind one dash.  A value follows as the next argument or is attached: behind an
equals sign or, to a letter, directly.  A list is split at commas and can be
continued by naming the option again; anything else is named once.  Behind a
double dash everything is a positional value.  What is not given may come from an
environment variable or has a default.

A value is looked at only when the next argument begins, or at the end, so that an
argument nobody knows is complained about before a bad value in front of it.
-/
import DatasetSync.Files.Path

namespace DatasetSync.CommandLine

/-- Why arguments are not understood, or what else they ask for. -/
inductive UsageFault
  | help
  | version
  /-- Nothing was given where something is required. -/
  | nothingGiven
  | noCommand
  | unknownCommand
  | unknownArgument
  | missingArgument
  /-- A value is empty or missing. -/
  | badValue
  /-- A value is attached to an option that takes none. -/
  | needlessValue
  /-- An option is repeated, or excludes another. -/
  | conflict
deriving DecidableEq, Repr

/-- The exit code of a command line that is not understood. -/
def UsageFault.exitCode : UsageFault → Nat
  | help => 0
  | version => 0
  | _ => 2

/-- What a person is told whose command line is not understood. -/
def UsageFault.message : UsageFault → String
  | help => "dataset-sync COMMAND [OPTION]... [ARGUMENT]..."
  | version => ""
  | nothingGiven => "nothing to do"
  | noCommand => "a command is missing"
  | unknownCommand => "no such command"
  | unknownArgument => "an argument is not understood"
  | missingArgument => "an argument is missing"
  | badValue => "a value is empty or missing"
  | needlessValue => "an option is given a value that it does not take"
  | conflict => "options are repeated or exclude each other"

/-- What an argument says something about. -/
inductive Key
  | help
  | version
  | verbose
  | only
  | without
  | manifest
  | force
  | cacheDirectory
  | noCache
  | failFast
  | dashboard
  | json
  | inputDirectory
  | database
deriving DecidableEq, Repr

/-- What an option takes: nothing, a path, or a list of names. -/
inductive Arity
  | flag
  | path
  | list
deriving DecidableEq, Repr

/-- An option, or with neither name nor letter a positional value. -/
structure Arg where
  key : Key
  arity : Arity
  long : Option String := none
  letter : Option Char := none
  /-- The environment variable that stands in for it. -/
  environment : Option String := none
  default : Option String := none
  required : Bool := false
deriving DecidableEq, Repr

/-- What a command takes. -/
structure Grammar where
  options : List Arg
  positionals : List Arg := []
  /-- Two arguments that exclude each other. -/
  exclusive : Option (Key × Key) := none
deriving DecidableEq, Repr

/-- What was given, under its key; a flag has no values. -/
abbrev Given := List (Key × List String)

namespace Given

def has (given : Given) (key : Key) : Bool :=
  given.any fun entry => entry.1 == key

/-- The values of an argument, if it was given. -/
def values? (given : Given) (key : Key) : Option (List String) :=
  given.lookup key

/-- The value of an argument that has one. -/
def value? (given : Given) (key : Key) : Option String :=
  (given.values? key).bind List.head?

/-- Adds values behind those that an argument has. -/
def append (given : Given) (key : Key) (values : List String) : Given :=
  if given.has key then
    given.map fun entry => if entry.1 = key then (key, entry.2 ++ values) else entry
  else given ++ [(key, values)]

end Given

/-- How far the arguments have been read. -/
structure Reader where
  given : Given := []
  /-- An argument whose values have not been looked at. -/
  pending : Option (Arg × List String) := none
  /-- The next argument is the value of the pending option. -/
  awaiting : Bool := false
  /-- How many positional values there were. -/
  placed : Nat := 0
  /-- A double dash was seen. -/
  onlyPositional : Bool := false

/-- The texts between commas. -/
def splitList (value : String) : List String :=
  (Path.splitOn ',' value.toList).map String.ofList

/-- Takes an argument with its values. -/
def Given.accept (given : Given) (arg : Arg) (values : List String) : Except UsageFault Given :=
  match arg.key with
  | .help => .error .help
  | .version => .error .version
  | key =>
    match arg.arity with
    | .flag => if given.has key then .error .conflict else .ok (given.append key [])
    | .path =>
      if values.isEmpty then .error .badValue
      else if given.has key then .error .conflict
      else if values.any String.isEmpty then .error .badValue
      else .ok (given.append key values)
    | .list =>
      if values.isEmpty then .error .badValue
      else .ok (given.append key (values.flatMap splitList))

namespace Reader

/-- Looks at the values that were put off. -/
def settle (r : Reader) : Except UsageFault Reader :=
  match r.pending with
  | none => .ok r
  | some (arg, values) => do
    return { r with given := ← r.given.accept arg values, pending := none, awaiting := false }

/-- Takes an argument at once. -/
def accept (r : Reader) (arg : Arg) (values : List String) : Except UsageFault Reader := do
  let r ← r.settle
  return { r with given := ← r.given.accept arg values }

/-- Takes an option and puts off its value. -/
def await (r : Reader) (arg : Arg) : Except UsageFault Reader := do
  return { (← r.settle) with pending := some (arg, []), awaiting := true }

/-- Reads an option by its long name, with the value attached to it. -/
def long (grammar : Grammar) (r : Reader) (name : String) (value : Option String) :
    Except UsageFault Reader :=
  match grammar.options.find? fun arg => arg.long == some name with
  | none => .error .unknownArgument
  | some arg =>
    match arg.arity, value with
    | .flag, some _ => .error .needlessValue
    | .flag, none => r.accept arg []
    | _, some value => r.accept arg [value]
    | _, none => r.await arg

/-- Reads the letters behind a dash. -/
def letters (grammar : Grammar) (r : Reader) : List Char → Except UsageFault Reader
  | [] => .ok r
  | c :: rest =>
    match grammar.options.find? fun arg => arg.letter == some c with
    | none => .error .unknownArgument
    | some arg =>
      match arg.arity, rest with
      | .flag, _ => do (← r.accept arg []).letters grammar rest
      | _, [] => r.await arg
      | _, '=' :: value => r.accept arg [String.ofList value]
      | _, value => r.accept arg [String.ofList value]

/-- Reads a positional value. -/
def position (grammar : Grammar) (r : Reader) (value : String) : Except UsageFault Reader :=
  match grammar.positionals[r.placed]? with
  | none => .error .unknownArgument
  | some arg => do
    return { (← r.settle) with pending := some (arg, [value]), placed := r.placed + 1 }

/-- Splits an argument at its first equals sign. -/
def splitValue (cs : List Char) : String × Option String :=
  let name := String.ofList (cs.takeWhile (· != '='))
  match cs.dropWhile (· != '=') with
  | [] => (name, none)
  | _ :: value => (name, some (String.ofList value))

/-- Reads one argument. -/
def argument (grammar : Grammar) (r : Reader) (text : String) : Except UsageFault Reader :=
  if r.onlyPositional then r.position grammar text
  else
    match text.toList with
    | ['-', '-'] => .ok { r with onlyPositional := true, awaiting := false }
    | '-' :: '-' :: cs =>
      let (name, value) := splitValue cs
      r.long grammar name value
    | '-' :: c :: cs => r.letters grammar (c :: cs)
    | _ =>
      match r.awaiting, r.pending with
      | true, some (arg, values) =>
        .ok { r with pending := some (arg, values ++ [text]), awaiting := false }
      | _, _ => r.position grammar text

/-- Takes from the environment what was not given. -/
def fromEnvironment (environment : List (String × String)) (given : Given) :
    List Arg → Except UsageFault Given
  | [] => .ok given
  | arg :: rest => do
    let value := arg.environment.bind fun name => environment.lookup name
    match given.has arg.key, value with
    | false, some value => fromEnvironment environment (← given.accept arg [value]) rest
    | _, _ => fromEnvironment environment given rest

/-- Refuses what excludes each other, and a lack of what is required. -/
def validate (grammar : Grammar) (given : Given) : Except UsageFault Unit :=
  match grammar.exclusive with
  | some (a, b) => if given.has a && given.has b then .error .conflict else checkRequired
  | none => checkRequired
where
  checkRequired : Except UsageFault Unit :=
    if grammar.positionals.any fun arg => arg.required && !given.has arg.key then
      .error .missingArgument
    else .ok ()

/-- Puts defaults in the place of what was not given. -/
def withDefaults (given : Given) (args : List Arg) : Given :=
  args.foldl (fun given arg =>
    match given.has arg.key, arg.default with
    | false, some value => given.append arg.key [value]
    | _, _ => given) given

/-- Reads arguments to the end. -/
def run (grammar : Grammar) (environment : List (String × String)) (args : List String) :
    Except UsageFault Given := do
  let r ← args.foldlM (fun r text => argument grammar r text) ({} : Reader)
  let r ← r.settle
  let all := grammar.options ++ grammar.positionals
  let given ← fromEnvironment environment r.given all
  validate grammar given
  return withDefaults given all

end Reader
end DatasetSync.CommandLine
