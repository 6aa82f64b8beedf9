/-
Addresses of the web.

Before a request is sent its address is read and brought into a normal form: the
scheme and the host in lower case, the scheme's own port left out, `.` and `..`
in the path resolved, and characters that may not stand in an address written as
percent signs with two digits.  Only the schemes `http` and `https` can be asked.
-/
import DatasetSync.Files.Path
import DatasetSync.Network.Fault
import DatasetSync.Number.Literal
import DatasetSync.Text.Utf8

namespace DatasetSync.Network

/-- An address in its normal form. -/
structure Address where
  scheme : String
  /-- The name or number of the machine; some schemes do without. -/
  host : Option String
  text : String
deriving DecidableEq, Repr

namespace Address

/-! ### Characters -/

def isLetter (c : Char) : Bool :=
  ('a' ≤ c && c ≤ 'z') || ('A' ≤ c && c ≤ 'Z')

/-- A character of a scheme behind its first. -/
def isSchemePart (c : Char) : Bool :=
  isLetter c || Number.isDigit c || c == '+' || c == '-' || c == '.'

def isHex (c : Char) : Bool :=
  Number.isDigit c || ('a' ≤ c && c ≤ 'f') || ('A' ≤ c && c ≤ 'F')

/-- A byte as a percent sign and two digits. -/
def percent (b : UInt8) : List Char :=
  let digit (n : Nat) : Char := (Nat.digitChar n).toUpper
  ['%', digit (b.toNat / 16), digit (b.toNat % 16)]

/-- Writes control characters, those past ASCII and some others by their bytes. -/
def escape (others : String) (cs : List Char) : List Char :=
  cs.flatMap fun c =>
    if c.toNat < 0x20 || 0x7F ≤ c.toNat || others.toList.contains c then
      (Text.Utf8.encodeChar c).flatMap percent
    else [c]

/-- The characters that are escaped in a path. -/
def pathEscapes : String := " \"#<>?`\x7b\x7d"

/-- The characters that are escaped in a query. -/
def queryEscapes : String := " \"#<>'"

/-- The characters that are escaped in a fragment. -/
def fragmentEscapes : String := " \"<>`"

/-! ### Schemes -/

/-- The schemes whose addresses name a host, with their ports. -/
def webSchemes : List (String × Nat) :=
  [("http", 80), ("https", 443), ("ws", 80), ("wss", 443), ("ftp", 21)]

/-- The scheme of an address, in lower case, and what follows its colon. -/
def splitScheme (cs : List Char) : Option (String × List Char) :=
  match cs with
  | [] => none
  | c :: _ =>
    let scheme := cs.takeWhile isSchemePart
    match isLetter c, cs.drop scheme.length with
    | true, ':' :: rest => some (String.ofList (scheme.map Text.foldChar), rest)
    | _, _ => none

/-! ### Hosts -/

/-- A group of an IPv6 address: one to four hexadecimal digits. -/
def isIpv6Group (part : List Char) : Bool :=
  0 < part.length && part.length ≤ 4 && part.all isHex

/-- A number of an IPv4 address. -/
def isIpv4Part (part : List Char) : Bool :=
  !part.isEmpty && part.length ≤ 3 && part.all Number.isDigit && Number.digitsValue 0 part ≤ 255

/-- The number of groups in a part of an IPv6 address, the last of which may be an IPv4 address. -/
def ipv6Groups? (last : Bool) (cs : List Char) : Option Nat :=
  if cs.isEmpty then some 0
  else
    let groups := Path.splitOn ':' cs
    match groups.getLast? with
    | none => none
    | some tail =>
      let numbers := Path.splitOn '.' tail
      let endsInIpv4 := last && numbers.length == 4 && numbers.all isIpv4Part
      if endsInIpv4 && groups.dropLast.all isIpv6Group then some (groups.length + 1)
      else if groups.all isIpv6Group then some groups.length
      else none

/-- Splits at the first double colon. -/
def splitDoubleColon : List Char → Option (List Char × List Char)
  | ':' :: ':' :: rest => some ([], rest)
  | c :: rest => (splitDoubleColon rest).map fun (a, b) => (c :: a, b)
  | [] => none

/-- The text is an IPv6 address. -/
def isIpv6 (cs : List Char) : Bool :=
  match splitDoubleColon cs with
  | none => ipv6Groups? true cs == some 8
  | some (before, after) =>
    match ipv6Groups? false before, ipv6Groups? true after with
    | some m, some n => m + n ≤ 7
    | _, _ => false

/-- A character that no host name has. -/
def isForbiddenInHost (c : Char) : Bool :=
  c.toNat ≤ 0x20 || c.toNat == 0x7F || "#/:<>?@[\\]^|%\x7b\x7d\"`".toList.contains c

/-- Reads a host.  The hosts of web schemes are names in lower case or numbers; others are taken as
they are. -/
def readHost (web : Bool) (cs : List Char) : Except AddressFault String :=
  match cs with
  | [] => if web then .error .emptyHost else .ok ""
  | '[' :: rest =>
    if rest.getLast? == some ']' && isIpv6 rest.dropLast then
      .ok (String.ofList (cs.map Text.foldChar))
    else .error .invalidIpv6
  | _ =>
    if !web then .ok (String.ofList (escape "" cs))
    else if cs.any isForbiddenInHost then .error .invalidHost
    else
      let numbers := Path.splitOn '.' cs
      let looksNumeric := (numbers.getLast?).elim false fun p => !p.isEmpty && p.all Number.isDigit
      if looksNumeric && !(numbers.length == 4 && numbers.all isIpv4Part) then .error .invalidIpv4
      else .ok (String.ofList (cs.map Text.foldChar))

/-- Reads a port and leaves out the scheme's own. -/
def readPort (own : Option Nat) (cs : List Char) : Except AddressFault String :=
  if cs.isEmpty then .ok ""
  else if !cs.all Number.isDigit || 65535 < Number.digitsValue 0 cs then .error .invalidPort
  else
    let n := Number.digitsValue 0 cs
    .ok (if own = some n then "" else ":" ++ toString n)

/-- Splits a host from its port at the first colon outside brackets. -/
def splitPort (bracketed : Bool) : List Char → List Char × List Char
  | [] => ([], [])
  | c :: rest =>
    if c = ':' ∧ !bracketed then ([], rest)
    else
      let inside := if c = '[' then true else if c = ']' then false else bracketed
      let (host, port) := splitPort inside rest
      (c :: host, port)

/-- What follows the last at sign.  In front of it stand the name and the password of a person,
which are no part of the address. -/
def afterUser (cs : List Char) : List Char :=
  (cs.reverse.takeWhile (· != '@')).reverse

/-! ### Paths -/

/-- Adds a part to the parts of a path, the last first; `..` takes the one before away. -/
def addPart (done : List (List Char)) (last : Bool) (part : List Char) : List (List Char) :=
  if part = ['.', '.'] then (if last then [] :: done.drop 1 else done.drop 1)
  else if part = ['.'] then (if last then [] :: done else done)
  else part :: done

/-- The parts of a path with `.` and `..` resolved. -/
def resolveParts (done : List (List Char)) : List (List Char) → List (List Char)
  | [] => done.reverse
  | part :: rest => resolveParts (addPart done rest.isEmpty part) rest

/-- A path in its normal form: always with a slash in front. -/
def normalPath (web : Bool) (cs : List Char) : List Char :=
  let cs := if web then cs.map fun c => if c = '\\' then '/' else c else cs
  let cs := match cs with
    | '/' :: rest => rest
    | cs => cs
  let parts := resolveParts [] ((Path.splitOn '/' cs).map (escape pathEscapes))
  parts.flatMap fun part => '/' :: part

/-- The query and the fragment behind a path, with their marks. -/
def normalTail (cs : List Char) : List Char :=
  let fragment := cs.dropWhile (· != '#')
  let query := cs.takeWhile (· != '#')
  let query := match query with
    | '?' :: rest => '?' :: escape queryEscapes rest
    | cs => cs
  let fragment := match fragment with
    | '#' :: rest => '#' :: escape fragmentEscapes rest
    | cs => cs
  query ++ fragment

/-- A character that ends a path. -/
def endsPath (c : Char) : Bool :=
  c == '?' || c == '#'

/-- A path with its query and fragment in their normal form. -/
def normalRest (web : Bool) (cs : List Char) : List Char :=
  let path := cs.takeWhile fun c => !endsPath c
  let path := if path.isEmpty && !web then [] else normalPath web path
  path ++ normalTail (cs.dropWhile fun c => !endsPath c)

/-! ### Reading an address -/

/-- Reads what follows the two slashes: a host and a path. -/
def readHierarchy (scheme : String) (web : Bool) (cs : List Char) :
    Except AddressFault Address := do
  let endsHost (c : Char) : Bool := c == '/' || endsPath c || (web && c == '\\')
  let (host, port) := splitPort false (afterUser (cs.takeWhile fun c => !endsHost c))
  let host ← readHost web host
  let port ← readPort (webSchemes.lookup scheme) port
  let rest := normalRest web (cs.dropWhile fun c => !endsHost c)
  return ⟨scheme, some host,
    scheme ++ "://" ++ host ++ port ++ String.ofList rest⟩

/-- Reads the address of a file. -/
def readFileAddress (cs : List Char) : Except AddressFault Address :=
  match cs with
  | '/' :: '/' :: rest => do
    let host ← readHost false (rest.takeWhile fun c => c != '/' && !endsPath c)
    let host := if host = "localhost" then "" else host
    let path := normalRest true (rest.dropWhile fun c => c != '/' && !endsPath c)
    return ⟨"file", none, "file://" ++ host ++ String.ofList path⟩
  | rest => .ok ⟨"file", none, "file://" ++ String.ofList (normalRest true rest)⟩

/-- Reads an address and brings it into its normal form. -/
def read (text : String) : Except AddressFault Address :=
  let isOuter (c : Char) : Bool := c.toNat ≤ 0x20
  let cs := ((text.toList.dropWhile isOuter).reverse.dropWhile isOuter).reverse
  let cs := cs.filter fun c => c != '\t' && c != '\n' && c != '\r'
  match splitScheme cs with
  | none => .error .relativeWithoutBase
  | some (scheme, rest) =>
    if (webSchemes.lookup scheme).isSome then
      readHierarchy scheme true (rest.dropWhile fun c => c == '/' || c == '\\')
    else if scheme = "file" then readFileAddress rest
    else
      match rest with
      | '/' :: '/' :: rest => readHierarchy scheme false rest
      | '/' :: _ => .ok ⟨scheme, none, scheme ++ ":" ++ String.ofList (normalRest false rest)⟩
      | _ =>
        let path := escape "" (rest.takeWhile fun c => !endsPath c)
        let tail := normalTail (rest.dropWhile fun c => !endsPath c)
        .ok ⟨scheme, none, scheme ++ ":" ++ String.ofList (path ++ tail)⟩

/-- The address that a request goes to: one that can be read and is of the web. -/
def ofText (text : String) : Except Fault Address :=
  match read text with
  | .error fault => .error (.unreadable fault)
  | .ok address =>
    if address.scheme = "http" ∨ address.scheme = "https" then .ok address
    else .error (.schemeNotAllowed address.text)

end Address
end DatasetSync.Network
