/-
Fetching files from the web.

The network is a parameter: it answers a request for an address out of a state of
its own, with a status, the announced length if there is one, and the body in the
pieces in which it arrives.  Fetching tells how far it is after each piece.

With a cache, a copy that was fetched from the same address is served without a
request, unless the run is forced, and whatever is fetched is kept.
-/
import DatasetSync.Cache
import DatasetSync.Ingest
import DatasetSync.Network.Address

namespace DatasetSync

namespace Network

/-- The answer of a server. -/
structure Response where
  status : Nat
  /-- The announced size of the body. -/
  length : Option Nat
  /-- The body in the pieces in which it arrives. -/
  pieces : List (List UInt8)
  /-- The body breaks off after these pieces. -/
  broken : Bool := false

end Network

/-- Who answers requests. -/
structure Network (ν : Type) where
  ask : ν → Network.Address → Except Network.Fault Network.Response × ν

namespace Network

/-- A network in which no machine can be reached. -/
def offline : Network Unit where
  ask _ address := (.error (.unreachable address.text), ())

/-- What the status codes of servers mean. -/
def reasons : List (Nat × String) :=
  [(100, "Continue"), (101, "Switching Protocols"), (102, "Processing"), (200, "OK"),
    (201, "Created"), (202, "Accepted"), (203, "Non Authoritative Information"),
    (204, "No Content"), (205, "Reset Content"), (206, "Partial Content"), (207, "Multi-Status"),
    (208, "Already Reported"), (226, "IM Used"), (300, "Multiple Choices"),
    (301, "Moved Permanently"), (302, "Found"), (303, "See Other"), (304, "Not Modified"),
    (305, "Use Proxy"), (307, "Temporary Redirect"), (308, "Permanent Redirect"),
    (400, "Bad Request"), (401, "Unauthorized"), (402, "Payment Required"), (403, "Forbidden"),
    (404, "Not Found"), (405, "Method Not Allowed"), (406, "Not Acceptable"),
    (407, "Proxy Authentication Required"), (408, "Request Timeout"), (409, "Conflict"),
    (410, "Gone"), (411, "Length Required"), (412, "Precondition Failed"),
    (413, "Payload Too Large"), (414, "URI Too Long"), (415, "Unsupported Media Type"),
    (416, "Range Not Satisfiable"), (417, "Expectation Failed"), (418, "I'm a teapot"),
    (421, "Misdirected Request"), (422, "Unprocessable Entity"), (423, "Locked"),
    (424, "Failed Dependency"), (426, "Upgrade Required"), (428, "Precondition Required"),
    (429, "Too Many Requests"), (431, "Request Header Fields Too Large"),
    (451, "Unavailable For Legal Reasons"), (500, "Internal Server Error"),
    (501, "Not Implemented"), (502, "Bad Gateway"), (503, "Service Unavailable"),
    (504, "Gateway Timeout"), (505, "HTTP Version Not Supported"),
    (506, "Variant Also Negotiates"), (507, "Insufficient Storage"), (508, "Loop Detected"),
    (510, "Not Extended"), (511, "Network Authentication Required")]

/-- A status code and what it means. -/
def statusText (status : Nat) : String :=
  toString status ++ " " ++ (reasons.lookup status).getD "<unknown status code>"

/-- The server sends what was asked for. -/
def isSuccess (status : Nat) : Bool :=
  200 ≤ status && status < 300

/-- The most that is set aside for a body before it arrives. -/
def maxReserved : Nat := 16 * 1024 * 1024

/-- How many bytes to set aside for a body of an announced size. -/
def reserved (length : Nat) : Nat :=
  min length maxReserved

/-- A number of bytes for people: with one decimal from a thousand on. -/
def sizeText (bytes : Nat) : String :=
  let scaled (unit : Nat) : String :=
    ((Number.Binary64.ofNat bytes).div (Number.Binary64.ofNat unit)).fixed 1
  if 1000000000 ≤ bytes then scaled 1000000000 ++ " GB"
  else if 1000000 ≤ bytes then scaled 1000000 ++ " MB"
  else if 1000 ≤ bytes then scaled 1000 ++ " KB"
  else toString bytes ++ " B"

/-- Puts the pieces of a body together, with a notice after each; an empty piece is none. -/
def gather (label : String) (total : Nat) (body : Array UInt8) :
    List (List UInt8) → Array UInt8 × List Event
  | [] => (body, [])
  | piece :: rest =>
    if piece.isEmpty then gather label total body rest
    else
      let body := body ++ piece
      let progress : Progress := ⟨body.size, total, label ++ " (" ++ sizeText body.size ++ ")"⟩
      let (whole, events) := gather label total body rest
      (whole, .notice (.progress progress) :: events)

/-- Downloads a file. -/
def download {ν : Type} (network : Network ν) (state : ν) (url label : String) :
    Except Failure (List UInt8) × ν × List Event :=
  let failed (fault : Fault) : Except Failure (List UInt8) :=
    .error ⟨[.fetching url], .network fault⟩
  match Address.ofText url with
  | .error fault => (failed fault, state, [])
  | .ok address =>
    match network.ask state address with
    | (.error fault, state) => (failed fault, state, [])
    | (.ok response, state) =>
      if !isSuccess response.status then
        (failWith (.refused url (statusText response.status)), state, [])
      else
        let total := response.length.getD 0
        let (body, events) :=
          gather label total (Array.emptyWithCapacity (reserved total)) response.pieces
        if response.broken then
          (.error ⟨[.readingResponse url], .network .brokenBody⟩, state, events)
        else
          (.ok body.toList, state, events ++
            [.log .debug .client ("Downloaded " ++ toString body.size ++ " bytes from " ++ url)])

end Network

/-- What a provider that fetches from the web works on. -/
structure Web (ν : Type) where
  files : Files
  network : ν

namespace Web

/-- Downloads the file of a source and keeps a copy if there is a cache. -/
def downloadSource {ν : Type} (network : Network ν) (cache : Option Cache) (web : Web ν)
    (source : Source) : Fetch (Web ν) :=
  let (result, state, events) := network.download web.network source.url source.name
  let events := .notice (.message ("Downloading " ++ source.url)) :: events
  match result, cache with
  | .error failure, _ => ⟨.error failure, { web with network := state }, events⟩
  | .ok bytes, none => ⟨.ok bytes, { web with network := state }, events⟩
  | .ok bytes, some cache =>
    match cache.store web.files source.name source.url bytes with
    | (.ok (), files) => ⟨.ok bytes, ⟨files, state⟩, events⟩
    | (.error failure, files) => ⟨.error failure, ⟨files, state⟩, events⟩

/-- Serves a copy if it may, and downloads otherwise. -/
def fetch {ν : Type} (network : Network ν) (cache : Option Cache) (force : Bool) (web : Web ν)
    (source : Source) : Fetch (Web ν) :=
  match cache, force with
  | some kept, false =>
    match kept.read web.files source.name source.url with
    | (.error failure, events) => ⟨.error failure, web, events⟩
    | (.ok (some bytes), events) =>
      ⟨.ok bytes, web, events ++
        [.log .info .client ("Using cached copy of " ++ source.name)]⟩
    | (.ok none, events) =>
      let fetched := downloadSource network cache web source
      { fetched with events := events ++ fetched.events }
  | _, _ => downloadSource network cache web source

end Web

/-- The provider that fetches from the web. -/
def Provider.web {ν : Type} (network : Network ν) (cache : Option Cache) (force : Bool) :
    Provider (Web ν) :=
  ⟨Web.fetch network cache force⟩

/-- The provider that reads the files `NAME.csv` of a directory. -/
def Provider.directory (directory : String) : Provider Files where
  fetch files source :=
    let path := Path.join directory (source.name ++ ".csv")
    let events := [Event.notice (.message ("Reading " ++ path))]
    match files.read path with
    | .ok bytes => ⟨.ok bytes, files, events⟩
    | .error fault => ⟨.error ⟨[.readingFile path], .files fault⟩, files, events⟩

end DatasetSync
