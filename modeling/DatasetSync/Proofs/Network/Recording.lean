/-
What a fetch asks of the network.

A network can keep a list of its exchanges, each request with its answer, in a state of
its own beside that of the network.  Keeping the list changes nothing else about a
fetch, so the exchanges of a fetch are those that the list gets when it is kept.

A download is answered with a body exactly if the server sent what was asked for and
sent it whole, and the body is then what was fetched.
-/
import DatasetSync.Network.Download

namespace DatasetSync

variable {ν : Type}

namespace Network

/-- A request and what came of it. -/
structure Exchange where
  address : Address
  answer : Except Fault Response

/-- The network that also keeps a list of its exchanges. -/
def recording (network : Network ν) : Network (ν × List Exchange) where
  ask state address :=
    let (answer, next) := network.ask state.1 address
    (answer, next, state.2 ++ [⟨address, answer⟩])

/-- The body of a server that sends what was asked for and sends it whole. -/
def Response.body? (response : Response) : Option (List UInt8) :=
  if isSuccess response.status && !response.broken then some response.pieces.flatten else none

/-- The body that a request is answered with. -/
def Exchange.body? (exchange : Exchange) : Option (List UInt8) :=
  match exchange.answer with
  | .ok response => response.body?
  | .error _ => none

theorem gather_body (label : String) (total : Nat) (body : Array UInt8)
    (pieces : List (List UInt8)) :
    (gather label total body pieces).1.toList = body.toList ++ pieces.flatten := by
  induction pieces generalizing body with
  | nil => simp [gather]
  | cons piece rest ih =>
      unfold gather
      split
      · rename_i hempty
        rw [ih, List.flatten_cons, List.isEmpty_iff.mp hempty, List.nil_append]
      · rw [ih]
        simp

/-- A download gives the body that its request is answered with. -/
theorem result_download (network : Network ν) (state : ν) {url : String} (label : String)
    {address : Address} (haddress : Address.ofText url = .ok address) :
    (network.download state url label).1.toOption =
      (Exchange.mk address (network.ask state address).1).body? := by
  unfold download Exchange.body?
  rw [haddress]
  dsimp only
  cases network.ask state address with
  | mk answer next =>
      cases answer with
      | error fault => rfl
      | ok response =>
          dsimp only
          unfold Response.body?
          cases isSuccess response.status with
          | false => rfl
          | true =>
              cases response.broken with
              | true => rfl
              | false => simp [gather_body, Except.toOption]

/-- Keeping the list changes nothing else about a download. -/
theorem download_recording (network : Network ν) (state : ν) {url : String} (label : String)
    {address : Address} (haddress : Address.ofText url = .ok address) :
    network.recording.download (state, []) url label =
      ((network.download state url label).1,
        ((network.download state url label).2.1, [⟨address, (network.ask state address).1⟩]),
        (network.download state url label).2.2) := by
  have hrecorded : network.recording.ask (state, []) address =
      ((network.ask state address).1, (network.ask state address).2,
        [⟨address, (network.ask state address).1⟩]) := rfl
  unfold download
  rw [haddress]
  dsimp only
  rw [hrecorded]
  cases network.ask state address with
  | mk answer next =>
      cases answer with
      | error fault => rfl
      | ok response =>
          dsimp only
          cases isSuccess response.status with
          | false => rfl
          | true => cases response.broken <;> rfl

/-- A download keeps on the list one body, the one that it gives, or none. -/
theorem exists_download_recording (network : Network ν) (state : ν) (url label : String) :
    ∃ exchanges, network.recording.download (state, []) url label =
        ((network.download state url label).1,
          ((network.download state url label).2.1, exchanges),
          (network.download state url label).2.2) ∧
      exchanges.filterMap Exchange.body? =
        (network.download state url label).1.toOption.toList := by
  cases haddress : Address.ofText url with
  | error fault =>
      refine ⟨[], ?_, ?_⟩
      · simp [download, haddress]
      · simp [download, haddress, Except.toOption]
  | ok address =>
      refine ⟨_, network.download_recording state label haddress, ?_⟩
      rw [network.result_download state label haddress]
      cases hbody : (Exchange.mk address (network.ask state address).1).body? <;> simp [hbody]

end Network

namespace Web

/-- The exchanges of a fetch. -/
def exchanges (network : Network ν) (cache : Option Cache) (force : Bool) (web : Web ν)
    (source : Source) : List Network.Exchange :=
  (fetch network.recording cache force ⟨web.files, web.network, []⟩ source).next.network.2

/-- The bodies that a fetch is answered with. -/
def bodies (network : Network ν) (cache : Option Cache) (force : Bool) (web : Web ν)
    (source : Source) : List (List UInt8) :=
  (exchanges network cache force web source).filterMap Network.Exchange.body?

/-- Without a request there is no body. -/
theorem bodies_of_silent {network : Network ν} {cache : Option Cache} {force : Bool} {web : Web ν}
    {source : Source} (h : exchanges network cache force web source = []) :
    bodies network cache force web source = [] := by
  rw [bodies, h, List.filterMap_nil]

variable (network : Network ν) (cache : Cache) (force : Bool) (web : Web ν) (source : Source)

/-- The ways in which a fetch with a cache can go, with what it leaves and the bodies that it is
answered with. -/
inductive Fetched : Prop
  /-- A copy is served without a request. -/
  | served (bytes : List UInt8) (copy : force = false)
      (read : (cache.read web.files source.name source.url).1 = .ok (some bytes))
      (result : (fetch network (some cache) force web source).result = .ok bytes)
      (files : (fetch network (some cache) force web source).next.files = web.files)
      (silent : exchanges network (some cache) force web source = [])
  /-- The cache cannot be read. -/
  | unreadable (failure : Failure) (copy : force = false)
      (read : (cache.read web.files source.name source.url).1 = .error failure)
      (result : (fetch network (some cache) force web source).result = .error failure)
      (files : (fetch network (some cache) force web source).next.files = web.files)
      (silent : exchanges network (some cache) force web source = [])
  /-- Nothing is downloaded. -/
  | failed (failure : Failure)
      (missing : force = false → (cache.read web.files source.name source.url).1 = .ok none)
      (result : (fetch network (some cache) force web source).result = .error failure)
      (files : (fetch network (some cache) force web source).next.files = web.files)
      (bodies : bodies network (some cache) force web source = [])
  /-- What is downloaded is kept. -/
  | stored (bytes : List UInt8)
      (missing : force = false → (cache.read web.files source.name source.url).1 = .ok none)
      (stored : cache.store web.files source.name source.url bytes =
        (.ok (), (fetch network (some cache) force web source).next.files))
      (result : (fetch network (some cache) force web source).result = .ok bytes)
      (bodies : bodies network (some cache) force web source = [bytes])
  /-- What is downloaded cannot be kept. -/
  | lost (bytes : List UInt8) (failure : Failure)
      (missing : force = false → (cache.read web.files source.name source.url).1 = .ok none)
      (stored : cache.store web.files source.name source.url bytes =
        (.error failure, (fetch network (some cache) force web source).next.files))
      (result : (fetch network (some cache) force web source).result = .error failure)
      (bodies : bodies network (some cache) force web source = [bytes])

/-- A download is kept, lost or failed; the bodies are those on the list that is kept. -/
theorem downloadSource_cases :
    ∃ result files state asked events,
      downloadSource network (some cache) web source = ⟨result, ⟨files, state⟩, events⟩ ∧
      downloadSource network.recording (some cache) ⟨web.files, web.network, []⟩ source =
        ⟨result, ⟨files, state, asked⟩, events⟩ ∧
      ((∃ failure, result = .error failure ∧ files = web.files ∧
          asked.filterMap Network.Exchange.body? = []) ∨
        (∃ bytes, result = .ok bytes ∧
          cache.store web.files source.name source.url bytes = (.ok (), files) ∧
          asked.filterMap Network.Exchange.body? = [bytes]) ∨
        ∃ bytes failure, result = .error failure ∧
          cache.store web.files source.name source.url bytes = (.error failure, files) ∧
          asked.filterMap Network.Exchange.body? = [bytes]) := by
  obtain ⟨asked, hrecorded, hbodies⟩ :=
    network.exists_download_recording web.network source.url source.name
  unfold downloadSource
  dsimp only
  rw [hrecorded]
  cases hdownload : network.download web.network source.url source.name with
  | mk result rest =>
      obtain ⟨state, events⟩ := rest
      rw [hdownload] at hbodies
      cases result with
      | error failure =>
          exact ⟨_, _, _, asked, _, rfl, rfl, Or.inl ⟨failure, rfl, rfl, hbodies⟩⟩
      | ok bytes =>
          dsimp only
          cases hstore : cache.store web.files source.name source.url bytes with
          | mk stored files =>
              cases stored with
              | ok _ =>
                  exact ⟨_, _, _, asked, _, rfl, rfl,
                    Or.inr (Or.inl ⟨bytes, rfl, hstore, hbodies⟩)⟩
              | error failure =>
                  exact ⟨_, _, _, asked, _, rfl, rfl,
                    Or.inr (Or.inr ⟨bytes, failure, rfl, hstore, hbodies⟩)⟩

/-- What is not served from the cache is downloaded. -/
theorem fetch_of_missing {ν' : Type} (network : Network ν') (state : ν')
    (hmissing : force = false → (cache.read web.files source.name source.url).1 = .ok none) :
    let fetched := fetch network (some cache) force ⟨web.files, state⟩ source
    let downloaded := downloadSource network (some cache) ⟨web.files, state⟩ source
    fetched.result = downloaded.result ∧ fetched.next = downloaded.next := by
  cases force with
  | true => exact ⟨rfl, rfl⟩
  | false =>
      have hread := hmissing rfl
      unfold fetch
      dsimp only
      split
      · rename_i failure events heq
        rw [heq] at hread
        cases hread
      · rename_i bytes events heq
        rw [heq] at hread
        cases hread
      · exact ⟨rfl, rfl⟩

/-- What the cache has an answer for is not downloaded. -/
theorem fetch_of_read {ν' : Type} (network : Network ν') (state : ν')
    {result : Except Failure (List UInt8)}
    (hread : (cache.read web.files source.name source.url).1 = result.map some) :
    let fetched := fetch network (some cache) false ⟨web.files, state⟩ source
    fetched.result = result ∧ fetched.next = ⟨web.files, state⟩ := by
  unfold fetch
  dsimp only
  split
  · rename_i failure events heq
    rw [heq] at hread
    cases result <;> cases hread
    exact ⟨rfl, rfl⟩
  · rename_i bytes events heq
    rw [heq] at hread
    cases result <;> cases hread
    exact ⟨rfl, rfl⟩
  · rename_i events heq
    rw [heq] at hread
    cases result <;> cases hread

/-- Either the cache has an answer and may give it, or there is something to download. -/
theorem read_cases :
    (force = false → (cache.read web.files source.name source.url).1 = .ok none) ∨
      force = false ∧ ∃ result, (cache.read web.files source.name source.url).1 =
        Except.map some result := by
  cases force with
  | true => exact Or.inl (by simp)
  | false =>
      cases hread : (cache.read web.files source.name source.url).1 with
      | error failure => exact Or.inr ⟨rfl, .error failure, rfl⟩
      | ok copy =>
          cases copy with
          | none => exact Or.inl (fun _ => rfl)
          | some bytes => exact Or.inr ⟨rfl, .ok bytes, rfl⟩

/-- Keeping the list changes nothing else about a fetch. -/
theorem fetch_recording :
    let recorded := fetch network.recording (some cache) force ⟨web.files, web.network, []⟩ source
    let fetched := fetch network (some cache) force web source
    recorded.result = fetched.result ∧
      (⟨recorded.next.files, recorded.next.network.1⟩ : Web ν) = fetched.next := by
  rcases read_cases cache force web source with hmissing | ⟨rfl, result, hread⟩
  · obtain ⟨result, files, state, asked, events, hdownloaded, hrecorded, -⟩ :=
      downloadSource_cases network cache web source
    obtain ⟨hresult, hnext⟩ :=
      fetch_of_missing cache force web source network web.network hmissing
    obtain ⟨hresult', hnext'⟩ :=
      fetch_of_missing cache force web source network.recording (web.network, []) hmissing
    rw [hdownloaded] at hresult hnext
    rw [hrecorded] at hresult' hnext'
    dsimp only
    rw [hresult', hnext']
    exact ⟨hresult.symm, hnext.symm⟩
  · obtain ⟨hresult, hnext⟩ := fetch_of_read cache web source network web.network hread
    obtain ⟨hresult', hnext'⟩ :=
      fetch_of_read cache web source network.recording (web.network, []) hread
    dsimp only
    rw [hresult', hnext']
    exact ⟨hresult.symm, hnext.symm⟩

/-- **A fetch serves a copy, or fails and leaves the files, or keeps what it downloads.** -/
theorem fetched : Fetched network cache force web source := by
  rcases read_cases cache force web source with hmissing | ⟨rfl, result, hread⟩
  · obtain ⟨result, files, state, asked, events, hdownloaded, hrecorded, hcases⟩ :=
      downloadSource_cases network cache web source
    obtain ⟨hresult, hnext⟩ :=
      fetch_of_missing cache force web source network web.network hmissing
    obtain ⟨-, hrecording⟩ :=
      fetch_of_missing cache force web source network.recording (web.network, []) hmissing
    have hbodies : bodies network (some cache) force web source =
        asked.filterMap Network.Exchange.body? := by
      rw [bodies, exchanges, hrecording, hrecorded]
    rw [hdownloaded] at hresult hnext
    have hfiles : files = (fetch network (some cache) force web source).next.files :=
      (congrArg Web.files hnext).symm
    rcases hcases with ⟨failure, rfl, hkept, hnone⟩ | ⟨bytes, rfl, hstored, hbody⟩ |
      ⟨bytes, failure, rfl, hstored, hbody⟩
    · exact .failed failure hmissing hresult (hfiles.symm.trans hkept) (hbodies.trans hnone)
    · exact .stored bytes hmissing (hfiles ▸ hstored) hresult (hbodies.trans hbody)
    · exact .lost bytes failure hmissing (hfiles ▸ hstored) hresult (hbodies.trans hbody)
  · obtain ⟨hresult, hnext⟩ := fetch_of_read cache web source network web.network hread
    obtain ⟨-, hrecording⟩ :=
      fetch_of_read cache web source network.recording (web.network, []) hread
    have hfiles := congrArg Web.files hnext
    have hsilent : exchanges network (some cache) false web source = [] :=
      congrArg (fun web => web.network.2) hrecording
    cases result with
    | error failure => exact .unreadable failure rfl hread hresult hfiles hsilent
    | ok bytes => exact .served bytes rfl hread hresult hfiles hsilent

end Web
end DatasetSync
