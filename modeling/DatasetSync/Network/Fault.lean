/-
Why a request gets no answer.

An address can be refused before anything is sent: because it cannot be read as
one, or because it is not an address of the web.  Past that the connection can
fail, before the answer or in the middle of it.
-/
namespace DatasetSync.Network

/-- Why a text is no address. -/
inductive AddressFault
  | relativeWithoutBase
  | emptyHost
  | invalidPort
  | invalidIpv6
  | invalidIpv4
  | invalidHost
deriving DecidableEq, Repr

/-- The message of an unreadable address. -/
def AddressFault.message : AddressFault → String
  | relativeWithoutBase => "relative URL without a base"
  | emptyHost => "empty host"
  | invalidPort => "invalid port number"
  | invalidIpv6 => "invalid IPv6 address"
  | invalidIpv4 => "invalid IPv4 address"
  | invalidHost => "invalid international domain name"

/-- Why a request fails. -/
inductive Fault
  /-- There is nothing to send requests with. -/
  | noClient (reason : String)
  /-- The address cannot be read. -/
  | unreadable (fault : AddressFault)
  /-- The address, given in its normal form, is not one of the web. -/
  | schemeNotAllowed (address : String)
  /-- No connection to the address comes about. -/
  | unreachable (address : String)
  /-- The answer breaks off. -/
  | brokenBody
deriving DecidableEq, Repr

/-- The messages of a failed request, the first outermost. -/
def Fault.chain : Fault → List String
  | noClient reason => ["builder error", reason]
  | unreadable fault => ["builder error", fault.message]
  | schemeNotAllowed address =>
    ["builder error for url (" ++ address ++ ")", "URL scheme is not allowed"]
  | unreachable address =>
    ["error sending request for url (" ++ address ++ ")", "client error (Connect)"]
  | brokenBody => ["request or response body error", "error reading a body from connection"]

end DatasetSync.Network
