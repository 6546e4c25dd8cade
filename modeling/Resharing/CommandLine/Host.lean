import Resharing.CommandLine.Initiator

/-!
# The command line of a mailbox host

A host runs the service of a mailbox at an address that it listens on.

## Main definitions

* `HostOptions`, `HostOptions.ofWords`: what the words of a command line stand for
* `HostOptions.fault?`: why it cannot be listened at an address
-/

namespace Resharing

/-- What a host runs with. -/
structure HostOptions where
  address : String
  /-- After how many seconds messages expire. -/
  lifetime : Int
  deriving DecidableEq

/-- Why it cannot be listened at an address. -/
inductive ListenFault where
  | noPort
  /-- The port is no number of sixteen bits. -/
  | badPort
  /-- The host is no address, and nobody can be asked about names. -/
  | unresolvedHost
  deriving DecidableEq, Repr

/-- The wording of an address that cannot be listened at. -/
def ListenFault.message : ListenFault → String
  | .noPort => "invalid socket address"
  | .badPort => "invalid port value"
  | .unresolvedHost => "failed to lookup address information: Temporary failure in name resolution"

namespace CommandLine

/-- The signed number of sixty-four bits that a text denotes. -/
def signed? (text : String) : Option Int :=
  match text.toList with
  | '-' :: digits =>
    if digits.head? = some '+' then none
    else ((Decimal.read (UInt64.size / 2 + 1) digits).toOption).map fun n => -(n : Int)
  | digits => ((Decimal.read (UInt64.size / 2) digits).toOption).map Int.ofNat

def host : Grammar where
  options := [
    { name := "listen", letter := some 'l', inEnvironment := some "MESSENGER_LISTEN" },
    { name := "ttl", accepts := fun text => (signed? text).isSome }]

end CommandLine

namespace HostOptions

/-- The options that words stand for in an environment. -/
def ofWords (environment : CommandLine.Given) (words : List String) :
    Except CommandLine.Stop HostOptions := do
  let given ← CommandLine.host.all environment words
  let lifetime := ((given.lookup "ttl").bind CommandLine.signed?).getD 3600
  return ⟨given.valueOr "listen" "0.0.0.0:3000", lifetime⟩

/-- Whether a host is known without asking anybody: it is a number, or an address in brackets,
or the local host. -/
def isKnownHost (host : List Char) : Bool :=
  host = "localhost".toList ||
    (host ≠ [] && host.all fun c => c.isDigit || c = '.') ||
    (host.head? = some '[' && host.getLast? = some ']')

/-- Why the parts of an address before and behind its last colon name no socket. -/
def fault? (options : HostOptions) : Option ListenFault :=
  let address := options.address.toList
  let port := (address.reverse.takeWhile (· != ':')).reverse
  let host := address.take (address.length - port.length - 1)
  if port.length = address.length then some .noPort
  else
    match Decimal.read UInt16.size port with
    | .error _ => some .badPort
    | .ok _ => if isKnownHost host then none else some .unresolvedHost

end HostOptions

end Resharing
