import Resharing.CommandLine.Initiator
import Resharing.Directory.Stored
import Resharing.Program.Exit
import Resharing.Program.World

/-!
# The program of an initiator

A resharing first records the addresses of its operators in the data directory, where their
keys are kept, and then runs its session with that directory.

## Main definitions

* `Report.lines`: how a report is shown
* `Initiator.carryOut`: carries out a command
* `Initiator.run`: the program
-/

namespace Resharing

namespace Report

/-- How a delivery ended, in a word. -/
def statusText : DeliveryStatus → String
  | .delivered => "delivered"
  | .failed fault => "failed: " ++ fault.message
  | .cancelled => "cancelled"

/-- The lines in which a report is shown. -/
def lines (report : Report) : List String :=
  ("Session ID: " ++ report.session.hex) :: report.outcomes.map (fun outcome =>
    "  operator " ++ outcome.id.text ++ " (" ++ outcome.address ++ "): " ++
      statusText outcome.status) ++
  ["Delivered: " ++ Decimal.text report.delivered.length ++ "/" ++
    Decimal.text report.outcomes.length]

end Report

namespace Initiator

/-- A command that has been carried out: its output, its complaint and what it leaves. -/
structure Done (ν : Type) where
  output : List String
  complaint : Option Complaint
  /-- The data directory, with its path, if it was opened. -/
  folder : Option (String × Folder)
  network : ν

variable {ν : Type} (machine : Machine ν)

/-- A command that leaves a world whose data directory was opened at a path. -/
def Done.leaving (path : String) (world : World ν) (output : List String)
    (complaint : Option Complaint) : Done ν :=
  ⟨output, complaint, some (path, world.folder), world.network⟩

/-- What a report comes to: it is shown, and complained about if it was cut short. -/
def conclude (path : String) (world : World ν) (report : Report) : Done ν :=
  .leaving path world report.lines
    (if report.cancelled = [] then none else some (.interrupted report.session))

/-- Runs a session whose operators have been recorded. -/
def runSession (invocation : Invocation) (session : Session) (signer : Signer) (limit : UInt64)
    (world : World ν) : Done ν :=
  let network := machine.worldNetwork
  let timeout := invocation.timeout.toNat * 1000
  let orchestrator : Orchestrator (World ν) :=
    ⟨World.store.directory (some session.lookup),
      (RemoteMessenger.atAddress invocation.messenger).topicService network timeout,
      signer, RemoteDelivery.transport network, ⟨limit, timeout⟩⟩
  match orchestrator.runSession session machine.interrupt world with
  | .error crash => .leaving invocation.dataPath world [] (some (.crashed crash))
  | .ok run =>
    match run.result with
    | .error error => .leaving invocation.dataPath run.state [] (some (.failed error))
    | .ok report => conclude invocation.dataPath run.state report

def reshare (invocation : Invocation) (request : Request) (id : OperatorId) (key : String)
    (limit : UInt64) (network : ν) : Done ν :=
  let accepted : Except Error (Signer × Session) := do
    let seed ← Seed.ofHex key
    return (.ofSeed machine.scheme id seed, ← Session.accept machine.session request)
  match accepted with
  | .error error => ⟨[], some (.failed error), none, network⟩
  | .ok (signer, session) =>
    match machine.openFolder invocation.dataPath with
    | .error fault => ⟨[], some (.noFolder invocation.dataPath fault), none, network⟩
    | .ok folder =>
      match (World.store.recordOperators session).perform (⟨folder, network⟩ : World ν) with
      | (.error error, world) => .leaving invocation.dataPath world [] (some (.failed error))
      | (.ok (), world) => runSession machine invocation session signer limit world

def register (invocation : Invocation) (id : OperatorId) (address topic : String)
    (attempts : UInt64) (network : ν) : Done ν :=
  let messenger := (RemoteMessenger.atAddress invocation.messenger).messenger machine.network
  let retry : Retry := { Retry.standard with attempts := max attempts 1 }
  match Registration.run messenger id address topic retry network with
  | .error crash => ⟨[], some (.crashed crash), none, network⟩
  | .ok registration =>
    match registration.result with
    | .error error => ⟨[], some (.failed error), none, registration.state⟩
    | .ok () =>
      ⟨["Operator " ++ id.text ++ " registered on " ++ topic], none, none, registration.state⟩

/-- Shows what is stored about an operator. -/
def showOperator (invocation : Invocation) (id : OperatorId) (network : ν) : Done ν :=
  match machine.openFolder invocation.dataPath with
  | .error fault => ⟨[], some (.noFolder invocation.dataPath fault), none, network⟩
  | .ok folder =>
    let path := invocation.dataPath
    match (World.store.getOperator id).perform (⟨folder, network⟩ : World ν) with
    | (.error error, world) => .leaving path world [] (some (.failed error))
    | (.ok none, world) => .leaving path world [] (some (.unknownOperator id path))
    | (.ok (some operator), world) =>
      .leaving path world [(Operator.format.value operator).prettyText] none

def makeKey (network : ν) : Done ν :=
  ⟨["Signer key: " ++ machine.seed.hex,
    "Public key: " ++ Hex.encode (machine.scheme.publicKey machine.seed)], none, none, network⟩

def carryOut (invocation : Invocation) (network : ν) : Done ν :=
  match invocation.command with
  | .resharing request id key limit => reshare machine invocation request id key limit network
  | .register id address topic attempts =>
    register machine invocation id address topic attempts network
  | .operator id => showOperator machine invocation id network
  | .signerKey => makeKey machine network

/-- The name and version of the program. -/
def version : String := "reshare 0.1.0"

/-- Runs the program with the words of a command line. -/
def run (environment : CommandLine.Given) (words : List String) (network : ν) :
    Exit × Option (String × Folder) × ν :=
  match Invocation.ofWords environment words with
  | .error .misused => (.guidance false, none, network)
  | .error .help => (.guidance true, none, network)
  | .error .version => (.finished [version] none, none, network)
  | .ok invocation =>
    let done := carryOut machine invocation network
    (.finished done.output done.complaint, done.folder, done.network)

end Initiator

end Resharing
