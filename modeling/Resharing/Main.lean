import Resharing.Ed25519.Signature
import Resharing.Program.Host
import Resharing.Program.Initiator

/-!
# The command lines

Run as `messenger-svc`, the executable is the host of a mailbox; run under any other name, it is
an initiator. It decides nothing itself: it hands the words, the environment and the content of
the data directory to the program, writes down what the program leaves, and exits with its code.
No network is attached, so that nobody can be reached.
-/

namespace Resharing.CommandLine

/-- What the environment says under the names that matter. -/
def environment : IO Given := do
  let names := ["MESSENGER_ADDR", "DEST", "RESHARE_SIGNER_KEY", "MESSENGER_LISTEN"]
  let values ← names.mapM fun name => return (← IO.getEnv name).map fun value => (name, value)
  return values.filterMap id

/-- Some bytes that nobody can foresee. -/
def randomBytes (count : Nat) : IO Bytes := do
  return (← IO.getRandomBytes (USize.ofNat count)).toList

/-- What is at the path of a data directory; nothing is made yet. -/
def inspect (path : String) : IO (Except FileFault Folder) := do
  let directory := System.mkFilePath [path]
  if ← directory.isDir then
    let entries ← directory.readDir
    let files ← entries.toList.filterMapM fun entry => do
      if ← entry.path.isDir then return none
      else return some (entry.fileName, (← IO.FS.readBinFile entry.path).toList)
    return .ok (.ofFiles files)
  else if ← directory.pathExists then return .error .present
  else if (← (directory.parent.mapM fun parent => parent.pathExists)) == some true ∧
      (← (directory.parent.mapM fun parent => parent.isDir)) == some false then
    return .error .notDirectory
  else return .ok .empty

/-- Makes the data directory at a path hold the files of a folder. -/
def store (path : String) (folder : Folder) : IO Unit := do
  let directory := System.mkFilePath [path]
  IO.FS.createDirAll directory
  for name in folder.names do
    match folder.read name with
    | .ok content => IO.FS.writeBinFile (directory / name) ⟨content.toArray⟩
    | .error _ => pure ()

/-- Tells the caller how a program has ended. -/
def leave (guidance : String) (exit : Exit) : IO UInt32 := do
  match exit with
  | .guidance true => IO.println guidance
  | .guidance false => IO.eprintln guidance
  | .finished output complaint =>
    output.forM fun line => IO.println line
    if complaint.isSome then IO.eprintln exit.complaintText
  return UInt32.ofNat exit.code

def initiatorGuidance : String :=
  "Usage: reshare [OPTIONS] <resharing|register|operator|signer-key|help>"

def hostGuidance : String := "Usage: messenger-svc [--listen <LISTEN>] [--ttl <TTL>]"

def runInitiator (words : List String) : IO UInt32 := do
  let environment ← environment
  let found ← match Invocation.ofWords environment words with
    | .ok invocation => inspect invocation.dataPath
    | .error _ => pure (.ok .empty)
  let session ← randomBytes 16
  let seed ← randomBytes 32
  if sessionFits : session.length = 16 then
    if seedFits : seed.length = 32 then
      let machine : Machine Unit :=
        ⟨Http.Network.empty, fun _ => found, Ed25519.scheme, ⟨session, sessionFits⟩,
          ⟨seed, seedFits⟩, .never⟩
      let (exit, left, ()) := Initiator.run machine environment words ()
      if let some (path, folder) := left then store path folder
      leave initiatorGuidance exit
    else return 1
  else return 1

def runHost (words : List String) : IO UInt32 := do
  match HostProgram.refusal? (← environment) words with
  | some exit => leave hostGuidance exit
  | none => leave hostGuidance (.finished [] (some (.deaf "no network is attached")))

end Resharing.CommandLine

/-- Runs the program under whose name the executable is called. -/
def main (words : List String) : IO UInt32 := do
  if (← IO.appPath).fileStem == some "messenger-svc" then Resharing.CommandLine.runHost words
  else Resharing.CommandLine.runInitiator words
