import Resharing.Crash
import Resharing.Error
import Resharing.Store.Folder

/-!
# How a program ends

What is reported goes to the output; why something is not done goes to the complaints, and the
exit code tells whether all went well.

## Main definitions

* `Complaint`: why a command is not carried out
* `Exit`: what a program leaves for its caller
-/

namespace Resharing

/-- Why a command is not carried out. -/
inductive Complaint where
  | failed (error : Error)
  /-- The data directory cannot be opened. -/
  | noFolder (path : String) (fault : FileFault)
  /-- Nothing is stored about an operator. -/
  | unknownOperator (id : OperatorId) (path : String)
  /-- The user interrupted a session before all of it was delivered. -/
  | interrupted (session : SessionId)
  /-- It cannot be listened at an address. -/
  | deaf (reason : String)
  | crashed (crash : Crash)
  deriving DecidableEq

namespace Complaint

/-- A text as it is shown below a heading: each of its lines is indented. -/
def indented (text : String) : String :=
  "    " ++ String.ofList (text.toList.flatMap fun c => if c = '\n' then "\n    ".toList else [c])

def message : Complaint → String
  | .failed error => error.message
  | .noFolder path fault =>
    "opening data directory " ++ path ++ "\n\nCaused by:\n" ++
      indented (Error.storage (path ++ ": " ++ fault.message)).message
  | .unknownOperator id path => "Operator " ++ id.text ++ " not found in " ++ path
  | .interrupted session =>
    "Resharing session " ++ session.hex ++ " cancelled before delivery finished"
  | .deaf reason => reason
  | .crashed _ => "a limit of the machine is exceeded"

/-- The exit code with a complaint. -/
def code : Complaint → Nat
  | .crashed _ => 101
  | _ => 1

end Complaint

/-- What a program leaves for its caller. -/
inductive Exit where
  /-- Words on how to use it, and whether they were asked for. -/
  | guidance (asked : Bool)
  /-- The lines of its output, and a complaint if there is one. -/
  | finished (output : List String) (complaint : Option Complaint)
  deriving DecidableEq

def Exit.code : Exit → Nat
  | .guidance true => 0
  | .guidance false => 2
  | .finished _ none => 0
  | .finished _ (some complaint) => complaint.code

/-- What is written to the complaints. -/
def Exit.complaintText : Exit → String
  | .finished _ (some complaint) => "Error: " ++ complaint.message
  | _ => ""

end Resharing
