import Resharing.CommandLine.Grammar
import Resharing.Registration.Basic
import Resharing.Session.Basic

/-!
# The command line of an initiator

An initiator starts resharings, registers nodes, shows what it knows about operators and makes
signing keys.

## Main definitions

* `Command`, `Invocation`: what is to be done
* `Invocation.ofWords`: the invocation that words and an environment stand for
-/

namespace Resharing

/-- What an initiator is to do. -/
inductive Command where
  /-- Start a resharing: sign its initiation with a key, and deliver it with a limit on the
  calls under way. -/
  | resharing (request : Request) (signer : OperatorId) (key : String) (limit : UInt64)
  | register (id : OperatorId) (address topic : String) (attempts : UInt64)
  | operator (id : OperatorId)
  | signerKey

/-- A command and what all commands run with. -/
structure Invocation where
  messenger : String
  dataPath : String
  /-- After how many seconds a request is given up. -/
  timeout : UInt64
  command : Command

namespace CommandLine

/-- The number of sixty-four bits that a text denotes. -/
def word? (text : String) : Option UInt64 :=
  ((Decimal.read UInt64.size text.toList).toOption).map UInt64.ofNat

/-- Whether a text denotes a number of sixty-four bits. -/
def isWord (text : String) : Bool := (word? text).isSome

/-- The number given under a name, or else a default. -/
def Given.wordOr (given : Given) (name : String) (default : UInt64) : UInt64 :=
  ((given.lookup name).bind word?).getD default

/-- The options that all commands share, and the commands. -/
def shared : Grammar where
  options := [
    { name := "messenger", letter := some 'm', inEnvironment := some "MESSENGER_ADDR" },
    { name := "data-dir", letter := some 'd', inEnvironment := some "DEST", accepts := (· != "") },
    { name := "timeout-secs", accepts := isWord },
    { name := "insecure", takesValue := false }]
  commands := ["resharing", "register", "operator", "signer-key", "help"]
  hasVersion := true

def resharing : Grammar where
  options := [
    { name := "operator", repeats := true, required := true },
    { name := "old-operator", repeats := true },
    { name := "threshold", letter := some 't', accepts := isWord, required := true },
    { name := "validator-pk", required := true },
    { name := "signer-id", accepts := isWord, required := true },
    { name := "signer-key", required := true, inEnvironment := some "RESHARE_SIGNER_KEY" },
    { name := "concurrency", accepts := isWord }]

def register : Grammar where
  options := [
    { name := "id", accepts := isWord, required := true },
    { name := "address", required := true },
    { name := "topic" },
    { name := "attempts", accepts := isWord }]

/-- The argument of the command that shows an operator. -/
def operator : Grammar where
  options := []
  arguments := [{ name := "id", accepts := isWord, required := true }]

/-- All the words of a command line without commands. -/
def Grammar.all (grammar : Grammar) (environment : Given) (words : List String) :
    Except Stop Given := do
  let (reading, _) ← grammar.read .start words
  grammar.finish environment reading

/-- What the words behind the name of a command stand for. -/
def command (environment : Given) (name : String) (words : List String) :
    Except Stop Command := do
  match name with
  | "resharing" =>
    let given ← resharing.all environment words
    let request : Request := ⟨given.all "operator", given.all "old-operator",
      given.wordOr "threshold" 0, given.valueOr "validator-pk" ""⟩
    return .resharing request (given.wordOr "signer-id" 0) (given.valueOr "signer-key" "")
      (given.wordOr "concurrency" 16)
  | "register" =>
    let given ← register.all environment words
    return .register (given.wordOr "id" 0) (given.valueOr "address" "")
      (given.valueOr "topic" Topic.defaultName) (given.wordOr "attempts" 3)
  | "operator" =>
    let given ← operator.all environment words
    return .operator (given.wordOr "id" 0)
  | "signer-key" =>
    discard ((Grammar.mk [] [] [] false).all environment words)
    return .signerKey
  | _ => throw (if words.length ≤ 1 ∧ words.all shared.commands.contains then .help else .misused)

end CommandLine

/-- The invocation that words stand for in an environment. -/
def Invocation.ofWords (environment : CommandLine.Given) (words : List String) :
    Except CommandLine.Stop Invocation := do
  match ← CommandLine.shared.read .start words with
  | (_, none) => throw .misused
  | (reading, some (name, rest)) =>
    let command ← CommandLine.command environment name rest
    let given ← CommandLine.shared.finish environment reading
    return ⟨given.valueOr "messenger" "http://127.0.0.1:3000", given.valueOr "data-dir" "./data",
      given.wordOr "timeout-secs" 30, command⟩

end Resharing
