import Resharing.Operator.Basic
import Resharing.Session.Basic

/-!
# Directories of operators

A directory tells what is known about an operator, or why it cannot tell. Asking
may change what the directory remembers, so a lookup is an effect on a state, and
the state outlives a failure.

## Main definitions

* `Effect`: a computation on a state that may fail
* `Part`, `Effect.within`: a computation on a part of a state
* `Directory`: lookups over a state
* `Directory.ofList`, `Directory.failing`: directories without a memory
* `Directory.resolveAll`: several lookups, up to the first failure
* `Session.directory`: a session tells what it says about its own operators
-/

namespace Resharing

/-- A computation on a state that may fail. What was done to the state before a
failure stays done. -/
abbrev Effect (σ α : Type) := ExceptT Error (StateM σ) α

/-- A part of a state: how it is seen and how it is replaced. -/
structure Part (σ τ : Type) where
  of : σ → τ
  replace : σ → τ → σ

namespace Effect

variable {σ τ α : Type}

/-- The result of a computation and the state it leaves. -/
def perform (effect : Effect σ α) (state : σ) : Except Error α × σ := effect.run.run state

/-- The computation with a given result. -/
def ofResult (result : Except Error α) : Effect σ α := ExceptT.mk (pure result)

/-- A computation on a part of a state, which leaves the rest alone. -/
def within (part : Part σ τ) (effect : Effect τ α) : Effect σ α :=
  ExceptT.mk fun state =>
    let (result, inner) := effect.perform (part.of state)
    (result, part.replace state inner)

end Effect

/-- What can be asked about operators, over what is remembered. -/
structure Directory (σ : Type) where
  lookup : OperatorId → Effect σ Operator

namespace Directory

variable {σ : Type}

/-- What is known about some operators, in the given order. The first failed lookup
is the last one made. -/
def resolveAll (directory : Directory σ) (ids : List OperatorId) : Effect σ (List Operator) :=
  ids.mapM directory.lookup

/-- A directory that knows some operators. -/
def ofList (operators : List Operator) : Directory σ where
  lookup id := .ofResult (match operators.find? fun operator => operator.id == id with
    | some operator => .ok operator
    | none => .error (.operatorNotFound id))

/-- A directory in which nothing can be looked up, for a reason. -/
def failing (reason : String) : Directory σ where
  lookup id := throw (.directory (reason ++ " " ++ id.text))

end Directory

namespace Session

/-- What a session says about an operator. -/
def lookup (session : Session) (id : OperatorId) : Except Error Operator :=
  match session.addressOf id with
  | some address => .ok (.ofAddress id address)
  | none => .error (.operatorNotFound id)

/-- A session as a directory of its operators. It remembers nothing. -/
def directory {σ : Type} (session : Session) : Directory σ where
  lookup id := .ofResult (session.lookup id)

/-- What a session says about some operators, up to the first it does not name. -/
def resolveAll (session : Session) (ids : List OperatorId) : Except Error (List Operator) :=
  ids.mapM session.lookup

end Session

end Resharing
