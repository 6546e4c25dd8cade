import Resharing.Store.Basic

/-!
# What a store remembers

Operators and key generations are kept in a store under keys of their own. A directory
over a store asks a fallback for what the store does not know, and remembers the
answer.

## Main definitions

* `Store.getOperator`, `Store.putOperator`: operators
* `Store.lookup`, `Store.directory`: a directory over a store
* `Store.recordOperators`: remembers the operators of a session
* `Store.saveKeyGeneration`, `Store.getKeyGeneration`: key generations
-/

namespace Resharing

def operatorKey (id : OperatorId) : Bytes := Bytes.ofText ("operator/" ++ id.text)

/-- The key of what was generated for a validator. -/
def keyGenerationKey (validatorKey : Bytes) : Bytes :=
  Bytes.ofText ("keygen/" ++ Hex.encode validatorKey)

namespace Store

variable {σ : Type} (store : Store σ)

/-- What is stored about an operator. -/
def getOperator (id : OperatorId) : Effect σ (Option Operator) := do
  match ← store.get (operatorKey id) with
  | none => return none
  | some bytes =>
    match Operator.format.decode bytes with
    | .ok operator => return some operator
    | .error fault => throw (.unreadable (.json fault))

/-- Stores what is known about an operator. -/
def putOperator (operator : Operator) : Effect σ Unit :=
  store.put (operatorKey operator.id) (Operator.format.encode operator)

/-- What is known about an operator: what is stored, or else what the fallback says,
which is stored then. -/
def lookup (fallback : Option (OperatorId → Except Error Operator)) (id : OperatorId) :
    Effect σ Operator := do
  match ← store.getOperator id with
  | some operator => return operator
  | none =>
    match fallback with
    | none => throw (.operatorNotFound id)
    | some ask =>
      -- Only an answer is remembered, so a refusal is asked for again.
      let operator ← Effect.ofResult (ask id)
      store.putOperator operator
      return operator

def directory (fallback : Option (OperatorId → Except Error Operator)) : Directory σ :=
  ⟨store.lookup fallback⟩

/-- Stores an operator's address unless it is the one stored. -/
def recordAddress (id : OperatorId) (address : String) : Effect σ Unit := do
  let known ← store.getOperator id
  if (known.map Operator.address) = some address then return ()
  else store.putOperator (.ofAddress id address)

/-- Stores the addresses of all operators of a session. -/
def recordOperators (session : Session) : Effect σ Unit :=
  session.allIds.forM fun id =>
    match session.addressOf id with
    | some address => store.recordAddress id address
    | none => return ()

/-- Stores a key generation under its validator key. -/
def saveKeyGeneration (output : KeyGeneration) : Effect σ Unit :=
  if output.validatorKey = [] then
    throw (.storage "key generation output without validator key")
  else store.put (keyGenerationKey output.validatorKey) (KeyGeneration.format.encode output)

/-- What was stored for a validator key. -/
def getKeyGeneration (validatorKey : Bytes) : Effect σ (Option KeyGeneration) := do
  match ← store.get (keyGenerationKey validatorKey) with
  | none => return none
  | some bytes =>
    match KeyGeneration.format.decode bytes with
    | .ok output => return some output
    | .error fault => throw (.unreadable (.keyGeneration fault))

end Store

end Resharing
