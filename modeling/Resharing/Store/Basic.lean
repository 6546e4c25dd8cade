import Resharing.Directory.Basic
import Resharing.Table

/-!
# Stores

A store keeps bytes under keys that are bytes. It is given by its two operations over
a state.

## Main definitions

* `Store`: getting and putting
* `Store.ofTable`: a store in memory
* `Store.refusing`: a store some of whose operations fail
* `Store.within`: a store in a part of a state
-/

namespace Resharing

/-- The operations of a store. -/
structure Store (σ : Type) where
  /-- The value under a key, if there is one. -/
  get : Bytes → Effect σ (Option Bytes)
  put : Bytes → Bytes → Effect σ Unit

namespace Store

def ofTable : Store (Table Bytes Bytes) where
  get key := return (← MonadState.get).find? key
  put key value := modify fun table => table.insert key value

/-- A store like another, except that getting or putting fails for a reason. -/
def refusing {σ : Type} (store : Store σ) (getFault putFault : Option String) : Store σ where
  get key :=
    match getFault with
    | some reason => throw (.storage reason)
    | none => store.get key
  put key value :=
    match putFault with
    | some reason => throw (.storage reason)
    | none => store.put key value

def within {σ τ : Type} (store : Store τ) (part : Part σ τ) : Store σ where
  get key := (store.get key).within part
  put key value := (store.put key value).within part

end Store

end Resharing
