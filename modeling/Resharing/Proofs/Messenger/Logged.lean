import Resharing.Messenger.Basic

/-!
# What a messenger is asked for

What a computation asks of a messenger is seen by one that is put in front of the given messenger.
It writes down all that it is asked for, beside the state, and makes no difference otherwise.

## Main definitions

* `Effect.noting`: a computation that leaves an entry in a log
* `Messenger.Request`, `Messenger.logged`: a messenger that writes down what it is asked for
-/

namespace Resharing

/-- The computation, with an entry added to a log that is kept beside the state. -/
def Effect.noting {σ α β : Type} (effect : Effect σ α) (entry : β) : Effect (σ × List β) α :=
  ExceptT.mk fun (state, log) =>
    let (result, next) := effect.perform state
    (result, next, log ++ [entry])

theorem Effect.perform_noting {σ α β : Type} (effect : Effect σ α) (entry : β) (state : σ)
    (log : List β) : (effect.noting entry).perform (state, log) =
      ((effect.perform state).1, (effect.perform state).2, log ++ [entry]) := rfl

/-- What a messenger can be asked for. -/
inductive Messenger.Request where
  | createTopic (topic : Topic)
  | getTopic (name : String)
  | registerNode (node : Subscriber) (topic : String)
  | publish (topic : String) (payload : Bytes)
  | stream (kind : StreamKind) (request : String) (payload : Bytes)

/-- A messenger that writes down what it is asked for and hands it on to another. -/
def Messenger.logged {σ : Type} (messenger : Messenger σ) :
    Messenger (σ × List Messenger.Request) where
  createTopic topic := (messenger.createTopic topic).noting (.createTopic topic)
  getTopic name := (messenger.getTopic name).noting (.getTopic name)
  registerNode node topic := (messenger.registerNode node topic).noting (.registerNode node topic)
  publish topic payload := (messenger.publish topic payload).noting (.publish topic payload)
  stream kind request payload :=
    (messenger.stream kind request payload).noting (.stream kind request payload)

end Resharing
