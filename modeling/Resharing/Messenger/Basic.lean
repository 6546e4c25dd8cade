import Resharing.Directory.Basic
import Resharing.Publication.Basic
import Resharing.Topic.Basic

/-!
# Messengers

A messenger keeps topics, knows the nodes that subscribe to them, and takes messages
and results. It is given by its operations over a state.

## Main definitions

* `Messenger`, `StreamKind`: what a messenger can do
* `Messenger.provision`: the topic of a session
* `Messenger.broadcast`, `Messenger.streamOutputs`, `Messenger.streamBlame`
-/

namespace Resharing

/-- What kind of result is streamed. -/
inductive StreamKind where
  | output
  | blame
  deriving DecidableEq, Repr

/-- The name of a kind on the wire. -/
def StreamKind.name : StreamKind → String
  | .output => "dkgoutput"
  | .blame => "dkgblame"

/-- The kind that a name stands for. -/
def StreamKind.ofName? (name : String) : Option StreamKind :=
  if name = StreamKind.output.name then some .output
  else if name = StreamKind.blame.name then some .blame
  else none

/-- The operations of a messenger. -/
structure Messenger (σ : Type) where
  /-- Creates a topic, or replaces the one of that name. -/
  createTopic : Topic → Effect σ Unit
  /-- The topic of a name, if there is one. -/
  getTopic : String → Effect σ (Option Topic)
  registerNode : Subscriber → String → Effect σ Unit
  publish : String → Bytes → Effect σ Unit
  stream : StreamKind → String → Bytes → Effect σ Unit

/-- The topic of a session with some operators. -/
def sessionTopic (id : SessionId) (operators : List OperatorId) : Topic :=
  .forOperators id.hex operators

/-- The same computation, with another wording for its failures. -/
def Effect.blaming {σ α : Type} (effect : Effect σ α) (wrap : Error → Error) : Effect σ α :=
  ExceptT.adapt wrap effect

namespace Messenger

variable {σ : Type} (messenger : Messenger σ)

/-- Creates the topic of a session. There has to be an operator. -/
def provision (id : SessionId) (operators : List OperatorId) : Effect σ Topic := do
  if operators = [] then throw .noOperators
  else
    let topic := sessionTopic id operators
    (messenger.createTopic topic).blaming .topicNotCreated
    return topic

/-- Publishes a signed message, in its envelope, on the topic of its session. -/
def broadcast (signed : SignedMessage) : Effect σ Unit :=
  messenger.publish signed.message.session.hex (Envelope.format.encode (.ofSigned signed))

/-- Hands in outputs under the one request that they belong to. -/
def streamOutputs (outputs : Outputs) : Effect σ Unit := do
  let request ← Effect.ofResult (commonRequest outputs)
  messenger.stream .output request.hex (Outputs.format.encode outputs)

/-- Hands in a complaint under the session of the message complained about. -/
def streamBlame (blame : Blame) : Effect σ Unit :=
  messenger.stream .blame blame.message.message.session.hex (Blame.format.encode blame)

end Messenger

end Resharing
