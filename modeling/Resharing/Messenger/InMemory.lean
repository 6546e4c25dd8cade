import Resharing.Messenger.Basic
import Resharing.Table

/-!
# A messenger in memory

Topics, nodes, messages and results are kept in tables. It can be told to refuse the
creation of topics, or a number of registrations, and it counts the calls of both.

## Main definitions

* `InMemory`: its state
* `InMemory.messenger`: its operations
-/

namespace Resharing

/-- The state of a messenger in memory. -/
structure InMemory where
  topics : Table String Topic
  /-- Nodes by topic, in order of registration. -/
  nodes : Table String (List Subscriber)
  messages : Table String (List Bytes)
  streamed : List (StreamKind × String × Bytes)
  /-- Whether the creation of topics is refused. -/
  refusesTopics : Bool
  /-- How many more registrations are refused. -/
  refusals : Nat
  /-- How often a topic was to be created. -/
  topicCalls : Nat
  /-- How often a node was to be registered. -/
  nodeCalls : Nat

namespace InMemory

/-- A messenger without content that refuses as told. -/
def start (refusesTopics : Bool) (refusals : Nat) : InMemory :=
  ⟨.empty, .empty, .empty, [], refusesTopics, refusals, 0, 0⟩

/-- The nodes registered on a topic. -/
def nodesOf (state : InMemory) (topic : String) : List Subscriber :=
  (state.nodes.find? topic).getD []

/-- The messages published on a topic. -/
def messagesOf (state : InMemory) (topic : String) : List Bytes :=
  (state.messages.find? topic).getD []

/-- Creates a topic unless topics are refused. -/
def createTopic (topic : Topic) : Effect InMemory Unit := do
  modify fun state => { state with topicCalls := state.topicCalls + 1 }
  if (← get).refusesTopics then throw (.messenger "createTopic returned status 500")
  else modify fun state => { state with topics := state.topics.insert topic.name topic }

/-- Registers a node unless registrations are still refused. -/
def registerNode (node : Subscriber) (topic : String) : Effect InMemory Unit := do
  modify fun state => { state with nodeCalls := state.nodeCalls + 1 }
  let state ← get
  if 0 < state.refusals then
    set { state with refusals := state.refusals - 1 }
    throw (.messenger
      ("register_node returned status 503 on call " ++ Decimal.text state.nodeCalls))
  else set { state with nodes := state.nodes.modify topic [] (· ++ [node]) }

/-- Publishes bytes on a topic that exists. -/
def publish (topic : String) (payload : Bytes) : Effect InMemory Unit := do
  let state ← get
  if state.topics.contains topic then
    set { state with messages := state.messages.modify topic [] (· ++ [payload]) }
  else throw (.messenger ("unknown topic " ++ topic))

def stream (kind : StreamKind) (request : String) (payload : Bytes) : Effect InMemory Unit :=
  modify fun state => { state with streamed := state.streamed ++ [(kind, request, payload)] }

/-- The operations of a messenger in memory. -/
def messenger : Messenger InMemory where
  createTopic := createTopic
  getTopic name := return (← get).topics.find? name
  registerNode := registerNode
  publish := publish
  stream := stream

end InMemory

end Resharing
