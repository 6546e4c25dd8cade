import Resharing.Http.Network
import Resharing.Orchestration.Basic

/-!
# A messenger over the network

A messenger at an address is asked with one request per operation. An operation is done if the
status of the response says so.

## Main definitions

* `RemoteMessenger`: where the messenger is
* `RemoteMessenger.messenger`: its operations over a network
* `RemoteMessenger.topicService`: the creation of topics as something that takes its time
* `RemoteMessenger.messagesOf`: what was published on a topic
-/

namespace Resharing

/-- A messenger at an address. -/
structure RemoteMessenger where
  /-- The address, without slashes at its end. -/
  address : String

namespace RemoteMessenger

/-- An address without the slashes at its end. -/
def trimSlashes (address : String) : String :=
  String.ofList (address.toList.reverse.dropWhile (· == '/')).reverse

def atAddress (address : String) : RemoteMessenger := ⟨trimSlashes address⟩

/-- The payload of a published message, in the form in which messages are listed. -/
def payloadFormat : Json.Format String :=
  .record (.field "payload" .text .refused .done)
    (fun payload => (payload, ())) (fun (payload, ()) => payload)

/-- The value in the body of a response. -/
def reply {α : Type} (format : Json.Format α) (response : Http.Response) : Except Error α :=
  (format.decode response.body).mapError fun _ => .unreadable .reply

/-- A response whose status says that an operation is done. -/
def done (operation : String) (response : Http.Response) : Except Error Http.Response :=
  if response.isSuccess then .ok response
  else .error (.messenger
    (operation ++ " failed with status: " ++ Http.Status.describe response.status))

/-- How a request without a response is reported: after the given words. -/
def unsent {α : Type} (context : String) (result : Except Http.SendFault α) : Except Error α :=
  result.mapError fun fault => .messenger (context ++ fault.message)

/-- The bytes of listed payloads, up to the first that spells none. -/
def payloads (written : List String) : Except Error (List Bytes) :=
  written.mapM fun payload =>
    (Base64.decode payload).mapError fun fault => .unreadable (.payload fault)

/-- The words before the fault of an operation whose request has no response. -/
def contextOf (operation : String) : String := operation ++ " request failed: "

variable (remote : RemoteMessenger)

def creation (topic : Topic) : Http.Inquiry :=
  .post (remote.address ++ "/topics") [] (Topic.format.encode topic)

def topicInquiry (name : String) : Http.Inquiry := .get (remote.address ++ "/topics/" ++ name)

/-- What asks for the messages on a topic. -/
def messagesInquiry (name : String) : Http.Inquiry :=
  .get (remote.address ++ "/topics/" ++ name ++ "/messages")

def registration (node : Subscriber) (topic : String) : Http.Inquiry :=
  .post (remote.address ++ "/register_node") [("subscribes_to", topic)]
    (Subscriber.format.encode node)

/-- What publishes bytes on a topic. -/
def publication (topic : String) (payload : Bytes) : Http.Inquiry :=
  .post (remote.address ++ "/publish") [("topic_name", topic)] payload

def handingIn (kind : StreamKind) (request : String) (payload : Bytes) : Http.Inquiry :=
  .post (remote.address ++ "/stream/" ++ kind.name) [("request_id", request)] payload

/-- How the creation of a topic ends. -/
def created (result : Except Http.SendFault Http.Response) : Except Error Unit := do
  discard (done "createTopic" (← unsent (contextOf "createTopic") result))

/-- The topic in a response; there is none if its name is unknown. -/
def found (response : Http.Response) : Except Error (Option Topic) := do
  if response.status = 404 then return none
  else return some (← reply Topic.format (← done "getTopic" response))

variable {σ : Type} (network : Http.Network σ)

/-- Asks over the network and judges the response. -/
def call {α : Type} (inquiry : Http.Inquiry) (context : String)
    (judge : Http.Response → Except Error α) : Effect σ α :=
  ExceptT.mk fun state =>
    let (result, state) := network.ask inquiry state
    ((unsent context result).bind judge, state)

/-- Asks over the network for something to be done. -/
def order (inquiry : Http.Inquiry) (operation context : String) : Effect σ Unit :=
  call network inquiry context fun response => discard (done operation response)

/-- The operations of the messenger over a network. -/
def messenger : Messenger σ where
  createTopic topic :=
    order network (remote.creation topic) "createTopic" (contextOf "createTopic")
  getTopic name := call network (remote.topicInquiry name) (contextOf "getTopic") found
  registerNode node topic :=
    order network (remote.registration node topic) "register_node"
      "failed to make request to messenger: "
  publish topic payload :=
    order network (remote.publication topic payload) "publish" (contextOf "publish")
  stream kind request payload :=
    order network (remote.handingIn kind request payload) kind.name (contextOf kind.name)

/-- The payloads of the messages on a topic, oldest first. -/
def messagesOf (topic : String) : Effect σ (List Bytes) :=
  call network (remote.messagesInquiry topic) "" fun response => do
    payloads (← reply (.list payloadFormat) (← done "messages" response))

/-- The creation of topics. The request is sent at the start; if nothing is answered, the
creation fails after the given milliseconds. -/
def topicService (timeout : Nat) : TopicService σ where
  begin topic state :=
    let (answer, state) := network.start (remote.creation topic) state
    let delay := match answer with
      | .ok .silence => timeout
      | _ => 0
    (⟨delay, .ofResult (created (answer.bind Http.Answer.result))⟩, state)

end RemoteMessenger

end Resharing
