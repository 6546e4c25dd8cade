import Resharing.Http.MediaType
import Resharing.Http.Target
import Resharing.Json.Format
import Resharing.Mailbox.Basic
import Resharing.Messenger.Basic
import Resharing.Text.Base64

/-!
# The mailbox as a service

Requests are routed by path and method, their arguments are taken from path, query and
body in that order, and one operation of the mailbox answers. A request that is refused
changes nothing.

## Main definitions

* `Service`: what a service runs with
* `Route`, `Route.find?`: what the paths stand for
* `Service.topicFormat`, `Service.nodeFormat`, `Service.resultKinds`: what the service takes
* `Service.respond`: the response to a request and the mailbox afterwards
-/

namespace Resharing

/-- What a service runs with. -/
structure Service where
  digest : Bytes → Bytes
  timestamp : Instant → String

/-- What a path stands for. Parts of the path are still escaped. -/
inductive Route where
  | health
  | topics
  | topic (name : Bytes)
  | messages (name : Bytes)
  | nodes
  | publish
  | results (kind : Bytes)
  | result (kind request : Bytes)
  deriving DecidableEq, Repr

namespace Route

/-- A segment of a path that is a fixed word. -/
def word (text : String) : Bytes := Bytes.ofText text

/-- The route of a path. The last part of a path may not be empty. -/
def find? (segments : List Bytes) : Option Route :=
  match segments with
  | [first] =>
    if first = word "health" then some .health
    else if first = word "topics" then some .topics
    else if first = word "register_node" then some .nodes
    else if first = word "publish" then some .publish
    else none
  | [first, second] =>
    if second = [] then none
    else if first = word "topics" then some (.topic second)
    else if first = word "stream" then some (.results second)
    else none
  | [first, second, third] =>
    if third = [] then none
    else if first = word "topics" ∧ third = word "messages" then some (.messages second)
    else if first = word "stream" then some (.result second third)
    else none
  | _ => none

/-- Whether a path is for writing; otherwise it is for reading. -/
def isWritten : Route → Bool
  | .topics | .nodes | .publish | .results _ => true
  | _ => false

def methods (route : Route) : List String :=
  if route.isWritten then ["POST"] else ["GET", "HEAD"]

end Route

namespace Service

/-- The written form of a topic at the service. Clients have one of their own. -/
def topicFormat : Json.Format Topic :=
  .record
    (.field "topic_name" .text .refused (.field "subscribers" (.list .text) .refused .done))
    (fun topic => (topic.name, topic.subscribers, ()))
    (fun (name, subscribers, ()) => ⟨name, subscribers⟩)

/-- The written form of a node that is to be registered. -/
def nodeFormat : Json.Format Subscriber :=
  .record
    (.field "name" .text .refused (.field "address" .text .refused .done))
    (fun node => (node.name, node.address, ()))
    (fun (name, address, ()) => ⟨name, address⟩)

/-- The kinds of results that are taken. -/
def resultKinds : List String := ["dkgoutput", "dkgblame"]

/-- How many bytes a body may have. -/
def bodyLimit : Nat := 2 * 1024 * 1024

/-- What a handler has done: its response and the mailbox it leaves. -/
abbrev Handled := Except Http.Response (Http.Response × Mailbox)

/-- The response to a request that the mailbox does not meet. -/
def errorResponse (error : MailboxError) : Http.Response :=
  .json (if error.isAbsence then 404 else 400) (.record [("error", .text error.message)])

def pathText (part : Bytes) : Except Http.Response String :=
  match Bytes.text? (Percent.decode part) with
  | some text => .ok text
  | none => .error (.refusal 400)

/-- The one value of a field of the query. -/
def queryText (target : Http.Target) (name : String) : Except Http.Response String :=
  match Form.single? (Form.decode target.query) name with
  | some text => .ok text
  | none => .error (.refusal 400)

/-- The body, if it is not too long. -/
def bodyOf (request : Http.Request) : Except Http.Response Bytes :=
  if request.body.length ≤ bodyLimit then .ok request.body else .error (.refusal 413)

/-- Whether a type of body is JSON. -/
def isJsonType (contentType : String) : Bool :=
  (Http.MediaType.ofText? contentType).any Http.MediaType.isJson

/-- The value of a JSON body. What follows the value does not matter. -/
def bodyJson {α : Type} (format : Json.Format α) (request : Http.Request) :
    Except Http.Response α :=
  if request.contentType.any isJsonType then do
    match format.decodeLeading (← bodyOf request) with
    | .ok a => return a
    | .error .malformed => .error (.refusal 400)
    | .error .mismatch => .error (.refusal 422)
  else .error (.refusal 415)

/-- An operation of the mailbox as part of a handler. -/
def meet {α : Type} (result : Except MailboxError α) : Except Http.Response α :=
  result.mapError errorResponse

/-- The name and version that the service reports. -/
def health : Json.Value :=
  .record [("service", .text "messenger-svc"), ("status", .text "ok"), ("version", .text "0.1.0")]

variable (service : Service)

def messageJson (message : Mailbox.Message) : Json.Value :=
  .record [("hash", .text message.hash), ("payload", .text (Base64.encode message.payload)),
    ("created_at", .text (service.timestamp message.createdAt))]

/-- Answers a request whose route and method are known. -/
def handle (now : Instant) (route : Route) (target : Http.Target) (request : Http.Request)
    (mailbox : Mailbox) : Except Crash Handled :=
  match route with
  | .health => .ok (.ok (.json 200 health, mailbox))
  | .topics => .ok do
    let topic ← bodyJson topicFormat request
    let mailbox ← meet (mailbox.createTopic topic)
    return (.json 200 (topicFormat.value topic), mailbox)
  | .topic name => .ok do
    let topic ← meet (mailbox.getTopic (← pathText name))
    return (.json 200 (topicFormat.value topic), mailbox)
  | .messages name => .ok do
    let topic ← meet (mailbox.getTopic (← pathText name))
    let messages := mailbox.messagesOf topic.name
    return (.json 200 (.list (messages.map service.messageJson)), mailbox)
  | .nodes => .ok do
    let topic ← queryText target "subscribes_to"
    let node ← bodyJson nodeFormat request
    let mailbox ← meet (mailbox.registerNode node topic)
    return (.json 200 (.record [("name", .text node.name)]), mailbox)
  | .publish =>
    match (do return (← queryText target "topic_name", ← bodyOf request)) with
    | .error refusal => .ok (.error refusal)
    | .ok (topic, payload) => do
      match ← mailbox.publish service.digest now topic payload with
      | .error error => return .error (errorResponse error)
      | .ok (hash, mailbox) => return .ok (.json 200 (.record [("hash", .text hash)]), mailbox)
  | .results kind => .ok do
    let kind ← pathText kind
    let request_id ← queryText target "request_id"
    let payload ← bodyOf request
    if kind ∈ resultKinds then
      let mailbox ← meet (mailbox.putResult kind request_id payload)
      return (.bare 200, mailbox)
    else .error (errorResponse (.unknownKind kind))
  | .result kind request_id => .ok do
    let result ← meet (mailbox.getResult (← pathText kind) (← pathText request_id))
    return (.bytes result.payload, mailbox)

/-- The response to a request, and the mailbox afterwards. -/
def respond (now : Instant) (request : Http.Request) (mailbox : Mailbox) :
    Except Crash (Http.Response × Mailbox) :=
  match Http.Target.ofBytes request.target with
  | .error fault => .ok (.bare fault.status, mailbox)
  | .ok target =>
    match Route.find? target.segments with
    | none => .ok (.bare 404, mailbox)
    | some route =>
      if request.method ∈ route.methods then do
        match ← service.handle now route target request mailbox with
        | .error refusal =>
          return (if request.method = "HEAD" then refusal.withoutBody else refusal, mailbox)
        | .ok (response, mailbox) =>
          return (if request.method = "HEAD" then response.withoutBody else response, mailbox)
      else .ok (.methodNotAllowed route.methods, mailbox)

end Service

end Resharing
