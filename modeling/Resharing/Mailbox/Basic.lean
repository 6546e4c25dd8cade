import Resharing.Mailbox.Address
import Resharing.Table
import Resharing.Time.Instant
import Resharing.Topic.Basic

/-!
# The messenger's mailbox

A mailbox keeps topics, the nodes that subscribe to them, messages until they expire,
and results under a kind and a request. Every operation is a composition of steps each
of which touches one table at one key; clients that work at the same time interleave
these steps.

## Main definitions

* `Mailbox`, `Mailbox.Message`, `Mailbox.Result`: what is kept
* `Mailbox.createTopic`, `Mailbox.registerNode`, `Mailbox.publish`, `Mailbox.putResult`
* `Mailbox.getTopic`, `Mailbox.messagesOf`, `Mailbox.getNode`, `Mailbox.getResult`
* `Mailbox.cleanUp`: drops what has expired
* `MailboxError`: why a request is not met
-/

namespace Resharing

/-- Why a mailbox does not meet a request. -/
inductive MailboxError where
  | noTopic (name : String)
  | noNode (name : String)
  | noResult (kind request : String)
  | unnamedTopic
  | noSubscribers (name : String)
  /-- A node needs a name and an address. -/
  | incompleteNode
  | unnamedRequest
  | unknownKind (kind : String)
  deriving DecidableEq, Repr

namespace MailboxError

/-- Whether something was asked for that is not there; otherwise the request itself is
at fault. -/
def isAbsence : MailboxError → Bool
  | .noTopic _ | .noNode _ | .noResult _ _ => true
  | _ => false

def detail : MailboxError → String
  | .noTopic name => "topic " ++ name
  | .noNode name => "node " ++ name
  | .noResult kind request => kind ++ " for " ++ request
  | .unnamedTopic => "empty topic name"
  | .noSubscribers name => "topic " ++ name ++ " has no subscribers"
  | .incompleteNode => "node name and address are required"
  | .unnamedRequest => "empty request_id"
  | .unknownKind kind => "unknown stream " ++ kind

/-- The wording of a request not met. -/
def message (error : MailboxError) : String :=
  (if error.isAbsence then "Not found: " else "Invalid request: ") ++ error.detail

end MailboxError

namespace Mailbox

/-- A message as it is kept. -/
structure Message where
  hash : String
  topic : String
  payload : Bytes
  createdAt : Instant
  expiresAt : Instant
  deriving DecidableEq

/-- A result as it is kept. -/
structure Result where
  kind : String
  request : String
  payload : Bytes
  deriving DecidableEq

/-- For how many seconds a message is kept. -/
def Message.lifetime (message : Message) : Int :=
  let span : Int := message.expiresAt - message.createdAt
  span / nanosPerSecond

end Mailbox

/-- What a messenger keeps. -/
structure Mailbox where
  topics : Table String Topic
  nodes : Table String Subscriber
  messages : Table String Mailbox.Message
  /-- Results by kind and request. -/
  results : Table (String × String) Mailbox.Result
  /-- The seconds that a message is kept for. -/
  lifetime : Int

namespace Mailbox

def start (lifetime : Int) : Mailbox := ⟨.empty, .empty, .empty, .empty, lifetime⟩

/-- The lifetime of messages when none is given: an hour. -/
def standardLifetime : Int := 3600

/-! ### Steps -/

def putTopic (mailbox : Mailbox) (topic : Topic) : Mailbox :=
  { mailbox with topics := mailbox.topics.insert topic.name topic }

def putNode (mailbox : Mailbox) (node : Subscriber) : Mailbox :=
  { mailbox with nodes := mailbox.nodes.insert node.name node }

/-- A topic with one more subscriber, unless it has that one. -/
def subscribe (topic : Topic) (name : String) : Topic :=
  if name ∈ topic.subscribers then topic
  else { topic with subscribers := topic.subscribers ++ [name] }

/-- Adds a subscriber to a topic; a missing topic is made. -/
def addSubscriber (mailbox : Mailbox) (topic name : String) : Mailbox :=
  let known := (mailbox.topics.find? topic).getD ⟨topic, []⟩
  { mailbox with topics := mailbox.topics.insert topic (subscribe known name) }

def putMessage (mailbox : Mailbox) (message : Message) : Mailbox :=
  { mailbox with messages := mailbox.messages.insert message.hash message }

def keepResult (mailbox : Mailbox) (result : Result) : Mailbox :=
  { mailbox with results := mailbox.results.insert (result.kind, result.request) result }

/-! ### Operations -/

/-- Creates a topic, or replaces the one of its name. -/
def createTopic (mailbox : Mailbox) (topic : Topic) : Except MailboxError Mailbox :=
  if topic.name = "" then .error .unnamedTopic
  else if topic.subscribers = [] then .error (.noSubscribers topic.name)
  else .ok (mailbox.putTopic topic)

def getTopic (mailbox : Mailbox) (name : String) : Except MailboxError Topic :=
  match mailbox.topics.find? name with
  | some topic => .ok topic
  | none => .error (.noTopic name)

/-- Registers a node and subscribes it to a topic. -/
def registerNode (mailbox : Mailbox) (node : Subscriber) (topic : String) :
    Except MailboxError Mailbox :=
  if node.name = "" ∨ node.address = "" then .error .incompleteNode
  else .ok ((mailbox.putNode node).addSubscriber topic node.name)

def getNode (mailbox : Mailbox) (name : String) : Except MailboxError Subscriber :=
  match mailbox.nodes.find? name with
  | some node => .ok node
  | none => .error (.noNode name)

/-- The message that publishing makes, whose name is a digest. -/
def makeMessage (digest : Bytes → Bytes) (mailbox : Mailbox) (now : Instant) (topic : String)
    (payload : Bytes) : Except Crash Message := do
  let expiresAt ← now.addSeconds mailbox.lifetime
  return ⟨nameWith digest topic payload, topic, payload, now, expiresAt⟩

/-- Publishes a message on a topic that exists, and tells its name. The same message
published again replaces the earlier one. -/
def publish (digest : Bytes → Bytes) (mailbox : Mailbox) (now : Instant) (topic : String)
    (payload : Bytes) : Except Crash (Except MailboxError (String × Mailbox)) :=
  -- A lifetime beyond all dates only matters once there is something to keep.
  if mailbox.topics.contains topic then do
    let message ← makeMessage digest mailbox now topic payload
    return .ok (message.hash, mailbox.putMessage message)
  else .ok (.error (.noTopic topic))

/-- The messages on a topic, oldest first. -/
def messagesOf (mailbox : Mailbox) (topic : String) : List Message :=
  ((mailbox.messages.entries.map (·.2)).filter fun message => message.topic = topic).mergeSort
    fun left right => decide (left.createdAt ≤ right.createdAt)

/-- Keeps a result under its kind and request. -/
def putResult (mailbox : Mailbox) (kind request : String) (payload : Bytes) :
    Except MailboxError Mailbox :=
  if request = "" then .error .unnamedRequest
  else .ok (mailbox.keepResult ⟨kind, request, payload⟩)

/-- The result of a kind and request. -/
def getResult (mailbox : Mailbox) (kind request : String) : Except MailboxError Result :=
  match mailbox.results.find? (kind, request) with
  | some result => .ok result
  | none => .error (.noResult kind request)

/-- Drops the messages that have expired. -/
def cleanUp (mailbox : Mailbox) (now : Instant) : Mailbox :=
  { mailbox with
    messages := mailbox.messages.filter fun _ message => decide (now < message.expiresAt) }

end Mailbox

end Resharing
