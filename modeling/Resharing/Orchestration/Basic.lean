import Resharing.Cancellation.Token
import Resharing.Delivery.Fanout
import Resharing.Messenger.Basic

/-!
# Running a session

A session runs in stages: its operators are looked up, its topic is created, its
initiation is composed, and the initiation is delivered. A stage that fails ends the
session with its error; a cancellation ends it before the deliveries and, once they
have begun, cuts short those that are still under way.

## Main definitions

* `Orchestrator`: everything a session runs with
* `Orchestrator.runSession`: a session, with the calls it made
* `Orchestrator.run`: a request, which becomes a session first
-/

namespace Resharing

/-- A call to something outside. -/
inductive OutsideCall where
  | lookup (id : OperatorId)
  | createTopic (topic : Topic)
  | sign
  /-- The initiation was sent to an address. -/
  | consume (address : String)
  deriving DecidableEq

/-- The creation of a topic, under way. -/
structure TopicCreation (σ : Type) where
  /-- After how many milliseconds it ends. -/
  delay : Nat
  ending : Effect σ Unit

/-- What creates topics, over a state. -/
structure TopicService (σ : Type) where
  begin : Topic → σ → TopicCreation σ × σ

/-- A messenger that creates topics after the same delay each time. -/
def Messenger.topicService {σ : Type} (messenger : Messenger σ) (delay : Nat) : TopicService σ :=
  ⟨fun topic state => (⟨delay, messenger.createTopic topic⟩, state)⟩

/-- What fails to create any topic, after the same delay each time. -/
def TopicService.failing {σ : Type} (error : Error) (delay : Nat) : TopicService σ :=
  ⟨fun _ state => (⟨delay, throw error⟩, state)⟩

/-- Everything a session runs with. All of it acts on one state, which stands for
everything outside. -/
structure Orchestrator (σ : Type) where
  directory : Directory σ
  topics : TopicService σ
  signer : Signer
  transport : Transport σ
  settings : DeliverySettings

/-- A finished session. -/
structure SessionRun (σ : Type) where
  result : Except Error Report
  endedAt : Nat
  calls : List OutsideCall
  /-- What was observed of its deliveries. -/
  traffic : Traffic
  state : σ

namespace Orchestrator

variable {σ : Type} (orchestrator : Orchestrator σ)

/-- Looks operators up one after the other, up to the first failure, with the number of
lookups made. -/
def resolve (ids : List OperatorId) (state : σ) : Except Error (List Operator) × Nat × σ :=
  match ids with
  | [] => (.ok [], 0, state)
  | id :: rest =>
    match (orchestrator.directory.lookup id).perform state with
    | (.error error, state) => (.error error, 1, state)
    | (.ok operator, state) =>
      match resolve rest state with
      | (.error error, made, state) => (.error error, made + 1, state)
      | (.ok operators, made, state) => (.ok (operator :: operators), made + 1, state)

/-- Delivers the initiation of a session whose topic exists. -/
def deliver (session : Session) (recipients : List Operator) (cancelAt : Option Nat) (now : Nat)
    (calls : List OutsideCall) (state : σ) : Except Crash (SessionRun σ) :=
  let calls := calls ++ [.sign]
  match Initiation.compose session orchestrator.signer with
  | .error error => .ok ⟨.error error, now, calls, .none, state⟩
  | .ok initiation => do
    let mission : Mission σ :=
      ⟨orchestrator.settings, orchestrator.transport, initiation.payload⟩
    let fanout ← Fanout.deliver mission recipients cancelAt now .none state
    let traffic := fanout.shared.traffic
    let made := traffic.started.map fun (_, address) => OutsideCall.consume address
    return ⟨.ok (fanout.report session.id), fanout.now, calls ++ made, traffic,
      fanout.shared.transport⟩

/-- Creates the topic of a session, then delivers. The cancellation wins over a creation
that takes time and has not ended before it comes. -/
def provision (session : Session) (recipients : List Operator) (plan : CancelPlan)
    (calls : List OutsideCall) (state : σ) : Except Crash (SessionRun σ) :=
  let ids := session.allIds
  let cancelAt := plan.time? 0
  if plan = .before then .ok ⟨.error .cancelled, 0, calls, .none, state⟩
  else if ids = [] then .ok ⟨.error .noOperators, 0, calls, .none, state⟩
  else
    let topic := sessionTopic session.id ids
    let (creation, state) := orchestrator.topics.begin topic state
    let now := creation.delay
    let calls := calls ++ [.createTopic topic]
    -- A creation that takes no time is over before anybody can cancel.
    if 0 < now ∧ cancelAt.any (· ≤ now) then
      .ok ⟨.error .cancelled, cancelAt.getD now, calls, .none, state⟩
    else
      match creation.ending.perform state with
      | (.error error, state) => .ok ⟨.error (.topicNotCreated error), now, calls, .none, state⟩
      | (.ok (), state) => orchestrator.deliver session recipients cancelAt now calls state

def runSession (session : Session) (plan : CancelPlan) (state : σ) :
    Except Crash (SessionRun σ) :=
  let ids := session.allIds
  let (resolved, made, state) := orchestrator.resolve ids state
  let calls := (ids.take made).map OutsideCall.lookup
  match resolved with
  | .error error => .ok ⟨.error error, 0, calls, .none, state⟩
  | .ok recipients => orchestrator.provision session recipients plan calls state

/-- Runs the session of a request under a name. The session is its own directory. -/
def run (id : SessionId) (request : Request) (plan : CancelPlan) (state : σ) :
    Except Crash (SessionRun σ) :=
  match Session.accept id request with
  | .error error => .ok ⟨.error error, 0, [], .none, state⟩
  | .ok session =>
    runSession { orchestrator with directory := session.directory } session plan state

end Orchestrator

end Resharing
