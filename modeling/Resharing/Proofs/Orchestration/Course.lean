import Resharing.Orchestration.Basic
import Resharing.Proofs.Delivery.Schedule

/-!
# The courses of a session

What can happen in the course of a session, step by step: its operators are looked up one
after the other, its topic is created while somebody watches the switch, its initiation is
composed, and the deliveries follow any schedule. The owner may cancel or leave between any
two steps. Whatever is called, and what is known to have come of it, is kept in a log.

## Main definitions

* `Deed`: what is kept in the log
* `Stage`, `Prelude`: a session before its deliveries
* `Course`: a session at some moment
* `Course.Step`: what can happen next
-/

namespace Resharing

/-- What the log of a session says. -/
inductive Deed where
  | call (call : OutsideCall)
  | topicReady (topic : Topic)
  | composed (payload : Bytes)
  deriving DecidableEq

/-- How far a session has come before its deliveries. -/
inductive Stage (σ : Type) where
  /-- Some operators are still to be looked up, others have been found. -/
  | resolving (left : List OperatorId) (found : List Operator)
  | resolved (recipients : List Operator)
  /-- The creation of the topic is under way and ends at some instant. Those who watch the
  switch may have just looked at it. -/
  | creating (recipients : List Operator) (ending : Effect σ Unit) (due : Nat) (looked : Bool)
  | provided (recipients : List Operator)
  /-- The topic has been created and nobody had cancelled then. -/
  | confirmed (recipients : List Operator)

/-- A session before its deliveries. -/
structure Prelude (σ : Type) where
  stage : Stage σ
  switch : Switch
  memory : Option Wait
  now : Nat
  state : σ
  log : List Deed

/-- What is seen of the switch if it is looked at. -/
def Prelude.glance {σ : Type} (prelude : Prelude σ) : Wait := prelude.switch.glance prelude.memory

/-- A session that is over. -/
structure Finish (σ : Type) where
  result : Except Error Report
  switch : Switch
  now : Nat
  state : σ
  log : List Deed

/-- A session before its deliveries, over. -/
def Prelude.finish {σ : Type} (prelude : Prelude σ) (error : Error) : Finish σ :=
  ⟨.error error, prelude.switch, prelude.now, prelude.state, prelude.log⟩

/-- A session at some moment. -/
inductive Course (σ : Type) where
  | running (prelude : Prelude σ)
  | delivering (log : List Deed) (payload : Bytes) (round : Round σ)
  | finished (finish : Finish σ)
  /-- There cannot be as many permits as its settings ask for. -/
  | crashed (log : List Deed)

/-- The deliveries of some bytes. -/
def Orchestrator.mission {σ : Type} (orchestrator : Orchestrator σ) (payload : Bytes) :
    Mission σ :=
  ⟨orchestrator.settings, orchestrator.transport, payload⟩

/-- The topic of a session. -/
def Session.topic (session : Session) : Topic := sessionTopic session.id session.allIds

/-- The log of some deliveries. -/
def Round.deeds {τ : Type} (round : Round τ) : List Deed :=
  round.started.map fun call => .call (.consume call.2)

namespace Course

variable {σ : Type} (orchestrator : Orchestrator σ) (session : Session)

/-- A session before anything has happened. -/
def start (switch : Switch) (state : σ) : Course σ :=
  .running ⟨.resolving session.allIds [], switch, none, 0, state, []⟩

/-- What has been done. -/
def log : Course σ → List Deed
  | .running prelude => prelude.log
  | .delivering log _ round => log ++ round.deeds
  | .finished finish => finish.log
  | .crashed log => log

/-- What can happen next in a session. -/
inductive Step : Course σ → Course σ → Prop
  /-- An operator is looked up and found. -/
  | found {prelude : Prelude σ} {id : OperatorId} {left : List OperatorId}
      {operators : List Operator} {operator : Operator} {state : σ}
      (stage : prelude.stage = .resolving (id :: left) operators)
      (result : (orchestrator.directory.lookup id).perform prelude.state = (.ok operator, state)) :
      Step (.running prelude) (.running { prelude with
        stage := .resolving left (operators ++ [operator])
        state := state
        log := prelude.log ++ [.call (.lookup id)] })
  /-- An operator is looked up and not found. -/
  | missing {prelude : Prelude σ} {id : OperatorId} {left : List OperatorId}
      {operators : List Operator} {error : Error} {state : σ}
      (stage : prelude.stage = .resolving (id :: left) operators)
      (result : (orchestrator.directory.lookup id).perform prelude.state = (.error error, state)) :
      Step (.running prelude) (.finished (({ prelude with
        state := state
        log := prelude.log ++ [.call (.lookup id)] } : Prelude σ).finish error))
  | resolved {prelude : Prelude σ} {operators : List Operator}
      (stage : prelude.stage = .resolving [] operators) :
      Step (.running prelude) (.running { prelude with stage := .resolved operators })
  /-- The cancellation is seen before the topic is to be created. -/
  | revokedBefore {prelude : Prelude σ} {operators : List Operator}
      (stage : prelude.stage = .resolved operators) (seen : prelude.glance = .resolved) :
      Step (.running prelude) (.finished (prelude.finish .cancelled))
  /-- There is nobody to create a topic for. -/
  | nobody {prelude : Prelude σ} {operators : List Operator}
      (stage : prelude.stage = .resolved operators) (unseen : prelude.glance ≠ .resolved)
      (empty : session.allIds = []) :
      Step (.running prelude) (.finished (prelude.finish .noOperators))
  | begins {prelude : Prelude σ} {operators : List Operator} {creation : TopicCreation σ}
      {state : σ} (stage : prelude.stage = .resolved operators)
      (unseen : prelude.glance ≠ .resolved) (inhabited : session.allIds ≠ [])
      (begun : orchestrator.topics.begin session.topic prelude.state = (creation, state)) :
      Step (.running prelude) (.running { prelude with
        stage := .creating operators creation.ending (prelude.now + creation.delay) true
        memory := some prelude.glance
        state := state
        log := prelude.log ++ [.call (.createTopic session.topic)] })
  /-- The switch is looked at while the topic is created. -/
  | looks {prelude : Prelude σ} {operators : List Operator} {ending : Effect σ Unit} {due : Nat}
      (stage : prelude.stage = .creating operators ending due false)
      (unseen : prelude.glance ≠ .resolved) :
      Step (.running prelude) (.running { prelude with
        stage := .creating operators ending due true
        memory := some prelude.glance })
  /-- The cancellation is seen while the topic is created. -/
  | revokedMeanwhile {prelude : Prelude σ} {operators : List Operator} {ending : Effect σ Unit}
      {due : Nat} (stage : prelude.stage = .creating operators ending due false)
      (seen : prelude.glance = .resolved) :
      Step (.running prelude) (.finished (prelude.finish .cancelled))
  | sleeps {prelude : Prelude σ} {operators : List Operator} {ending : Effect σ Unit} {due : Nat}
      (stage : prelude.stage = .creating operators ending due true) (early : prelude.now < due) :
      Step (.running prelude)
        (.running { prelude with stage := .creating operators ending due false })
  | ready {prelude : Prelude σ} {operators : List Operator} {ending : Effect σ Unit} {due : Nat}
      {state : σ} (stage : prelude.stage = .creating operators ending due true)
      (late : due ≤ prelude.now) (result : ending.perform prelude.state = (.ok (), state)) :
      Step (.running prelude) (.running { prelude with
        stage := .provided operators
        state := state
        log := prelude.log ++ [.topicReady session.topic] })
  | notReady {prelude : Prelude σ} {operators : List Operator} {ending : Effect σ Unit}
      {due : Nat} {error : Error} {state : σ}
      (stage : prelude.stage = .creating operators ending due true) (late : due ≤ prelude.now)
      (result : ending.perform prelude.state = (.error error, state)) :
      Step (.running prelude)
        (.finished (({ prelude with state := state } : Prelude σ).finish (.topicNotCreated error)))
  /-- Nobody has cancelled by the time the topic exists. -/
  | confirmed {prelude : Prelude σ} {operators : List Operator}
      (stage : prelude.stage = .provided operators)
      (undisturbed : prelude.switch.cancelled = false) :
      Step (.running prelude) (.running { prelude with stage := .confirmed operators })
  /-- Somebody has cancelled by the time the topic exists. -/
  | revokedAfter {prelude : Prelude σ} {operators : List Operator}
      (stage : prelude.stage = .provided operators) (cancelled : prelude.switch.cancelled = true) :
      Step (.running prelude) (.finished (prelude.finish .cancelled))
  /-- The initiation could not be composed. -/
  | notComposed {prelude : Prelude σ} {operators : List Operator} {error : Error}
      (stage : prelude.stage = .confirmed operators)
      (result : Initiation.compose session orchestrator.signer = .error error) :
      Step (.running prelude) (.finished (({ prelude with
        log := prelude.log ++ [.call .sign] } : Prelude σ).finish error))
  /-- The initiation has been composed, and the deliveries begin. -/
  | composed {prelude : Prelude σ} {operators : List Operator} {initiation : Initiation}
      (stage : prelude.stage = .confirmed operators)
      (result : Initiation.compose session orchestrator.signer = .ok initiation)
      (few : orchestrator.settings.permits ≤ DeliverySettings.maxPermits) :
      Step (.running prelude) (.delivering
        (prelude.log ++ [.call .sign, .composed initiation.payload]) initiation.payload
        (.start (orchestrator.mission initiation.payload) operators prelude.switch prelude.now
          .none prelude.state))
  /-- The initiation has been composed, but there cannot be so many permits. -/
  | crashes {prelude : Prelude σ} {operators : List Operator} {initiation : Initiation}
      (stage : prelude.stage = .confirmed operators)
      (result : Initiation.compose session orchestrator.signer = .ok initiation)
      (many : ¬ orchestrator.settings.permits ≤ DeliverySettings.maxPermits) :
      Step (.running prelude)
        (.crashed (prelude.log ++ [.call .sign, .composed initiation.payload]))
  /-- The owner cancels before the deliveries. -/
  | cancels {prelude : Prelude σ} (owned : prelude.switch.owned = true) :
      Step (.running prelude) (.running { prelude with switch := prelude.switch.cancel })
  /-- The owner leaves before the deliveries. -/
  | leaves {prelude : Prelude σ} (owned : prelude.switch.owned = true) :
      Step (.running prelude) (.running { prelude with switch := prelude.switch.leave })
  /-- Time passes while the topic is created. -/
  | passes {prelude : Prelude σ} {operators : List Operator} {ending : Effect σ Unit}
      {due time : Nat} (stage : prelude.stage = .creating operators ending due false)
      (undisturbed : prelude.switch.cancelled = false) (later : prelude.now < time)
      (soon : time ≤ due) :
      Step (.running prelude) (.running { prelude with now := time })
  /-- Something happens to the deliveries. -/
  | delivers {log : List Deed} {payload : Bytes} {round next : Round σ}
      (step : Round.Step (orchestrator.mission payload) round next) :
      Step (.delivering log payload round) (.delivering log payload next)
  | reports {log : List Deed} {payload : Bytes} {round : Round σ} (complete : round.IsOver) :
      Step (.delivering log payload round) (.finished
        ⟨.ok (round.report session.id), round.switch, round.fanout.now,
          round.fanout.shared.transport, log ++ round.deeds⟩)

/-- One thing after the other. -/
abbrev Runs : Course σ → Course σ → Prop := Relation.ReflTransGen (Step orchestrator session)

end Course

end Resharing
