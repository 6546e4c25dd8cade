import Resharing.Crash
import Resharing.Delivery.Permits
import Resharing.Delivery.Transport
import Resharing.Message.Initiation

/-!
# Delivering to many

Every recipient has a task of its own: it asks for a permit, calls the recipient and
ends with a status. Tasks are polled in the order of the recipients' numbers, at the
instants at which something can have happened. A polled task looks first whether the
session is cancelled, then whether its call has ended, then whether its time is up.

## Main definitions

* `Phase`, `Task`, `Task.poll`: one recipient
* `Fanout`: all recipients and what they share
* `Fanout.deliver`: the report on an initiation
-/

namespace Resharing

/-- A call under way. -/
structure Call where
  /-- When it ends by itself, if ever. -/
  endsAt : Option Nat
  ending : Ending
  /-- When it is given up. -/
  deadline : Nat

/-- How far a delivery has come. -/
inductive Phase where
  | fresh
  | queued
  | calling (call : Call)
  | ended (status : DeliveryStatus)

/-- The delivery to one recipient. -/
structure Task where
  id : OperatorId
  address : String
  phase : Phase

/-- How the deliveries of a session are made. -/
structure DeliverySettings where
  /-- How many calls may be under way. Zero means one. -/
  limit : UInt64
  /-- The milliseconds after which a call is given up. -/
  timeout : Nat

namespace DeliverySettings

/-- Sixteen calls under way, half a minute each. -/
def standard : DeliverySettings := ⟨16, 30000⟩

def permits (settings : DeliverySettings) : Nat := max settings.limit.toNat 1

/-- The greatest possible number of permits. -/
def maxPermits : Nat := UInt64.size / 8 - 1

end DeliverySettings

/-- What the deliveries share. -/
structure Shared (τ : Type) where
  permits : Permits
  traffic : Traffic
  transport : τ

/-- What is the same throughout the deliveries of a session. -/
structure Mission (τ : Type) where
  settings : DeliverySettings
  transport : Transport τ
  payload : Bytes

/-- The status of a delivery whose call ended by itself. -/
def Ending.status : Ending → DeliveryStatus
  | .answer (.ok ()) => .delivered
  | .answer (.error fault) => .failed fault
  | .abort => .failed (.transport "delivery task aborted")

namespace Task

variable {τ : Type} (mission : Mission τ) (now : Nat)

def ended (task : Task) (status : DeliveryStatus) : Task := { task with phase := .ended status }

def isEnded (task : Task) : Bool :=
  match task.phase with
  | .ended _ => true
  | _ => false

/-- Looks at a call under way: the call's own end comes before its deadline. -/
def proceed (task : Task) (call : Call) (shared : Shared τ) : Task × Shared τ :=
  let returned : Shared τ :=
    { shared with permits := shared.permits.release, traffic := shared.traffic.finish }
  -- A call that ends exactly at its deadline has ended by itself.
  if call.endsAt.any (· ≤ now) then
    let status := call.ending.status
    let traffic :=
      if status = .delivered then returned.traffic.accept task.address mission.payload
      else returned.traffic
    (task.ended status, { returned with traffic := traffic })
  else if call.deadline ≤ now then (task.ended (.failed .timeout), returned)
  else ({ task with phase := .calling call }, shared)

/-- Starts the call of a task that holds a permit. -/
def start (task : Task) (shared : Shared τ) : Task × Shared τ :=
  let (behaviour, transport) := mission.transport.call task.address mission.payload shared.transport
  let call : Call :=
    ⟨behaviour.delay.map (now + ·), behaviour.ending, now + mission.settings.timeout⟩
  proceed mission now task call
    { shared with
      transport := transport
      traffic := shared.traffic.begin now task.address }

/-- Ends a task that the cancellation finds unfinished, and gives back what it holds. -/
def abandon (task : Task) (shared : Shared τ) : Task × Shared τ :=
  match task.phase with
  | .fresh => (task.ended .cancelled, shared)
  | .queued =>
    -- A grant that was not picked up goes to the next in the queue.
    (task.ended .cancelled, { shared with permits := shared.permits.withdraw task.id })
  | .calling _ =>
    (task.ended .cancelled,
      { shared with permits := shared.permits.release, traffic := shared.traffic.finish })
  | .ended _ => (task, shared)

/-- Lets a task go as far as it can. -/
def poll (cancelled : Bool) (task : Task) (shared : Shared τ) : Task × Shared τ :=
  if cancelled then task.abandon shared
  else
    match task.phase with
    | .fresh =>
      match shared.permits.ask task.id with
      | (true, permits) => task.start mission now { shared with permits := permits }
      | (false, permits) =>
        ({ task with phase := .queued }, { shared with permits := permits })
    | .queued =>
      match shared.permits.claim task.id with
      | some permits => task.start mission now { shared with permits := permits }
      | none => (task, shared)
    | .calling call => task.proceed mission now call shared
    | .ended _ => (task, shared)

/-- When something can happen to a task by itself. -/
def wakesAt (task : Task) : Option Nat :=
  match task.phase with
  | .calling call => some (min (call.endsAt.getD call.deadline) call.deadline)
  | _ => none

/-- The outcome of a task that is over. -/
def outcome (task : Task) : Outcome :=
  match task.phase with
  | .ended status => ⟨task.id, task.address, status⟩
  | _ => ⟨task.id, task.address, Ending.abort.status⟩

end Task

/-- All deliveries of a session at an instant. -/
structure Fanout (τ : Type) where
  now : Nat
  /-- The deliveries in the order of the recipients' numbers. -/
  tasks : List Task
  shared : Shared τ

namespace Fanout

variable {τ : Type} (mission : Mission τ)

/-- Polls tasks one after the other. -/
def pollAll (now : Nat) (cancelled : Bool) : List Task → Shared τ → List Task × Shared τ
  | [], shared => ([], shared)
  | task :: rest, shared =>
    let (task, shared) := task.poll mission now cancelled shared
    let (rest, shared) := pollAll now cancelled rest shared
    (task :: rest, shared)

/-- Everything that happens at the present instant. -/
def settle (cancelAt : Option Nat) (fanout : Fanout τ) : Fanout τ :=
  let cancelled := cancelAt.any (· ≤ fanout.now)
  let (tasks, shared) := pollAll mission fanout.now cancelled fanout.tasks fanout.shared
  { fanout with tasks := tasks, shared := shared }

/-- The next instant at which something can happen. -/
def next? (cancelAt : Option Nat) (fanout : Fanout τ) : Option Nat :=
  (cancelAt.toList ++ fanout.tasks.filterMap Task.wakesAt).min?

/-- Goes from instant to instant until every delivery is over. Each instant after the
first ends a delivery, so their number bounds the instants. -/
def run (cancelAt : Option Nat) : Nat → Fanout τ → Fanout τ
  | 0, fanout => fanout
  | fuel + 1, fanout =>
    let fanout := fanout.settle mission cancelAt
    if fanout.tasks.all Task.isEnded then fanout
    else
      match fanout.next? cancelAt with
      | some time => run cancelAt fuel { fanout with now := time }
      -- Some call is always under way here, so this does not happen.
      | none => fanout

/-- The addresses of the recipients; of equal ids the last recipient counts. -/
def targets (recipients : List Operator) : OperatorMap String :=
  .ofList (recipients.map fun recipient => (recipient.id, recipient.address))

/-- The deliveries to some recipients before anything has happened. -/
def start (settings : DeliverySettings) (recipients : List Operator) (now : Nat)
    (traffic : Traffic) (transport : τ) : Fanout τ where
  now := now
  tasks := (targets recipients).entries.map fun (id, address) => ⟨id, address, .fresh⟩
  shared := ⟨.start settings.permits, traffic, transport⟩

/-- Delivers to all recipients, from the given instant on; the session may be cancelled
at another. -/
def deliver (recipients : List Operator) (cancelAt : Option Nat) (now : Nat)
    (traffic : Traffic) (transport : τ) : Except Crash (Fanout τ) :=
  if mission.settings.permits ≤ DeliverySettings.maxPermits then
    let fanout := start mission.settings recipients now traffic transport
    .ok (fanout.run mission cancelAt (fanout.tasks.length + 1))
  else .error .tooManyPermits

/-- The report on finished deliveries. -/
def report (fanout : Fanout τ) (session : SessionId) : Report :=
  ⟨session, fanout.tasks.map Task.outcome⟩

end Fanout

end Resharing
