import Mathlib.Logic.Function.Basic
import Mathlib.Logic.Relation
import Resharing.Proofs.Cancellation.Observer
import Resharing.Proofs.Delivery.Turn
import Resharing.Proofs.Operator.Map

/-!
# The schedules of a fan-out

The deliveries of a session are tasks of their own, and nothing fixes the order in which they
have their turns. A schedule lets any task that is not over have a turn at any moment, lets
whoever waits for the deliveries learn of them in any order, and lets the owner of the switch
cancel or leave at any moment. Time passes no further than to the next call that is due, and
not while a cancellation has not been attended to.

## Main definitions

* `Collector`: what is known of the deliveries to whoever waits for them
* `Round`: a fan-out with its collector and its observers
* `Round.Step`: what can happen next
* `Round.report`: the report on a round that is over
-/

namespace Resharing

/-- What whoever waits for the deliveries knows of them. -/
structure Collector where
  /-- An outcome for each recipient, for want of a better one that of a lost delivery. -/
  outcomes : OperatorMap Outcome
  /-- The recipients whose deliveries are waited for. -/
  pending : List OperatorId

namespace Collector

/-- What is known before anything has happened. -/
def start (targets : OperatorMap String) : Collector where
  outcomes := targets.map fun id address => ⟨id, address, Ending.abort.status⟩
  pending := targets.ids

/-- A delivery is over and tells its outcome. -/
def take (collector : Collector) (task : Task) : Collector where
  outcomes := collector.outcomes.insert task.id task.outcome
  pending := collector.pending.erase task.id

/-- A delivery is over and tells nothing. -/
def lose (collector : Collector) (task : Task) : Collector :=
  { collector with pending := collector.pending.erase task.id }

end Collector

/-- The deliveries of a session under some schedule. -/
structure Round (τ : Type) where
  fanout : Fanout τ
  switch : Switch
  /-- What each of them has seen of the switch, once it has looked. -/
  waits : OperatorId → Option Wait
  collector : Collector

namespace Round

variable {τ : Type} (mission : Mission τ)

/-- A round before anything has happened. -/
def start (recipients : List Operator) (switch : Switch) (now : Nat) (traffic : Traffic)
    (transport : τ) : Round τ where
  fanout := Fanout.start mission.settings recipients now traffic transport
  switch := switch
  waits := fun _ => none
  collector := .start (Fanout.targets recipients)

/-- One of the deliveries has a turn: it looks at the switch first. -/
def polled (round : Round τ) (before : List Task) (task : Task) (after : List Task) : Round τ :=
  let wait := round.switch.glance (round.waits task.id)
  let turn := task.poll mission round.fanout.now (wait = .resolved) round.fanout.shared
  { round with
    fanout := { round.fanout with tasks := before ++ turn.1 :: after, shared := turn.2 }
    waits := Function.update round.waits task.id (some wait) }

/-- What can happen next. -/
inductive Step : Round τ → Round τ → Prop
  /-- A delivery that is not over has a turn. -/
  | poll {round : Round τ} {before after : List Task} {task : Task}
      (place : round.fanout.tasks = before ++ task :: after)
      (unfinished : task.isEnded = false) :
      Step round (round.polled mission before task after)
  /-- A delivery that is over tells its outcome. -/
  | collect {round : Round τ} {task : Task} (member : task ∈ round.fanout.tasks)
      (complete : task.isEnded = true) (awaited : task.id ∈ round.collector.pending) :
      Step round { round with collector := round.collector.take task }
  /-- A delivery that was taken down by its call tells nothing. -/
  | lose {round : Round τ} {task : Task} (member : task ∈ round.fanout.tasks)
      (lost : task.phase = .ended Ending.abort.status)
      (awaited : task.id ∈ round.collector.pending) :
      Step round { round with collector := round.collector.lose task }
  | cancel {round : Round τ} (owned : round.switch.owned = true) :
      Step round { round with switch := round.switch.cancel }
  | leave {round : Round τ} (owned : round.switch.owned = true) :
      Step round { round with switch := round.switch.leave }
  /-- Time passes, at most until a call is due. -/
  | pass {round : Round τ} {time : Nat} (later : round.fanout.now < time)
      (undisturbed : round.switch.cancelled = false) (busy : round.collector.pending ≠ [])
      (soon : ∀ task ∈ round.fanout.tasks, ∀ wake, task.wakesAt = some wake → time ≤ wake) :
      Step round { round with fanout := { round.fanout with now := time } }

/-- One thing after the other. -/
abbrev Runs : Round τ → Round τ → Prop := Relation.ReflTransGen (Step mission)

/-- Nothing is waited for any more. -/
def IsOver (round : Round τ) : Prop := round.collector.pending = []

/-- The report on a round that is over. -/
def report (round : Round τ) (session : SessionId) : Report :=
  ⟨session, round.collector.outcomes.entries.map (·.2)⟩

/-- Whether the cancellation has come. -/
abbrev isCancelled (round : Round τ) : Bool := round.switch.cancelled

/-- The calls that have been started, in order. -/
abbrev started (round : Round τ) : List (Nat × String) := round.fanout.shared.traffic.started

variable {mission} {round next : Round τ}

/-- A cancellation is never taken back. -/
theorem Step.isCancelled_mono (step : Step mission round next)
    (cancelled : round.isCancelled = true) : next.isCancelled = true := by
  cases step with
  | cancel => rfl
  | poll | collect | lose | leave | pass => exact cancelled

theorem Runs.isCancelled_mono (run : Runs mission round next)
    (cancelled : round.isCancelled = true) : next.isCancelled = true := by
  induction run with
  | refl => exact cancelled
  | tail _ step ih => exact step.isCancelled_mono ih

/-- An owner that has left does not cancel. -/
theorem Runs.abandoned (run : Runs mission round next) (left : round.switch = .abandoned) :
    next.switch = .abandoned := by
  induction run with
  | refl => exact left
  | tail _ step ih =>
    cases step with
    | cancel owned => simp [ih, Switch.abandoned] at owned
    | leave owned => simp [ih, Switch.abandoned] at owned
    | poll | collect | lose | pass => exact ih

/-- Time does not run backwards. -/
theorem Runs.now_le (run : Runs mission round next) : round.fanout.now ≤ next.fanout.now := by
  induction run with
  | refl => exact Nat.le_refl _
  | tail _ step ih =>
    cases step with
    | pass later => exact Nat.le_trans ih (Nat.le_of_lt later)
    | poll | collect | lose | cancel | leave => exact ih

/-- Every moment of a run that nobody cancels is uncancelled. -/
theorem Runs.undisturbed (run : Runs mission round next)
    (undisturbed : next.isCancelled = false) : round.isCancelled = false :=
  Bool.eq_false_iff.mpr fun cancelled => by
    simp [run.isCancelled_mono cancelled] at undisturbed

end Round

end Resharing
