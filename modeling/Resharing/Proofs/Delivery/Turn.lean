import Mathlib.Tactic.SplitIfs
import Resharing.Delivery.Fanout
import Resharing.Proofs.Delivery.Accounts

/-!
# One turn of a delivery

What a task does when it is polled, case by case. A call is judged at the instants up to the
one at which it is due: its own end comes before its deadline, so the status it is given
depends on the behaviour of its address and on the time allowed, and on nothing else.

## Main definitions

* `Mission.Behaves`: addresses whose behaviour does not depend on other calls
* `Behaviour.statusWithin`: the status of a delivery that nobody cancels
* `Call.due`, `Call.verdict`: when a call is over, and how
* `Task.Lawful`: a task that obeys the behaviour of its address

## Main results

* `Call.verdict_dial`: a call that is judged in time gets the status of its behaviour
* `Task.lawful_poll`: a turn keeps a task lawful
* `Task.balanced_poll`: a turn keeps the accounts of the permits
* `Task.frame_poll`: a turn changes nothing of its task but the phase
* `Task.started_poll`: a turn starts at most one call, that of its task
-/

namespace Resharing

/-- What comes of a call to an address depends on the address and on nothing else. -/
def Mission.Behaves {τ : Type} (mission : Mission τ) (behaviour : String → Behaviour) : Prop :=
  ∀ address state, (mission.transport.call address mission.payload state).1 = behaviour address

/-- The status of a delivery that nobody cancels, when its call may take so long. -/
def Behaviour.statusWithin (behaviour : Behaviour) (timeout : Nat) : DeliveryStatus :=
  if behaviour.delay.any (· ≤ timeout) then behaviour.ending.status else .failed .timeout

theorem Ending.status_ne_cancelled (ending : Ending) : ending.status ≠ .cancelled := by
  unfold Ending.status
  split <;> simp

theorem Behaviour.statusWithin_ne_cancelled (behaviour : Behaviour) (timeout : Nat) :
    behaviour.statusWithin timeout ≠ .cancelled := by
  unfold statusWithin
  split_ifs
  · exact behaviour.ending.status_ne_cancelled
  · simp

/-! ### Calls -/

namespace Call

variable (call : Call) (now : Nat)

/-- When a call is over at the latest: it ends, or its time is up. -/
def due : Nat := min (call.endsAt.getD call.deadline) call.deadline

/-- How a call is over at an instant, if it is. -/
def verdict : Option DeliveryStatus :=
  if call.endsAt.any (· ≤ now) then some call.ending.status
  else if call.deadline ≤ now then some (.failed .timeout)
  else none

theorem verdict_eq_none_iff : call.verdict now = none ↔ now < call.due := by
  unfold verdict due
  cases call.endsAt with
  | none => simp
  | some ends =>
    simp only [Option.any_some, decide_eq_true_eq, Option.getD_some]
    split_ifs with complete late
    · simp only [false_iff]
      omega
    · simp only [false_iff]
      omega
    · simp only [true_iff]
      omega

end Call

section

variable {τ : Type} (mission : Mission τ) (now : Nat)

/-- The call that is made at an instant to an address of some behaviour. -/
def Mission.dial (behaviour : Behaviour) : Call :=
  ⟨behaviour.delay.map (now + ·), behaviour.ending, now + mission.settings.timeout⟩

/-- A call that is not judged late is judged by its behaviour and the time allowed. -/
theorem Call.verdict_dial {mission : Mission τ} {behaviour : Behaviour} {begun now : Nat}
    {status : DeliveryStatus} (judged : (mission.dial begun behaviour).verdict now = some status)
    (inTime : now ≤ (mission.dial begun behaviour).due) :
    status = behaviour.statusWithin mission.settings.timeout := by
  obtain ⟨delay, ending⟩ := behaviour
  have reached : (mission.dial begun ⟨delay, ending⟩).due ≤ now := by
    rw [← Nat.not_lt, ← verdict_eq_none_iff, judged]
    simp
  -- The call is judged exactly when it is due, so the two branches of `verdict` are told apart
  -- by whether its own end comes before its deadline.
  cases delay with
  | none =>
    simp only [Mission.dial, due, Option.map_none, Option.getD_none, Nat.min_self] at reached
    change (if begun + mission.settings.timeout ≤ now then some (.failed .timeout) else none) =
      some status at judged
    rw [if_pos reached] at judged
    exact (Option.some.inj judged).symm
  | some delay =>
    simp only [Mission.dial, due, Option.map_some, Option.getD_some] at inTime reached
    change (if decide (begun + delay ≤ now) = true then some ending.status
      else if begun + mission.settings.timeout ≤ now then some (.failed .timeout) else none) =
        some status at judged
    simp only [Behaviour.statusWithin, Option.any_some, decide_eq_true_eq] at judged ⊢
    by_cases complete : begun + delay ≤ now
    · rw [if_pos complete] at judged
      rw [if_pos (by omega)]
      exact (Option.some.inj judged).symm
    · rw [if_neg complete, if_pos (by omega)] at judged
      rw [if_neg (by omega)]
      exact (Option.some.inj judged).symm

theorem Mission.due_dial_ge {mission : Mission τ} (begun : Nat) (behaviour : Behaviour) :
    begun ≤ (mission.dial begun behaviour).due := by
  obtain ⟨delay, ending⟩ := behaviour
  cases delay <;> simp [Mission.dial, Call.due]

namespace Shared

/-- What the deliveries share once a call has been started. -/
def dialled (shared : Shared τ) (address : String) : Shared τ :=
  { shared with
    transport := (mission.transport.call address mission.payload shared.transport).2
    traffic := shared.traffic.begin now address }

/-- What the deliveries share once a call is over with a status. -/
def hungUp (shared : Shared τ) (address : String) (status : DeliveryStatus) : Shared τ :=
  { shared with
    permits := shared.permits.release
    traffic :=
      if status = .delivered then shared.traffic.finish.accept address mission.payload
      else shared.traffic.finish }

@[simp] theorem permits_hungUp (shared : Shared τ) (address : String) (status : DeliveryStatus) :
    (shared.hungUp mission address status).permits = shared.permits.release := rfl

@[simp] theorem transport_hungUp (shared : Shared τ) (address : String) (status : DeliveryStatus) :
    (shared.hungUp mission address status).transport = shared.transport := rfl

@[simp] theorem started_hungUp (shared : Shared τ) (address : String) (status : DeliveryStatus) :
    (shared.hungUp mission address status).traffic.started = shared.traffic.started := by
  unfold hungUp
  split_ifs <;> rfl

end Shared

/-! ### Turns -/

namespace Task

variable {task : Task} {shared : Shared τ} {call : Call}

@[simp] theorem isEnded_ended (task : Task) (status : DeliveryStatus) :
    (task.ended status).isEnded = true := rfl

@[simp] theorem id_outcome (task : Task) : task.outcome.id = task.id := by
  unfold outcome
  cases task.phase <;> rfl

@[simp] theorem address_outcome (task : Task) : task.outcome.address = task.address := by
  unfold outcome
  cases task.phase <;> rfl

theorem isEnded_iff : task.isEnded = true ↔ ∃ status, task.phase = .ended status := by
  unfold isEnded
  cases task.phase <;> simp

/-- A look at a call goes by its verdict. -/
theorem proceed_eq : task.proceed mission now call shared =
    match call.verdict now with
    | some status => (task.ended status, shared.hungUp mission task.address status)
    | none => ({ task with phase := .calling call }, shared) := by
  unfold proceed Call.verdict Shared.hungUp
  split_ifs <;> simp_all

/-- A task that starts its call looks at it at once. -/
theorem start_eq : task.start mission now shared =
    task.proceed mission now
      (mission.dial now (mission.transport.call task.address mission.payload shared.transport).1)
      (shared.dialled mission now task.address) := rfl

theorem poll_ended (cancelled : Bool) (complete : task.isEnded = true) :
    task.poll mission now cancelled shared = (task, shared) := by
  obtain ⟨status, phase⟩ := isEnded_iff.mp complete
  cases cancelled <;> simp [poll, abandon, phase]

/-- A cancelled task that is not over ends as cancelled. -/
theorem poll_cancelled (unfinished : task.isEnded = false) :
    (task.poll mission now true shared).1 = task.ended .cancelled := by
  unfold isEnded at unfinished
  unfold poll abandon
  cases phase : task.phase <;> simp_all

/-! ### Turns and the accounts -/

/-- How many calls of a task are under way. -/
def calls (task : Task) : Nat :=
  match task.phase with
  | .calling _ => 1
  | _ => 0

/-- Who waits for a permit because of a task. -/
def waiters (task : Task) : List OperatorId :=
  match task.phase with
  | .queued => [task.id]
  | _ => []

/-- Whether a task has made its call, unless it was cut short. -/
def hasBegun (task : Task) : Bool :=
  match task.phase with
  | .fresh | .queued => false
  | .calling _ | .ended _ => true

variable {total calls : Nat} {others : List OperatorId}

/-- The accounts of the permits when one task is looked at apart from the others. -/
def Balanced (total calls : Nat) (others : List OperatorId) (turn : Task × Shared τ) : Prop :=
  turn.2.permits.Balanced total (calls + turn.1.calls) (others ++ turn.1.waiters)

theorem balanced_proceed (balanced : shared.permits.Balanced total (calls + 1) others) :
    Balanced total calls others (task.proceed mission now call shared) := by
  rw [proceed_eq]
  cases call.verdict now with
  | none => simpa [Balanced, Task.calls, waiters] using balanced
  | some status => simpa [Balanced, Task.calls, waiters, ended] using balanced.release

theorem balanced_start (balanced : shared.permits.Balanced total (calls + 1) others) :
    Balanced total calls others (task.start mission now shared) := by
  rw [start_eq]
  exact balanced_proceed mission now balanced

theorem balanced_abandon (balanced : Balanced total calls others (task, shared)) :
    Balanced total calls others (task.abandon shared) := by
  unfold Balanced at balanced
  cases phase : task.phase with
  | fresh => simpa [Balanced, abandon, phase, Task.calls, waiters, ended] using balanced
  | ended status => simpa [Balanced, abandon, phase] using balanced
  | queued =>
    simp only [Task.calls, waiters, phase] at balanced
    simpa [Balanced, abandon, phase, Task.calls, waiters, ended] using balanced.withdraw
  | calling call =>
    simp only [Task.calls, waiters, phase, List.append_nil] at balanced
    simpa [Balanced, abandon, phase, Task.calls, waiters, ended] using balanced.release

/-- A turn keeps the accounts, whatever it finds. -/
theorem balanced_poll (cancelled : Bool) (balanced : Balanced total calls others (task, shared)) :
    Balanced total calls others (task.poll mission now cancelled shared) := by
  cases cancelled with
  | true => exact balanced_abandon balanced
  | false =>
    have accounts := balanced
    unfold Balanced at accounts
    cases phase : task.phase with
    | ended status => simpa [poll, phase] using balanced
    | calling call =>
      simp only [Task.calls, waiters, phase, List.append_nil] at accounts
      simpa [poll, phase] using balanced_proceed mission now accounts
    | fresh =>
      simp only [Task.calls, waiters, phase, List.append_nil, Nat.add_zero] at accounts
      rcases accounts.ask task.id with ⟨free, -, asked, next⟩ | ⟨-, asked, next⟩
      · have started : ({ shared with permits := { shared.permits with free } } :
            Shared τ).permits.Balanced total (calls + 1) others := next
        simpa [poll, phase, asked] using balanced_start mission now started
      · simpa [poll, phase, asked, Balanced, Task.calls, waiters] using next
    | queued =>
      simp only [Task.calls, waiters, phase, Nat.add_zero] at accounts
      cases claimed : shared.permits.claim task.id with
      | none => simpa [poll, phase, claimed] using balanced
      | some permits =>
        have started : ({ shared with permits } : Shared τ).permits.Balanced total (calls + 1)
            others := accounts.claim claimed
        simpa [poll, phase, claimed] using balanced_start mission now started

/-! ### Turns and what is observed -/

theorem frame_proceed : (task.proceed mission now call shared).1 =
    { task with phase := (task.proceed mission now call shared).1.phase } := by
  rw [proceed_eq]
  cases call.verdict now <;> rfl

theorem hasBegun_proceed : (task.proceed mission now call shared).1.hasBegun = true := by
  rw [proceed_eq]
  cases call.verdict now <;> rfl

theorem started_proceed :
    (task.proceed mission now call shared).2.traffic.started = shared.traffic.started := by
  rw [proceed_eq]
  cases call.verdict now <;> simp

theorem transport_proceed :
    (task.proceed mission now call shared).2.transport = shared.transport := by
  rw [proceed_eq]
  cases call.verdict now <;> simp

/-- What a turn can be while nobody cancels: nothing happens, or the task joins the queue, or
it gets a permit and starts its call, or it looks at its call. -/
theorem poll_cases (task : Task) (shared : Shared τ) :
    (task.poll mission now false shared = (task, shared) ∧
      (task.isEnded = true ∨ task.phase = .queued ∧ task.id ∉ shared.permits.granted)) ∨
    (task.phase = .fresh ∧ ∃ permits,
      task.poll mission now false shared =
        ({ task with phase := .queued }, { shared with permits })) ∨
    (task.hasBegun = false ∧ ∃ permits,
      task.poll mission now false shared = task.start mission now { shared with permits }) ∨
    (∃ call, task.phase = .calling call ∧
      task.poll mission now false shared = task.proceed mission now call shared) := by
  cases phase : task.phase with
  | fresh =>
    rcases asked : shared.permits.ask task.id with ⟨granted, permits⟩
    cases granted with
    | true =>
      refine .inr (.inr (.inl ⟨by simp [hasBegun, phase], permits, ?_⟩))
      simp [poll, phase, asked]
    | false => exact .inr (.inl ⟨rfl, permits, by simp [poll, phase, asked]⟩)
  | queued =>
    cases claimed : shared.permits.claim task.id with
    | some permits =>
      refine .inr (.inr (.inl ⟨by simp [hasBegun, phase], permits, ?_⟩))
      simp [poll, phase, claimed]
    | none =>
      refine .inl ⟨by simp [poll, phase, claimed], .inr ⟨rfl, fun granted => ?_⟩⟩
      simp [Permits.claim, granted] at claimed
  | calling call => exact .inr (.inr (.inr ⟨call, rfl, by simp [poll, phase]⟩))
  | ended status => exact .inl ⟨by simp [poll, phase], .inl (by simp [isEnded, phase])⟩

/-- A turn changes nothing of a task but its phase. -/
theorem frame_poll (cancelled : Bool) : (task.poll mission now cancelled shared).1 =
    { task with phase := (task.poll mission now cancelled shared).1.phase } := by
  cases cancelled with
  | true =>
    unfold poll abandon
    cases task.phase <;> rfl
  | false =>
    rcases task.poll_cases mission now shared with
      ⟨turn, -⟩ | ⟨-, permits, turn⟩ | ⟨-, permits, turn⟩ | ⟨call, -, turn⟩
    · rw [turn]
    · rw [turn]
    · rw [turn, start_eq]
      exact frame_proceed mission now
    · rw [turn]
      exact frame_proceed mission now

theorem id_poll (cancelled : Bool) : (task.poll mission now cancelled shared).1.id = task.id := by
  rw [frame_poll]

theorem address_poll (cancelled : Bool) :
    (task.poll mission now cancelled shared).1.address = task.address := by
  rw [frame_poll]

/-- A cancelled turn starts no call. -/
theorem started_abandon : (task.abandon shared).2.traffic.started = shared.traffic.started := by
  unfold abandon
  cases task.phase <;> rfl

theorem transport_abandon : (task.abandon shared).2.transport = shared.transport := by
  unfold abandon
  cases task.phase <;> rfl

/-- While nobody cancels, a turn starts the call of its task if it starts any. -/
theorem started_poll (task : Task) (shared : Shared τ) :
    ((task.poll mission now false shared).1.hasBegun = task.hasBegun ∧
      (task.poll mission now false shared).2.traffic.started = shared.traffic.started ∧
      (task.poll mission now false shared).2.transport = shared.transport) ∨
    (task.hasBegun = false ∧ (task.poll mission now false shared).1.hasBegun = true ∧
      (task.poll mission now false shared).2.traffic.started =
        shared.traffic.started ++ [(now, task.address)] ∧
      (task.poll mission now false shared).2.transport =
        (mission.transport.call task.address mission.payload shared.transport).2) := by
  rcases task.poll_cases mission now shared with
    ⟨turn, -⟩ | ⟨phase, permits, turn⟩ | ⟨waits, permits, turn⟩ | ⟨call, phase, turn⟩
  · rw [turn]
    exact .inl ⟨rfl, rfl, rfl⟩
  · rw [turn]
    exact .inl ⟨by simp [hasBegun, phase], rfl, rfl⟩
  · rw [turn, start_eq]
    exact .inr ⟨waits, hasBegun_proceed _ _, started_proceed _ _, transport_proceed _ _⟩
  · rw [turn]
    refine .inl ⟨?_, started_proceed _ _, transport_proceed _ _⟩
    rw [hasBegun_proceed, hasBegun, phase]

/-! ### Turns and the law -/

/-- A task that obeys the behaviour of its address: its call was made as it behaves and is not
overdue, and its status is the one of its behaviour unless it was cancelled. -/
def Lawful (behaviour : String → Behaviour) (cancelled : Bool) (task : Task) : Prop :=
  match task.phase with
  | .fresh | .queued => True
  | .calling call =>
    (∃ begun, call = mission.dial begun (behaviour task.address)) ∧ now ≤ call.due
  | .ended status =>
    status = (behaviour task.address).statusWithin mission.settings.timeout ∨
      cancelled = true ∧ status = .cancelled

variable {mission now} {behaviour : String → Behaviour}

theorem lawful_proceed {begun : Nat} (cancelled : Bool)
    (made : call = mission.dial begun (behaviour task.address)) (inTime : now ≤ call.due) :
    (task.proceed mission now call shared).1.Lawful mission now behaviour cancelled := by
  rw [proceed_eq]
  cases judged : call.verdict now with
  | none => exact ⟨⟨begun, made⟩, inTime⟩
  | some status =>
    subst made
    exact .inl (Call.verdict_dial judged inTime)

/-- A turn keeps a task lawful. -/
theorem lawful_poll (behaves : mission.Behaves behaviour) {cancelled : Bool}
    (lawful : task.Lawful mission now behaviour cancelled) :
    (task.poll mission now cancelled shared).1.Lawful mission now behaviour cancelled := by
  cases cancelled with
  | true =>
    by_cases complete : task.isEnded = true
    · rwa [poll_ended mission now true complete]
    · rw [poll_cancelled mission now (Bool.eq_false_iff.mpr complete)]
      exact .inr ⟨rfl, rfl⟩
  | false =>
    rcases task.poll_cases mission now shared with
      ⟨turn, -⟩ | ⟨-, permits, turn⟩ | ⟨-, permits, turn⟩ | ⟨call, phase, turn⟩
    · rwa [turn]
    · rw [turn]
      trivial
    · -- A call that has just begun is looked at in the same turn, so it cannot be overdue.
      rw [turn, start_eq, behaves]
      exact lawful_proceed false rfl (Mission.due_dial_ge _ _)
    · rw [turn]
      simp only [Lawful, phase] at lawful
      obtain ⟨⟨begun, made⟩, inTime⟩ := lawful
      exact lawful_proceed false made inTime

/-- Time may pass as long as no call gets overdue. -/
theorem Lawful.later {cancelled : Bool} {time : Nat}
    (lawful : task.Lawful mission now behaviour cancelled)
    (soon : ∀ wake, task.wakesAt = some wake → time ≤ wake) :
    task.Lawful mission time behaviour cancelled := by
  unfold Lawful at lawful ⊢
  cases phase : task.phase with
  | calling call =>
    simp only [phase] at lawful ⊢
    exact ⟨lawful.1, soon call.due (by rw [wakesAt, phase]; rfl)⟩
  | fresh => trivial
  | queued => trivial
  | ended status => simpa only [phase] using lawful

/-- What is lawful stays so if somebody cancels. -/
theorem Lawful.disturbed {cancelled : Bool} (lawful : task.Lawful mission now behaviour cancelled) :
    task.Lawful mission now behaviour true := by
  unfold Lawful at lawful ⊢
  cases phase : task.phase with
  | ended status =>
    simp only [phase] at lawful
    exact lawful.imp_right fun cut => ⟨rfl, cut.2⟩
  | fresh => trivial
  | queued => trivial
  | calling call => simpa only [phase] using lawful

end Task

end

end Resharing
