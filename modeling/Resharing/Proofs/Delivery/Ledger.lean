import Mathlib.Data.List.Induction
import Mathlib.Order.Bounds.Basic
import Resharing.Delivery.Memory
import Resharing.Proofs.Delivery.Turn

/-!
# What a transport in memory does for a call

A call to a transport in memory enters, is held for a while and leaves; if its address does not
refuse, it is then put into the log. It may also be dropped while it is held, and then it only
leaves. This is told here move by move, by what the transport does when the call is looked at,
and without the status that the delivery is given. The two agree: a turn puts a call into the log
exactly if it ends the delivery as delivered.

## Main definitions

* `Move`, `Traffic.replay`: what a transport does, and what is observed of that
* `MemoryTransport.looked`, `MemoryTransport.turn`: what it does in a turn
* `Task.Seen`: the moves of a turn account for all that the turn changes

## Main results

* `Traffic.isGreatest_peak`: the peak is the greatest number of calls that were in flight
* `Task.seen_poll`: the moves of a turn account for it
-/

namespace Resharing

/-- What a transport in memory does. -/
inductive Move where
  /-- A call is made and is in flight. -/
  | enter (now : Nat) (address : String)
  /-- A call is no longer in flight. -/
  | leave
  /-- Some bytes are accepted at an address. -/
  | log (address : String) (payload : Bytes)

namespace Move

def isEnter : Move → Bool
  | .enter _ _ => true
  | _ => false

def isLeave : Move → Bool
  | .leave => true
  | _ => false

def logged? : Move → Option (String × Bytes)
  | .log address payload => some (address, payload)
  | _ => none

/-- How many calls have been made. -/
def enters (moves : List Move) : Nat := moves.countP isEnter

/-- How many calls have left. -/
def leaves (moves : List Move) : Nat := moves.countP isLeave

/-- What has been accepted, in order. -/
def logs (moves : List Move) : List (String × Bytes) := moves.filterMap logged?

variable {moves more : List Move}

@[simp] theorem enters_append : enters (moves ++ more) = enters moves + enters more :=
  List.countP_append

@[simp] theorem leaves_append : leaves (moves ++ more) = leaves moves + leaves more :=
  List.countP_append

@[simp] theorem logs_append : logs (moves ++ more) = logs moves ++ logs more :=
  List.filterMap_append

/-- No call leaves before it enters, when some are in flight already. -/
def Falls (flying : Nat) (moves : List Move) : Prop :=
  ∀ front, front <+: moves → leaves front ≤ flying + enters front

theorem falls_of_few {flying : Nat} (few : leaves moves ≤ flying) : Falls flying moves := by
  intro front leads
  have fewer : leaves front ≤ leaves moves := leads.sublist.countP_le
  omega

theorem Falls.mono {flying greater : Nat} (falls : Falls flying moves)
    (more : flying ≤ greater) : Falls greater moves := by
  intro front leads
  have fewer := falls front leads
  omega

theorem Falls.append {flying left : Nat} (falls : Falls flying moves)
    (balance : flying + enters moves = leaves moves + left) (next : Falls left more) :
    Falls flying (moves ++ more) := by
  intro front leads
  obtain ⟨rest, whole⟩ := leads
  rcases List.append_eq_append_iff.mp whole with ⟨middle, rfl, -⟩ | ⟨middle, rfl, same⟩
  · exact falls front (List.prefix_append front middle)
  · have later := next middle ⟨rest, same.symm⟩
    rw [leaves_append, enters_append]
    omega

end Move

namespace Traffic

open Move

variable {traffic : Traffic} {moves : List Move}

/-- What is observed of a move. -/
def see (traffic : Traffic) : Move → Traffic
  | .enter now address => traffic.begin now address
  | .leave => traffic.finish
  | .log address payload => traffic.accept address payload

/-- What is observed of some moves, one after the other. -/
def replay (traffic : Traffic) (moves : List Move) : Traffic := moves.foldl see traffic

theorem replay_append (traffic : Traffic) (moves more : List Move) :
    traffic.replay (moves ++ more) = (traffic.replay moves).replay more := List.foldl_append

theorem replay_concat (traffic : Traffic) (moves : List Move) (move : Move) :
    traffic.replay (moves ++ [move]) = (traffic.replay moves).see move := List.foldl_concat ..

theorem length_started_replay (traffic : Traffic) (moves : List Move) :
    (traffic.replay moves).started.length = traffic.started.length + enters moves := by
  induction moves using List.reverseRecOn with
  | nil => rfl
  | append_singleton moves move ih =>
    rw [replay_concat, enters_append, ← Nat.add_assoc, ← ih]
    cases move <;> simp [see, begin, finish, accept, enters, isEnter]

theorem accepted_replay (traffic : Traffic) (moves : List Move) :
    (traffic.replay moves).accepted = traffic.accepted ++ logs moves := by
  induction moves using List.reverseRecOn with
  | nil => exact (List.append_nil _).symm
  | append_singleton moves move ih =>
    rw [replay_concat, logs_append, ← List.append_assoc, ← ih]
    cases move <;> simp [see, begin, finish, accept, logs, logged?]

/-- As long as nothing leaves before it enters, those in flight are those that have not left. -/
theorem inFlight_replay (falls : Falls traffic.inFlight moves) :
    (traffic.replay moves).inFlight + leaves moves = traffic.inFlight + enters moves := by
  induction moves using List.reverseRecOn with
  | nil => rfl
  | append_singleton moves move ih =>
    have earlier := ih fun front leads => falls front (leads.trans (List.prefix_append _ _))
    have last := falls _ List.prefix_rfl
    rw [leaves_append, enters_append] at last
    rw [replay_concat, leaves_append, enters_append]
    cases move with
    | enter now address =>
      change (traffic.replay moves).inFlight + 1 + leaves moves = _ + (enters moves + 1)
      omega
    | leave =>
      -- The count does not stop at zero, because somebody is in flight who can leave.
      change leaves moves + 1 ≤ _ + enters moves at last
      change (traffic.replay moves).inFlight - 1 + (leaves moves + 1) = _ + enters moves
      omega
    | log address payload => exact earlier

/-- The numbers of calls that are in flight at some moment. -/
def flights (moves : List Move) : Set Nat :=
  {flying | ∃ front, front <+: moves ∧ (Traffic.none.replay front).inFlight = flying}

theorem flights_concat (moves : List Move) (move : Move) :
    flights (moves ++ [move]) =
      insert (Traffic.none.replay (moves ++ [move])).inFlight (flights moves) := by
  ext flying
  simp only [flights, List.prefix_concat_iff, Set.mem_ofPred_eq, Set.mem_insert_iff, or_and_right,
    exists_or, exists_eq_left]
  rw [eq_comm]

/-- The peak is the greatest number of calls that are in flight at any moment. -/
theorem isGreatest_peak (moves : List Move) :
    IsGreatest (flights moves) (Traffic.none.replay moves).peak := by
  induction moves using List.reverseRecOn with
  | nil =>
    refine ⟨⟨[], List.prefix_rfl, rfl⟩, ?_⟩
    rintro flying ⟨front, leads, rfl⟩
    rw [List.prefix_nil.mp leads]
    exact Nat.le_refl 0
  | append_singleton moves move ih =>
    have most : (Traffic.none.replay moves).inFlight ≤ (Traffic.none.replay moves).peak :=
      ih.2 ⟨moves, List.prefix_rfl, rfl⟩
    have raised : (Traffic.none.replay (moves ++ [move])).peak =
        max (Traffic.none.replay (moves ++ [move])).inFlight (Traffic.none.replay moves).peak := by
      rw [replay_concat]
      cases move with
      | enter now address => exact Nat.max_comm _ _
      | leave => exact (Nat.max_eq_right ((Nat.sub_le _ 1).trans most)).symm
      | log address payload => exact (Nat.max_eq_right most).symm
    rw [flights_concat, raised]
    exact ih.insert _

end Traffic

/-! ### Turns -/

namespace MemoryTransport

variable (memory : MemoryTransport) {τ : Type} (mission : Mission τ) (now : Nat)

/-- What the transport does when a call is looked at. A call that has been held for long enough
goes on to its end, even if its time is up as well; otherwise it is dropped when its time is up. -/
def looked (task : Task) (call : Call) : List Move :=
  if call.endsAt.any (· ≤ now) then
    match memory.refusal? task.address with
    | some _ => [.leave]
    | none => [.leave, .log task.address mission.payload]
  else if call.deadline ≤ now then [.leave]
  else []

/-- What the transport does when a call is made and looked at for the first time. -/
def called (task : Task) : List Move :=
  .enter now task.address ::
    memory.looked mission now task (mission.dial now (memory.behaviour task.address))

/-- What the transport does when a task has a turn. A cancelled task drops its call without a
look at it. -/
def turn (cancelled : Bool) (task : Task) (permits : Permits) : List Move :=
  match cancelled, task.phase with
  | true, .calling _ => [.leave]
  | true, _ => []
  | false, .fresh => if (permits.ask task.id).1 then memory.called mission now task else []
  | false, .queued => if (permits.claim task.id).isSome then memory.called mission now task else []
  | false, .calling call => memory.looked mission now task call
  | false, .ended _ => []

end MemoryTransport

namespace Task

open Move

variable {τ : Type} {memory : MemoryTransport} {mission : Mission τ} {now flying : Nat}
  {task : Task} {call : Call} {shared : Shared τ} {traffic : Traffic} {moves : List Move}
  {turn : Task × Shared τ}

/-- What is accepted from a task, if it is delivered. -/
def delivery (payload : Bytes) (task : Task) : List (String × Bytes) :=
  if task.outcome.status = .delivered then [(task.address, payload)] else []

/-- A task that is not over has delivered nothing yet. -/
theorem delivery_of_unfinished {payload : Bytes} (unfinished : task.isEnded = false) :
    task.delivery payload = [] := by
  unfold isEnded at unfinished
  unfold delivery outcome
  cases phase : task.phase with
  | ended status => simp [phase] at unfinished
  | fresh | queued | calling => rfl

/-- The moves of a turn account for all that it changes, when so many calls of its task were in
flight before. -/
structure Seen (payload : Bytes) (flying : Nat) (traffic : Traffic) (moves : List Move)
    (turn : Task × Shared τ) : Prop where
  traffic : turn.2.traffic = traffic.replay moves
  falls : Falls flying moves
  balance : flying + enters moves = leaves moves + turn.1.calls
  /-- What is put into the log is delivered, and the other way round. -/
  logs : logs moves = turn.1.delivery payload

theorem seen_proceed (held : call.ending = (memory.behaviour task.address).ending) :
    Seen mission.payload 1 shared.traffic (memory.looked mission now task call)
      (task.proceed mission now call shared) := by
  unfold MemoryTransport.looked proceed
  split_ifs with complete late
  · rw [held, MemoryTransport.behaviour]
    cases memory.refusal? task.address with
    | some fault => exact ⟨rfl, falls_of_few (Nat.le_refl 1), rfl, rfl⟩
    | none => exact ⟨rfl, falls_of_few (Nat.le_refl 1), rfl, rfl⟩
  · exact ⟨rfl, falls_of_few (Nat.le_refl 1), rfl, rfl⟩
  · exact ⟨rfl, falls_of_few (Nat.zero_le 1), rfl, rfl⟩

/-- A call that is made in a turn is looked at in the same turn. -/
theorem Seen.enter {payload : Bytes} {address : String}
    (seen : Seen payload 1 (traffic.begin now address) moves turn) :
    Seen payload 0 traffic (.enter now address :: moves) turn := by
  obtain ⟨traffic, falls, balance, logs⟩ := seen
  have made : Falls 0 [.enter now address] := falls_of_few (Nat.le_refl 0)
  refine ⟨traffic, made.append rfl falls, ?_, logs⟩
  calc 0 + enters ([.enter now address] ++ moves)
      = 1 + enters moves := by rw [enters_append, Nat.zero_add]; rfl
    _ = leaves moves + turn.1.calls := balance
    _ = leaves ([.enter now address] ++ moves) + turn.1.calls := by
      rw [leaves_append]
      exact congrArg (· + turn.1.calls) (Nat.zero_add _).symm

theorem seen_start (inMemory : mission.transport = memory.transport) :
    Seen mission.payload 0 shared.traffic (memory.called mission now task)
      (task.start mission now shared) := by
  have made : (mission.transport.call task.address mission.payload shared.transport).1 =
      memory.behaviour task.address := by rw [inMemory]; rfl
  have looked : Seen mission.payload 1 (shared.dialled mission now task.address).traffic
      (memory.looked mission now task (mission.dial now (memory.behaviour task.address)))
      (task.proceed mission now (mission.dial now (memory.behaviour task.address))
        (shared.dialled mission now task.address)) := seen_proceed rfl
  rw [start_eq, made]
  exact looked.enter

theorem seen_abandon (unfinished : task.isEnded = false) :
    Seen mission.payload task.calls shared.traffic
      (memory.turn mission now true task shared.permits) (task.abandon shared) := by
  unfold abandon MemoryTransport.turn Task.calls
  cases phase : task.phase with
  | calling call => exact ⟨rfl, falls_of_few (Nat.le_refl 1), rfl, rfl⟩
  | fresh => exact ⟨rfl, falls_of_few (Nat.le_refl 0), rfl, rfl⟩
  | queued => exact ⟨rfl, falls_of_few (Nat.le_refl 0), rfl, rfl⟩
  | ended status => simp [isEnded, phase] at unfinished

/-- The moves of a turn account for it, if the call of its task ends as its address has it. -/
theorem seen_poll (inMemory : mission.transport = memory.transport) (cancelled : Bool)
    (unfinished : task.isEnded = false)
    (held : ∀ call, task.phase = .calling call →
      call.ending = (memory.behaviour task.address).ending) :
    Seen mission.payload task.calls shared.traffic
      (memory.turn mission now cancelled task shared.permits)
      (task.poll mission now cancelled shared) := by
  cases cancelled with
  | true => exact seen_abandon unfinished
  | false =>
    have made : ∀ permits, Seen mission.payload 0 ({ shared with permits } : Shared τ).traffic
        (memory.called mission now task) (task.start mission now { shared with permits }) :=
      fun _ => seen_start inMemory
    cases phase : task.phase with
    | ended status => simp [isEnded, phase] at unfinished
    | calling call =>
      have seen : Seen mission.payload 1 shared.traffic (memory.looked mission now task call)
        (task.proceed mission now call shared) := seen_proceed (held call phase)
      simpa [poll, MemoryTransport.turn, Task.calls, phase] using seen
    | fresh =>
      have waits : ∀ permits, Seen mission.payload 0 shared.traffic []
          ({ task with phase := .queued }, { shared with permits }) :=
        fun _ => ⟨rfl, falls_of_few (Nat.le_refl 0), rfl, rfl⟩
      rcases asked : shared.permits.ask task.id with ⟨granted, permits⟩
      cases granted with
      | true => simpa [poll, MemoryTransport.turn, Task.calls, phase, asked] using made permits
      | false => simpa [poll, MemoryTransport.turn, Task.calls, phase, asked] using waits permits
    | queued =>
      have stays : Seen mission.payload 0 shared.traffic [] (task, shared) := by
        refine ⟨rfl, falls_of_few (Nat.le_refl 0), ?_, (delivery_of_unfinished unfinished).symm⟩
        rw [Task.calls, phase]
        rfl
      cases claimed : shared.permits.claim task.id with
      | some permits =>
        simpa [poll, MemoryTransport.turn, Task.calls, phase, claimed] using made permits
      | none => simpa [poll, MemoryTransport.turn, Task.calls, phase, claimed] using stays

end Task

end Resharing
