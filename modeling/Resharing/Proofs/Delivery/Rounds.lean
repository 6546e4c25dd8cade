import Resharing.Proofs.Delivery.Ledger
import Resharing.Proofs.Delivery.Outcome
import Resharing.Proofs.Delivery.Usage

/-!
# The log of a transport in memory and the reports

Rounds of deliveries that share a transport in memory follow one another. Whatever their
recipients, limits and times, whatever the order of the turns and whenever an owner cancels or
leaves, the log and the counters of the transport tell what the reports tell. A call that is
dropped, because its time is up or because of a cancellation, has left as well, so nothing is in
flight when a round is over.

Everything is told by the moves of the transport, from the first round on. They are those of the
turns, one after the other.

## Main definitions

* `Errand`: what a round is asked to do
* `MemoryTransport.Trace`: a round up to some moment, with the moves of the transport
* `MemoryTransport.History`: the rounds that are over, with all moves
* `MemoryTransport.Agrees`: the log and the counters agree with the moves and the reports

## Main results

* `MemoryTransport.Trace.tallies`, `MemoryTransport.History.tallies`: the moves account for what
  is observed
* `MemoryTransport.log_agrees`: the log and the counters agree, whatever happens
-/

namespace Resharing

/-- The moves so far account for what is observed, when so many calls are under way. -/
structure Tallies (moves : List Move) (calls : Nat) (traffic : Traffic) : Prop where
  replayed : traffic = Traffic.none.replay moves
  falls : Move.Falls 0 moves
  balance : Move.enters moves = Move.leaves moves + calls

/-- What a round is asked to do, and when. -/
structure Errand where
  settings : DeliverySettings
  payload : Bytes
  recipients : List Operator
  switch : Switch
  now : Nat

namespace Tallies

variable {τ : Type} {moves more : List Move} {others : Nat} {traffic : Traffic} {task : Task}
  {payload : Bytes} {left : Task × Shared τ}

theorem turn (tallies : Tallies moves (others + task.calls) traffic)
    (seen : Task.Seen payload task.calls traffic more left) :
    Tallies (moves ++ more) (others + left.1.calls) left.2.traffic := by
  obtain ⟨replayed, falls, balance⟩ := tallies
  have next := seen.balance
  have later : Move.Falls (others + task.calls) more := seen.falls.mono (Nat.le_add_left _ _)
  refine ⟨?_, falls.append (by omega) later, ?_⟩
  · rw [seen.traffic, replayed, Traffic.replay_append]
  · rw [Move.enters_append, Move.leaves_append]
    omega

theorem length_started (tallies : Tallies moves others traffic) :
    traffic.started.length = Move.enters moves := by
  rw [tallies.replayed, Traffic.length_started_replay]
  exact Nat.zero_add _

theorem accepted_eq (tallies : Tallies moves others traffic) :
    traffic.accepted = Move.logs moves := by
  rw [tallies.replayed, Traffic.accepted_replay]
  exact List.nil_append _

/-- At every moment those are in flight that have entered and have not left. -/
theorem inFlight_front (tallies : Tallies moves others traffic) {front : List Move}
    (leads : front <+: moves) :
    (Traffic.none.replay front).inFlight = Move.enters front - Move.leaves front := by
  have falls : Move.Falls Traffic.none.inFlight front :=
    fun first earlier => tallies.falls first (earlier.trans leads)
  have sum := Traffic.inFlight_replay falls
  have nobody : Traffic.none.inFlight = 0 := rfl
  omega

theorem inFlight_eq (tallies : Tallies moves others traffic) : traffic.inFlight = others := by
  have sum := tallies.balance
  rw [tallies.replayed, tallies.inFlight_front List.prefix_rfl]
  omega

theorem isGreatest_peak (tallies : Tallies moves others traffic) :
    IsGreatest {flying | ∃ front, front <+: moves ∧
      Move.enters front - Move.leaves front = flying} traffic.peak := by
  have greatest := Traffic.isGreatest_peak moves
  rw [← tallies.replayed] at greatest
  obtain ⟨⟨front, leads, reached⟩, most⟩ := greatest
  constructor
  · exact ⟨front, leads, (tallies.inFlight_front leads).symm.trans reached⟩
  · rintro flying ⟨front, leads, rfl⟩
    exact most ⟨front, leads, tallies.inFlight_front leads⟩

end Tallies

namespace MemoryTransport

open Move Round

variable {memory : MemoryTransport} {errand : Errand} {errands : List Errand}
  {moves more : List Move} {traffic : Traffic} {round next : Round Unit}

/-- The mission of an errand. -/
def mission (memory : MemoryTransport) (errand : Errand) : Mission Unit :=
  ⟨errand.settings, memory.transport, errand.payload⟩

/-- The round of an errand before anything has happened. -/
def start (memory : MemoryTransport) (errand : Errand) (traffic : Traffic) : Round Unit :=
  Round.start (memory.mission errand) errand.recipients errand.switch errand.now traffic ()

/-- The round of an errand has come to some moment, and the transport has made some moves
meanwhile. Only turns bring moves with them. -/
inductive Trace (memory : MemoryTransport) (errand : Errand) (traffic : Traffic) :
    List Move → Round Unit → Prop
  | start : Trace memory errand traffic [] (memory.start errand traffic)
  | turn {moves : List Move} {round : Round Unit} {before after : List Task} {task : Task}
      (earlier : Trace memory errand traffic moves round)
      (place : round.fanout.tasks = before ++ task :: after)
      (unfinished : task.isEnded = false) :
      Trace memory errand traffic
        (moves ++ memory.turn (memory.mission errand) round.fanout.now
          (round.switch.glance (round.waits task.id) = .resolved) task round.permits)
        (round.polled (memory.mission errand) before task after)
  | other {moves : List Move} {round next : Round Unit}
      (earlier : Trace memory errand traffic moves round)
      (step : Step (memory.mission errand) round next)
      (tasks : next.fanout.tasks = round.fanout.tasks)
      (shared : next.fanout.shared = round.fanout.shared) :
      Trace memory errand traffic moves next

/-- Rounds have followed one another, and these are all moves and what is observed in the end. -/
inductive History (memory : MemoryTransport) : List Errand → List Move → Traffic → Prop
  | none : History memory [] [] .none
  | round {errands : List Errand} {errand : Errand} {moves more : List Move} {traffic : Traffic}
      {finished : Round Unit} (earlier : History memory errands moves traffic)
      (trace : Trace memory errand traffic more finished) (complete : finished.IsOver) :
      History memory (errands ++ [errand]) (moves ++ more) finished.fanout.shared.traffic

/-! ### Traces -/

/-- Every trace is a run. -/
theorem Trace.runs (trace : memory.Trace errand traffic moves round) :
    Runs (memory.mission errand) (memory.start errand traffic) round := by
  induction trace with
  | start => exact .refl
  | turn _ place unfinished ih => exact ih.tail (.poll place unfinished)
  | other _ step _ _ ih => exact ih.tail step

/-- Every run has a trace. -/
theorem exists_trace (run : Runs (memory.mission errand) (memory.start errand traffic) round) :
    ∃ moves, memory.Trace errand traffic moves round := by
  induction run with
  | refl => exact ⟨[], .start⟩
  | tail _ step ih =>
    obtain ⟨moves, trace⟩ := ih
    cases step with
    | poll place unfinished => exact ⟨_, trace.turn place unfinished⟩
    | collect member complete awaited =>
      exact ⟨moves, trace.other (.collect member complete awaited) rfl rfl⟩
    | lose member lost awaited => exact ⟨moves, trace.other (.lose member lost awaited) rfl rfl⟩
    | cancel owned => exact ⟨moves, trace.other (.cancel owned) rfl rfl⟩
    | leave owned => exact ⟨moves, trace.other (.leave owned) rfl rfl⟩
    | pass later undisturbed busy soon =>
      exact ⟨moves, trace.other (.pass later undisturbed busy soon) rfl rfl⟩

theorem Trace.orderly (trace : memory.Trace errand traffic moves round) :
    round.Orderly (memory.mission errand) errand.recipients :=
  trace.runs.orderly orderly_start

/-- A call that is under way ends as its address has it. -/
theorem Trace.ending_eq (trace : memory.Trace errand traffic moves round) {task : Task}
    (member : task ∈ round.fanout.tasks) {call : Call} (phase : task.phase = .calling call) :
    call.ending = (memory.behaviour task.address).ending := by
  have behaves : (memory.mission errand).Behaves memory.behaviour := fun _ _ => rfl
  have lawful := trace.runs.lawful behaves orderly_start lawful_start task member
  rw [Task.Lawful, phase] at lawful
  obtain ⟨⟨begun, rfl⟩, -⟩ := lawful
  rfl

/-- The moves of a turn account for the turn. -/
theorem Trace.seen (trace : memory.Trace errand traffic moves round) {before after : List Task}
    {task : Task} (place : round.fanout.tasks = before ++ task :: after)
    (unfinished : task.isEnded = false) :
    Task.Seen errand.payload task.calls round.fanout.shared.traffic
      (memory.turn (memory.mission errand) round.fanout.now
        (round.switch.glance (round.waits task.id) = .resolved) task round.permits)
      (task.poll (memory.mission errand) round.fanout.now
        (round.switch.glance (round.waits task.id) = .resolved) round.fanout.shared) := by
  have member : task ∈ round.fanout.tasks := by
    rw [place]
    exact List.mem_append_right _ List.mem_cons_self
  have inMemory : (memory.mission errand).transport = memory.transport := rfl
  exact Task.seen_poll inMemory _ unfinished fun _ phase => trace.ending_eq member phase

/-! ### What is observed -/

/-- The moves of a trace are added to those before. -/
theorem Trace.tallies (trace : memory.Trace errand traffic more round)
    (before : Tallies moves 0 traffic) :
    Tallies (moves ++ more) round.calls round.fanout.shared.traffic := by
  induction trace with
  | start =>
    rw [List.append_nil, MemoryTransport.start, calls_start]
    exact before
  | turn earlier place unfinished ih =>
    have seen := earlier.seen place unfinished
    rw [Round.calls, place, sum_calls] at ih
    rw [← List.append_assoc, Round.calls, polled, sum_calls]
    exact ih.turn seen
  | other _ _ tasks shared ih =>
    rw [Round.calls, tasks, shared]
    exact ih

/-- What a round puts into the log is what its tasks have delivered so far. -/
theorem Trace.logs_perm (trace : memory.Trace errand traffic moves round) :
    (logs moves).Perm (round.fanout.tasks.flatMap (Task.delivery errand.payload)) := by
  induction trace with
  | start =>
    refine .of_eq (List.flatMap_eq_nil_iff.mpr fun task member => ?_).symm
    apply Task.delivery_of_unfinished
    rw [Task.isEnded, phase_of_mem_start member]
  | @turn moves round before after task earlier place unfinished ih =>
    have seen := earlier.seen place unfinished
    rw [place, List.flatMap_append, List.flatMap_cons, Task.delivery_of_unfinished unfinished,
      List.nil_append] at ih
    rw [logs_append, polled, List.flatMap_append, List.flatMap_cons, seen.logs]
    apply (ih.append_right _).trans
    rw [List.append_assoc]
    exact List.perm_append_comm.append_left _
  | other _ _ tasks shared ih =>
    rw [tasks]
    exact ih

/-- The tasks that have delivered are those reported as delivered. -/
theorem flatMap_delivery (tasks : List Task) (payload : Bytes) :
    tasks.flatMap (Task.delivery payload) =
      (((tasks.map Task.outcome).filter fun outcome => outcome.status = .delivered).map
        fun outcome => (outcome.address, payload)) := by
  induction tasks with
  | nil => rfl
  | cons task rest ih =>
    rw [List.flatMap_cons, ih, List.map_cons, List.filter_cons, Task.delivery]
    split_ifs <;> simp_all

theorem Trace.observed (trace : memory.Trace errand traffic moves round) :
    round.Observed (memory.mission errand) traffic :=
  trace.runs.observed orderly_start observed_start

/-! ### Histories -/

/-- Between two rounds nothing is in flight. -/
theorem History.tallies (history : memory.History errands moves traffic) :
    Tallies moves 0 traffic := by
  induction history with
  | none => exact ⟨rfl, Move.falls_of_few (Nat.le_refl 0), rfl⟩
  | round _ trace complete ih =>
    rw [← trace.orderly.calls_eq_zero complete]
    exact trace.tallies ih

/-- A round raises the peak at most to its own permits. -/
theorem Trace.bounded (trace : memory.Trace errand traffic more round)
    (idle : traffic.inFlight = 0)
    (before : traffic.peak = 0 ∨ ∃ used ∈ errands, traffic.peak ≤ used.settings.permits) :
    ∃ used ∈ errands ++ [errand],
      round.fanout.shared.traffic.peak ≤ used.settings.permits := by
  have own : errand ∈ errands ++ [errand] := List.mem_append_right _ List.mem_cons_self
  have raised : round.fanout.shared.traffic.peak ≤
      max traffic.peak (traffic.inFlight + errand.settings.permits) := trace.observed.peak
  have either : round.fanout.shared.traffic.peak ≤ traffic.peak ∨
      round.fanout.shared.traffic.peak ≤ errand.settings.permits := by omega
  rcases either with old | new
  · rcases before with zero | ⟨used, member, within⟩
    · exact ⟨errand, own, by omega⟩
    · exact ⟨used, List.mem_append_left _ member, old.trans within⟩
  · exact ⟨errand, own, new⟩

/-- The peak stays within the permits of some round. -/
theorem History.bounded (history : memory.History errands moves traffic) :
    traffic.peak = 0 ∨ ∃ used ∈ errands, traffic.peak ≤ used.settings.permits := by
  induction history with
  | none => exact .inl rfl
  | round earlier trace _ ih => exact .inr (trace.bounded earlier.tallies.inFlight_eq ih)

/-- The log and the counters of the transport agree with the moves so far and with the reports:
some rounds are over, and the round of another errand has come to some moment. -/
structure Agrees (errands : List Errand) (moves : List Move) (traffic : Traffic) (errand : Errand)
    (more : List Move) (round : Round Unit) : Prop where
  /-- The attempts are the calls that have been made, and grow by those of the round. -/
  attempts : round.started.length = enters (moves ++ more) ∧
    round.started.length = traffic.started.length + enters more
  /-- The calls in flight are those under way, and those that have entered and not left. -/
  inFlight : round.fanout.shared.traffic.inFlight = round.calls ∧
    leaves (moves ++ more) + round.calls = enters (moves ++ more)
  /-- At no moment have more calls left than entered. -/
  falls : ∀ front, front <+: moves ++ more → leaves front ≤ enters front
  /-- The peak is the greatest number in flight at any moment. -/
  peak : IsGreatest {flying | ∃ front, front <+: moves ++ more ∧ enters front - leaves front = flying}
    round.fanout.shared.traffic.peak
  /-- The peak is within the limit of some round. -/
  bounded : ∃ used ∈ errands ++ [errand],
    round.fanout.shared.traffic.peak ≤ max used.settings.limit.toNat 1
  /-- In the end nothing is in flight, and the log has grown by what is reported as delivered. -/
  settled : round.IsOver → round.fanout.shared.traffic.inFlight = 0 ∧
    ∀ session, ∃ news, round.fanout.shared.traffic.accepted = traffic.accepted ++ news ∧
      news.Perm ((round.report session).delivered.map
        fun outcome => (outcome.address, errand.payload))

theorem Trace.agrees (trace : memory.Trace errand traffic more round)
    (history : memory.History errands moves traffic) :
    Agrees errands moves traffic errand more round := by
  have before := history.tallies
  have tallies := trace.tallies before
  constructor
  · refine ⟨tallies.length_started, ?_⟩
    rw [Round.started, tallies.length_started, enters_append, before.length_started]
  · exact ⟨tallies.inFlight_eq, tallies.balance.symm⟩
  · intro front leads
    exact (tallies.falls front leads).trans (Nat.zero_add _).le
  · exact tallies.isGreatest_peak
  · exact trace.bounded before.inFlight_eq history.bounded
  · intro complete
    refine ⟨tallies.inFlight_eq.trans (trace.orderly.calls_eq_zero complete), fun session => ?_⟩
    refine ⟨logs more, ?_, ?_⟩
    · rw [tallies.accepted_eq, logs_append, before.accepted_eq]
    · rw [Report.delivered, outcomes_report trace.orderly complete, ← flatMap_delivery]
      exact trace.logs_perm

/-- Let rounds that share a transport in memory have followed one another. Whatever happens in
the next round, the log and the counters agree with the moves and with the reports, and what is
carried out for an errand is such a round. -/
theorem log_agrees (history : memory.History errands moves traffic) (errand : Errand) :
    (∀ more round, memory.Trace errand traffic more round →
      Agrees errands moves traffic errand more round) ∧
    (errand.settings.permits ≤ DeliverySettings.maxPermits → errand.switch.cancelled = false →
      ∀ cancelAt : Option Nat, (cancelAt.isSome = true → errand.switch.owned = true) →
      ∃ fanout more round,
        Fanout.deliver (memory.mission errand) errand.recipients cancelAt errand.now traffic () =
          .ok fanout ∧
        memory.Trace errand traffic more round ∧ round.IsOver ∧ round.fanout = fanout) := by
  refine ⟨fun more round trace => trace.agrees history, fun few undisturbed cancelAt owned => ?_⟩
  have few : (memory.mission errand).settings.permits ≤ DeliverySettings.maxPermits := few
  obtain ⟨fanout, delivered, schedules⟩ :=
    exists_deliver errand.recipients errand.now traffic () few undisturbed cancelAt owned
  obtain ⟨finished, run, complete, same⟩ := schedules.exists_finished
  obtain ⟨more, trace⟩ := exists_trace run
  exact ⟨fanout, more, finished, delivered, trace, complete, same⟩

/-- One address refuses. In the first round nobody cancels, in the second the owner does. -/
theorem log_agrees_refusal :
    let memory : MemoryTransport := ⟨10, [("b", .status 503)]⟩
    let recipients : List Operator := [.ofAddress 1 "a", .ofAddress 2 "b"]
    let first : Errand := ⟨⟨1, 50⟩, [7], recipients, .fresh, 0⟩
    let second : Errand := ⟨⟨2, 50⟩, [8], recipients, .fresh, 100⟩
    ∃ moves traffic fanout more round, memory.History [first] moves traffic ∧
      Fanout.deliver (memory.mission second) recipients (some 105) 100 traffic () = .ok fanout ∧
      round.fanout = fanout ∧ round.IsOver ∧
      Agrees [first] moves traffic second more round := by
  intro memory recipients first second
  obtain ⟨-, moves, finished, -, trace, complete, -⟩ :=
    (log_agrees (.none : memory.History [] [] .none) first).2 (by decide) rfl none (fun _ => rfl)
  have history : memory.History [first] moves finished.fanout.shared.traffic :=
    .round .none trace complete
  obtain ⟨agrees, carried⟩ := log_agrees history second
  obtain ⟨fanout, more, round, delivered, running, isOver, same⟩ :=
    carried (by decide) rfl (some 105) (fun _ => rfl)
  exact ⟨moves, _, fanout, more, round, history, delivered, same, isOver,
    agrees more round running⟩

end MemoryTransport

end Resharing
