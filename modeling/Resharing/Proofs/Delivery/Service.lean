import Resharing.Proofs.Delivery.Outcome
import Resharing.Proofs.Delivery.Promptness

/-!
# Bounded, without waste, in order

What is carried out when nobody cancels is one of the schedules that waste no time, and its calls
begin exactly in the order of the numbers. With this the account of the permits is complete:
there are never more calls than permits, no permit is lost whatever ends a call, nobody waits
while one is free, and every call begins at the first instant at which it may.

## Main definitions

* `Fanout.InOrder`: calls have been started in the order of the tasks
* `Round.Bounded`: the permits of a round, in any schedule
* `Round.Fair`: who has a permit, if nobody is overtaken on the first turn
* `Round.BeginsInTime`: a call begins as early as it may

## Main results

* `Fanout.InOrder.run`: what is carried out starts its calls in order
* `Round.exists_prompt_deliver`: what is carried out wastes no time
* `Round.permits_bound_calls`: the account of the permits
-/

namespace Resharing

/-! ### The order of the calls -/

namespace Fanout

variable {τ : Type} {mission : Mission τ} {now : Nat} {tasks : List Task} {shared : Shared τ}
  {permits : Permits} {traffic : Traffic} {fanout : Fanout τ}

/-- Those that have begun stand first. -/
def BegunFirst (tasks : List Task) : Prop :=
  tasks.Pairwise fun earlier later => later.hasBegun = true → earlier.hasBegun = true

theorem Lined.begunFirst (lined : Lined tasks permits) : BegunFirst tasks := by
  obtain ⟨-, front, back, rfl, begun, queued, -⟩ := lined
  refine List.pairwise_append.mpr ⟨?_, ?_, fun earlier member _ _ _ => begun earlier member⟩
  · exact List.pairwise_of_forall_mem_list fun earlier member _ _ _ => begun earlier member
  · refine List.pairwise_of_forall_mem_list fun _ _ later member begins => ?_
    simp [Task.hasBegun, queued later member] at begins

/-- A pass starts its calls in the order of the tasks. -/
theorem exists_started_pollAll (mission : Mission τ) (now : Nat) (begunFirst : BegunFirst tasks)
    (shared : Shared τ) :
    ∃ calls : List (Nat × String),
      (pollAll mission now false tasks shared).2.traffic.started =
        shared.traffic.started ++ calls ∧
      (tasks.filter Task.hasBegun).map (·.address) ++ calls.map (·.2) =
        ((pollAll mission now false tasks shared).1.filter Task.hasBegun).map (·.address) := by
  induction tasks generalizing shared with
  | nil => exact ⟨[], by simp [pollAll], rfl⟩
  | cons task rest ih =>
    obtain ⟨ahead, behind⟩ := List.pairwise_cons.mp begunFirst
    obtain ⟨calls, started, addresses⟩ := ih behind (task.poll mission now false shared).2
    rw [pollAll_cons]
    rcases task.started_poll mission now shared with ⟨same, silent, -⟩ | ⟨waits, begins, call, -⟩
    · refine ⟨calls, by rw [← silent]; exact started, ?_⟩
      by_cases begun : task.hasBegun = true
      · simp only [List.filter_cons, same, begun, if_true, List.map_cons, Task.address_poll,
          List.cons_append, addresses]
      · simp only [List.filter_cons, same, begun, Bool.false_eq_true, if_false, addresses]
    · -- Nobody behind a task that waits has begun, so its call is the next in order.
      have none : rest.filter Task.hasBegun = [] :=
        List.filter_eq_nil_iff.mpr fun later member begun => by
          simp [ahead later member begun] at waits
      refine ⟨(now, task.address) :: calls, ?_, ?_⟩
      · rw [started, call, List.append_assoc, List.singleton_append]
      · rw [none, List.map_nil, List.nil_append] at addresses
        simp only [List.filter_cons, waits, begins, none, Bool.false_eq_true, if_false, if_true,
          List.map_nil, List.nil_append, List.map_cons, Task.address_poll, addresses]

/-- The calls since some beginning are those of the tasks that have begun, in their order. -/
def InOrder (traffic : Traffic) (fanout : Fanout τ) : Prop :=
  ∃ calls : List (Nat × String),
    fanout.shared.traffic.started = traffic.started ++ calls ∧
    calls.map (·.2) = (fanout.tasks.filter Task.hasBegun).map (·.address)

theorem InOrder.settle (inOrder : fanout.InOrder traffic) (begunFirst : BegunFirst fanout.tasks) :
    (fanout.settle mission none).InOrder traffic := by
  obtain ⟨calls, started, addresses⟩ := inOrder
  obtain ⟨new, more, order⟩ := exists_started_pollAll mission fanout.now begunFirst fanout.shared
  refine ⟨calls ++ new, ?_, ?_⟩
  · exact more.trans (by rw [started, List.append_assoc])
  · rw [List.map_append, addresses]
    exact order

/-- What is carried out starts its calls in the order of the tasks. -/
theorem InOrder.run (inOrder : fanout.InOrder traffic) (begunFirst : BegunFirst fanout.tasks)
    (steady : ∀ now, Lined (pollAll mission now false fanout.tasks fanout.shared).1
      (pollAll mission now false fanout.tasks fanout.shared).2.permits) (fuel : Nat) :
    (fanout.run mission none fuel).InOrder traffic := by
  induction fuel generalizing fanout with
  | zero => exact inOrder
  | succ fuel ih =>
    rw [Fanout.run]
    have settled : (fanout.settle mission none).InOrder traffic := inOrder.settle begunFirst
    have lined := steady fanout.now
    by_cases complete : (fanout.settle mission none).tasks.all Task.isEnded = true
    · rw [if_pos complete]
      exact settled
    · rw [if_neg complete]
      cases (fanout.settle mission none).next? none with
      | none => exact settled
      | some time => exact ih settled lined.begunFirst fun now => lined_pollAll lined

end Fanout

/-! ### What is carried out wastes no time -/

namespace Round

variable {τ : Type} {mission : Mission τ} {recipients : List Operator}
  {round next finished : Round τ} {switch : Switch} {now : Nat} {traffic : Traffic}
  {transport : τ} {id : OperatorId}

theorem Briefly.freshLast (brief : Briefly mission round next) (freshLast : round.FreshLast) :
    next.FreshLast := by
  induction brief with
  | refl => exact freshLast
  | tail _ brief ih => exact brief.2.2 ih

theorem Briefly.prompts (brief : Briefly mission round next) (freshLast : round.FreshLast) :
    Prompts mission round next := by
  induction brief with
  | refl => exact .refl
  | tail before brief ih =>
    refine ih.tail ⟨⟨brief.1, brief.2.2 (Briefly.freshLast before freshLast)⟩, fun passes => ?_⟩
    exact absurd brief.2.1.symm passes

theorem freshLast_start : (start mission recipients switch now traffic transport).FreshLast :=
  List.pairwise_of_forall_mem_list fun _ _ _ member _ => phase_of_mem_start member

/-- What is carried out goes from instant to instant without wasting time. -/
theorem Orderly.exists_prompt_run (orderly : round.Orderly mission recipients)
    (undisturbed : round.isCancelled = false) (freshLast : round.FreshLast)
    (steady : round.Steady mission) {fuel : Nat}
    (enough : Fanout.unfinished (round.fanout.settle mission none).tasks ≤ fuel) :
    ∃ last, Prompts mission round last ∧ last.switch = round.switch ∧
      last.fanout = round.fanout.run mission none (fuel + 1) ∧
      last.fanout.tasks.all Task.isEnded = true := by
  -- Each unit of fuel pays for an instant at which some call ends.
  induction fuel generalizing round with
  | zero =>
    have complete := Fanout.unfinished_eq_zero_iff.mp (Nat.le_zero.mp enough)
    obtain ⟨settled, brief, switch, fanout⟩ := orderly.exists_settled none undisturbed
    exact ⟨settled, brief.prompts freshLast, switch, by rw [run_of_over complete, fanout],
      by rw [fanout]; exact complete⟩
  | succ fuel ih =>
    obtain ⟨settled, brief, switch, fanout⟩ := orderly.exists_settled none undisturbed
    by_cases complete : (round.fanout.settle mission none).tasks.all Task.isEnded = true
    · exact ⟨settled, brief.prompts freshLast, switch, by rw [run_of_over complete, fanout],
        by rw [fanout]; exact complete⟩
    have later := brief.runs.orderly orderly
    have last := brief.freshLast freshLast
    have unseen : settled.isCancelled = false := by rw [isCancelled, switch]; exact undisturbed
    have lined : Fanout.Lined settled.fanout.tasks settled.fanout.shared.permits := by
      rw [fanout]
      exact steady round.fanout.now
    have quiet : ∀ task ∈ settled.fanout.tasks, ∀ call, task.phase = .calling call →
        settled.fanout.now < call.due := by
      rw [fanout]
      exact fun task member call calls => Fanout.lt_due_pollAll _ member calls
    obtain ⟨time, first, step, cancels | ⟨-, caller, inside, call, phase, due⟩⟩ :=
      later.exists_next_instant unseen lined quiet (by rwa [fanout])
        (rfl : (none : Option Nat).any (· ≤ settled.fanout.now) = false)
    · cases cancels
    · have prompt : Prompt mission settled (settled.moveTo time) := by
        refine ⟨⟨step, last⟩, fun _ => ?_⟩
        rw [unseen]
        exact lined.idle quiet
      have fewer : Fanout.unfinished ((settled.moveTo time).fanout.settle mission none).tasks <
          Fanout.unfinished settled.fanout.tasks :=
        Fanout.unfinished_pollAll_lt inside phase due _
      have left : Fanout.unfinished settled.fanout.tasks ≤ fuel + 1 := by rwa [fanout]
      obtain ⟨ended, rest, same, ends, all⟩ := ih (later.step step) unseen last
        (fun _ => Fanout.lined_pollAll lined)
        (Nat.le_of_lt_succ (Nat.lt_of_lt_of_le fewer left))
      refine ⟨ended, ((brief.prompts freshLast).tail prompt).trans rest, same.trans switch, ?_, all⟩
      rw [Fanout.run, if_neg complete, ← fanout, first]
      exact ends

/-- The deliveries that are carried out when nobody cancels are those of a schedule that wastes
no time, and start their calls in the order of the numbers. -/
theorem exists_prompt_deliver (recipients : List Operator) (now : Nat) (traffic : Traffic)
    (transport : τ) (few : mission.settings.permits ≤ DeliverySettings.maxPermits)
    (undisturbed : switch.cancelled = false) :
    ∃ finished, Prompts mission (start mission recipients switch now traffic transport) finished ∧
      finished.IsOver ∧ finished.isCancelled = false ∧
      Fanout.deliver mission recipients none now traffic transport = .ok finished.fanout ∧
      finished.fanout.InOrder traffic := by
  have orderly : (start mission recipients switch now traffic transport).Orderly mission
      recipients := orderly_start
  have fewer := Fanout.unfinished_pollAll_le mission now false
    (Fanout.start mission.settings recipients now traffic transport).tasks
    (Fanout.start mission.settings recipients now traffic transport).shared
  obtain ⟨last, prompts, same, fanout, complete⟩ := orderly.exists_prompt_run undisturbed
    freshLast_start steady_start (Nat.le_trans fewer List.countP_le_length)
  obtain ⟨finished, brief, isOver, switch, still⟩ :=
    (prompts.runs.orderly orderly).exists_collected complete
  have freshLast : last.FreshLast := by
    refine List.pairwise_of_forall_mem_list fun earlier member _ _ fresh => ?_
    obtain ⟨status, phase⟩ := Task.isEnded_iff.mp (List.all_eq_true.mp complete earlier member)
    simp [phase] at fresh
  have idle : (Fanout.start mission.settings recipients now traffic transport).tasks.filter
      Task.hasBegun = [] := List.filter_eq_nil_iff.mpr fun task member => by
    simp [Task.hasBegun, phase_of_mem_start member]
  refine ⟨finished, prompts.trans (brief.prompts freshLast), isOver, ?_, ?_, ?_⟩
  · rw [isCancelled, switch, same]
    exact undisturbed
  · rw [Fanout.deliver, if_pos few, still, fanout]
    rfl
  · rw [still, fanout]
    refine Fanout.InOrder.run ⟨[], by simp [start, Fanout.start], ?_⟩ ?_ steady_start _
    · exact (congrArg (List.map (·.address)) idle).symm
    · refine List.pairwise_of_forall_mem_list fun _ _ later member begun => ?_
      simp [Task.hasBegun, phase_of_mem_start member] at begun

/-! ### The account of the permits -/

/-- The permits of a round, whatever has happened so far. -/
structure Bounded (mission : Mission τ) (traffic : Traffic) (round : Round τ) : Prop where
  /-- There are no more calls than permits. -/
  calls_le : round.calls ≤ mission.settings.permits
  /-- Each permit is free, or granted and not picked up, or in the hands of a call. -/
  permits_add : round.permits.free + round.permits.granted.length + round.calls =
    mission.settings.permits
  /-- Grants are for different recipients, who wait for them. -/
  nodup_granted : round.permits.granted.Nodup
  queued_of_granted : ∀ id ∈ round.permits.granted,
    ∃ task ∈ round.fanout.tasks, task.id = id ∧ task.phase = .queued
  observed : round.Observed mission traffic
  /-- When everything is over all permits are free. -/
  eq_start : round.IsOver → round.permits = .start mission.settings.permits

theorem Orderly.bounded (orderly : round.Orderly mission recipients)
    (observed : round.Observed mission traffic) : round.Bounded mission traffic where
  calls_le := orderly.calls_le
  permits_add := orderly.permits_add
  nodup_granted := orderly.nodup_waiting.of_append_left
  queued_of_granted id granted := by
    obtain ⟨task, member, waits⟩ := List.mem_flatMap.mp
      (orderly.accounts.waiting_perm.mem_iff.mp (List.mem_append_left _ granted))
    unfold Task.waiters at waits
    cases phase : task.phase with
    | queued =>
      simp only [phase, List.mem_singleton] at waits
      exact ⟨task, member, waits.symm, phase⟩
    | _ => simp [phase] at waits
  observed := observed
  eq_start := orderly.permits_eq_start

/-- Who has a permit, when nobody is overtaken on the first turn. -/
structure Fair (mission : Mission τ) (round : Round τ) : Prop where
  /-- Nobody waits while a permit is free. -/
  free_eq_zero : ∀ task ∈ round.fanout.tasks, task.phase = .queued →
    task.id ∉ round.permits.granted → round.permits.free = 0
  /-- Permits go out in the order of the numbers. -/
  ascending : ∀ task ∈ round.fanout.tasks, ∀ other ∈ round.fanout.tasks, other.id < task.id →
    task.Served round.permits.granted → other.Served round.permits.granted
  /-- Who has asked has its permit as soon as few enough below are unfinished. -/
  served_iff : ∀ task ∈ round.fanout.tasks, task.isEnded = false → task.phase ≠ .fresh →
    (task.Served round.permits.granted ↔
      round.unfinishedBelow task.id < mission.settings.permits)

theorem InLine.fair (line : round.InLine) (orderly : round.Orderly mission recipients) :
    round.Fair mission where
  free_eq_zero _ member queued ungranted := orderly.free_eq_zero member queued ungranted
  ascending _ member _ otherMember lower served :=
    line.served_of_lower orderly member otherMember lower served
  served_iff _ member unfinished asked := line.served_iff orderly member unfinished asked

/-- The call to a recipient begins in a step, as early as it may. -/
structure BeginsInTime (mission : Mission τ) (recipients : List Operator)
    (start round next : Round τ) (id : OperatorId) : Prop where
  /-- It is a call to the address of the recipient, at the present instant. -/
  call : ∃ address, (Fanout.targets recipients).find? id = some address ∧
    next.started = round.started ++ [(round.fanout.now, address)]
  /-- At no earlier instant have so few of those below been unfinished. -/
  least : IsLeast {instant | ∃ moment, Prompts mission start moment ∧
    Prompts mission moment round ∧ moment.unfinishedBelow id < mission.settings.permits ∧
    moment.fanout.now = instant} round.fanout.now
  /-- No call to a higher number has begun at an earlier instant. -/
  ordered : ∀ higher moment, id < higher → Prompts mission start moment →
    Prompts mission moment round → moment.Begun higher → moment.fanout.now = round.fanout.now

theorem Begins.inTime {start : Round τ} (begins : Begins round next id)
    (orderly : start.Orderly mission recipients) (line : start.InLine)
    (prompts : Prompts mission start round) (prompt : Prompt mission round next)
    (undisturbed : next.isCancelled = false) :
    BeginsInTime mission recipients start round next id := by
  have here := prompts.runs.orderly orderly
  have still := Runs.undisturbed (.single prompt.1.1) undisturbed
  refine ⟨?_, isLeast_begins orderly line prompts prompt undisturbed begins, ?_⟩
  · obtain ⟨before, task, after, place, rfl, -, -, -, call⟩ :=
      exists_of_begins here prompt.1.1 undisturbed begins.1 begins.2
    refine ⟨task.address, OperatorMap.find?_eq_some_iff.mpr ?_, call⟩
    rw [← here.names, place]
    simp
  · intro higher moment above first rest begun
    have recipient := mem_targets_of_begun (here.step prompt.1.1) begins.2
    exact now_eq_of_higher (first.runs.orderly orderly)
      (first.turns.inLine orderly line (rest.runs.undisturbed still)) rest still recipient begins.1
      above begun

/-- The permits bound the calls. In every schedule there are no more calls than permits, no
permit is lost and in the end all are free. If nobody cancels and nobody is overtaken on the
first turn, permits go out in the order of the numbers, each as soon as few enough of those below
are unfinished; if no time is wasted besides, each call begins at the first such instant, and time
passes only while all permits are in use or nobody waits. What is carried out is such a
schedule, and starts its calls in the order of the numbers. -/
theorem permits_bound_calls (mission : Mission τ) (recipients : List Operator) (now : Nat)
    (traffic : Traffic) (transport : τ) :
    (∀ switch round,
      Runs mission (start mission recipients switch now traffic transport) round →
      round.Bounded mission traffic) ∧
    (mission.settings.permits ≤ DeliverySettings.maxPermits → ∀ cancelAt,
      ∃ fanout, Fanout.deliver mission recipients cancelAt now traffic transport = .ok fanout ∧
        fanout.shared.permits = .start mission.settings.permits ∧
        fanout.shared.traffic.inFlight = traffic.inFlight ∧
        fanout.shared.traffic.peak ≤
          max traffic.peak (traffic.inFlight + mission.settings.permits)) ∧
    (∀ switch round,
      Turns mission (start mission recipients switch now traffic transport) round →
      round.isCancelled = false → round.Fair mission) ∧
    (∀ switch round next,
      Prompts mission (start mission recipients switch now traffic transport) round →
      Prompt mission round next → next.isCancelled = false →
      (round.fanout.now ≠ next.fanout.now →
        (∃ task ∈ round.fanout.tasks, task.hasBegun = false) →
        round.calls = mission.settings.permits) ∧
      ∀ id, Begins round next id → BeginsInTime mission recipients
        (start mission recipients switch now traffic transport) round next id) ∧
    (∀ switch finished,
      Prompts mission (start mission recipients switch now traffic transport) finished →
      finished.IsOver → finished.isCancelled = false → ∀ id ∈ recipients.map (·.id),
      ∃ round next,
        Prompts mission (start mission recipients switch now traffic transport) round ∧
        Prompt mission round next ∧ Prompts mission next finished ∧ Begins round next id) ∧
    (mission.settings.permits ≤ DeliverySettings.maxPermits →
      ∃ finished,
        Prompts mission (start mission recipients .fresh now traffic transport) finished ∧
        finished.IsOver ∧ finished.isCancelled = false ∧
        Fanout.deliver mission recipients none now traffic transport = .ok finished.fanout ∧
        ∃ calls : List (Nat × String), finished.started = traffic.started ++ calls ∧
          calls.map (·.2) = (Fanout.targets recipients).entries.map (·.2)) := by
  refine ⟨fun switch round run => ?_, fun few cancelAt => ?_,
    fun switch round turns undisturbed => ?_,
    fun switch round next prompts prompt undisturbed =>
      ⟨fun passes waiting => ?_, fun id begins => ?_⟩,
    fun switch finished prompts complete _ id recipient => ?_, fun few => ?_⟩
  · exact (run.orderly orderly_start).bounded (run.observed orderly_start observed_start)
  · obtain ⟨fanout, delivered, schedules⟩ := exists_deliver recipients now traffic transport few
      (rfl : Switch.fresh.cancelled = false) cancelAt fun _ => rfl
    obtain ⟨finished, run, complete, rfl⟩ := schedules.exists_finished
    have orderly := run.orderly orderly_start
    obtain ⟨inFlight, peak⟩ := run.observed orderly_start observed_start
    exact ⟨_, delivered, orderly.permits_eq_start complete,
      by rw [inFlight, orderly.calls_eq_zero complete, Nat.add_zero], peak⟩
  · exact (turns.inLine orderly_start inLine_start undisturbed).fair
      (turns.runs.orderly orderly_start)
  · obtain ⟨task, member, waits⟩ := waiting
    exact (prompts.runs.orderly orderly_start).calls_eq (prompt.2 passes) member waits
  · exact begins.inTime orderly_start inLine_start prompts prompt undisturbed
  · refine exists_begins orderly_start ?_ prompts complete (Fanout.mem_ids_targets.mpr recipient)
    rintro ⟨task, member, -, begun⟩
    simp [Task.hasBegun, phase_of_mem_start member] at begun
  · obtain ⟨finished, prompts, complete, undisturbed, delivered, calls, started, addresses⟩ :=
      exists_prompt_deliver recipients now traffic transport few
        (rfl : Switch.fresh.cancelled = false)
    refine ⟨finished, prompts, complete, undisturbed, delivered, calls, started, ?_⟩
    have orderly := prompts.runs.orderly orderly_start
    have all : finished.fanout.tasks.filter Task.hasBegun = finished.fanout.tasks := by
      refine List.filter_eq_self.mpr fun task member => ?_
      obtain ⟨status, phase⟩ := Task.isEnded_iff.mp (orderly.known.isEnded complete member)
      rw [Task.hasBegun, phase]
    rw [addresses, all, ← orderly.names, List.map_map]
    rfl

/-- Two permits for four recipients: the second call fails after three instants and the first ends
after five, and the other two begin then. -/
theorem permits_bound_calls_four :
    let behaviour : String → Behaviour := fun address =>
      if address = "fault" then ⟨some 3, .answer (.error (.status 500))⟩
      else if address = "crash" then ⟨some 4, .abort⟩
      else if address = "never" then ⟨none, .answer (.ok ())⟩
      else ⟨some 5, .answer (.ok ())⟩
    let mission : Mission Unit := ⟨⟨2, 10⟩, .ofBehaviour behaviour, [7]⟩
    let recipients : List Operator :=
      [.ofAddress 1 "slow", .ofAddress 2 "fault", .ofAddress 3 "crash", .ofAddress 4 "never"]
    ∃ fanout, Fanout.deliver mission recipients none 0 .none () = .ok fanout ∧
      fanout.shared.permits = .start 2 ∧ fanout.shared.traffic.peak = 2 ∧
      fanout.shared.traffic.started = [(0, "slow"), (0, "fault"), (3, "crash"), (5, "never")] := by
  intro behaviour mission recipients
  obtain ⟨-, carriedOut, -⟩ := permits_bound_calls mission recipients 0 .none ()
  obtain ⟨fanout, delivered, free, -⟩ := carriedOut (by decide) none
  refine ⟨fanout, delivered, free, ?_⟩
  obtain rfl : _ = fanout := Except.ok.inj delivered
  let entries : OperatorMap String :=
    ⟨[(1, "slow"), (2, "fault"), (3, "crash"), (4, "never")], by decide⟩
  have targets : Fanout.targets recipients = entries := entries.ofList_entries
  rw [Fanout.start, targets]
  exact ⟨by decide +kernel, by decide +kernel⟩

end Round

end Resharing
