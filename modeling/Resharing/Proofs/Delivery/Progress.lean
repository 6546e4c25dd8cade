import Resharing.Proofs.Delivery.Invariant

/-!
# No schedule gets stuck

A round that is not over can always go on: some delivery tells its outcome, or some task has
a turn that brings it further, or time passes until some call is due and its task has its turn
then. Whatever has happened so far, the round can be brought to its end without the owner.

## Main definitions

* `Task.rank`: how far a task is from its end
* `Task.Ready`: a turn would bring the task further
* `Round.effort`: how far a round is from its end

## Main results

* `Round.Orderly.exists_calling`: if no task is ready, some call is under way
* `Round.Orderly.exists_finished`: every round can be brought to its end
-/

namespace Resharing

/-! ### Turns that bring a task further -/

namespace Task

variable {τ : Type} {mission : Mission τ} {now : Nat} {task : Task} {shared : Shared τ}

/-- How far a task is from its end. -/
def rank (task : Task) : Nat :=
  match task.phase with
  | .fresh => 3
  | .queued => 2
  | .calling _ => 1
  | .ended _ => 0

/-- A turn would bring the task further. -/
def Ready (now : Nat) (cancelled : Bool) (granted : List OperatorId) (task : Task) : Prop :=
  match task.phase with
  | .fresh => True
  | .queued => cancelled = true ∨ task.id ∈ granted
  | .calling call => cancelled = true ∨ call.due ≤ now
  | .ended _ => False

theorem wakesAt_eq_some_iff {time : Nat} :
    task.wakesAt = some time ↔ ∃ call, task.phase = .calling call ∧ call.due = time := by
  unfold wakesAt
  cases task.phase <;> simp [Call.due]

theorem rank_proceed_le (call : Call) : (task.proceed mission now call shared).1.rank ≤ 1 := by
  rw [proceed_eq]
  cases call.verdict now <;> simp [rank, ended]

theorem Ready.isEnded_eq_false {cancelled : Bool} {granted : List OperatorId}
    (ready : task.Ready now cancelled granted) : task.isEnded = false := by
  unfold Ready at ready
  unfold isEnded
  cases phase : task.phase with
  | ended status => simp [phase] at ready
  | _ => rfl

theorem Ready.rank_poll_lt {cancelled : Bool}
    (ready : task.Ready now cancelled shared.permits.granted) :
    (task.poll mission now cancelled shared).1.rank < task.rank := by
  have unfinished := ready.isEnded_eq_false
  cases cancelled with
  | true =>
    rw [poll_cancelled mission now unfinished]
    unfold rank ended
    cases phase : task.phase with
    | ended status => simp [isEnded, phase] at unfinished
    | _ => simp
  | false =>
    unfold Ready at ready
    cases phase : task.phase with
    | fresh =>
      have old : task.rank = 3 := by rw [rank, phase]
      rw [old]
      rcases asked : shared.permits.ask task.id with ⟨granted, permits⟩
      cases granted with
      | false => simp [poll, phase, asked, rank]
      | true =>
        simp only [poll, phase, asked, start_eq, Bool.false_eq_true, if_false]
        exact Nat.lt_of_le_of_lt (rank_proceed_le _) (by decide)
    | queued =>
      simp only [phase, Bool.false_eq_true, false_or] at ready
      simp only [poll, phase, Permits.claim, if_pos ready, start_eq, rank, Bool.false_eq_true,
        if_false]
      exact Nat.lt_of_le_of_lt (rank_proceed_le _) (by decide)
    | calling call =>
      simp only [phase, Bool.false_eq_true, false_or] at ready
      have complete : call.verdict now ≠ none := by
        rw [ne_eq, Call.verdict_eq_none_iff]
        exact Nat.not_lt.mpr ready
      obtain ⟨status, judged⟩ := Option.ne_none_iff_exists'.mp complete
      simp [poll, phase, proceed_eq, judged, rank, ended]
    | ended status => simp [isEnded, phase] at unfinished

end Task

namespace Round

variable {τ : Type} {mission : Mission τ} {recipients : List Operator} {round : Round τ}

/-- How far a round is from its end. -/
def effort (round : Round τ) : Nat :=
  round.collector.pending.length + (round.fanout.tasks.map Task.rank).sum

/-- A grant that is not picked up would make its task ready. -/
theorem Orderly.granted_eq_nil (orderly : round.Orderly mission recipients)
    (idle : ∀ task ∈ round.fanout.tasks,
      ¬ task.Ready round.fanout.now round.isCancelled round.fanout.shared.permits.granted) :
    round.fanout.shared.permits.granted = [] := by
  refine List.eq_nil_iff_forall_not_mem.mpr fun id granted => ?_
  have waiting : id ∈ round.fanout.tasks.flatMap Task.waiters :=
    orderly.accounts.waiting_perm.mem_iff.mp (List.mem_append_left _ granted)
  obtain ⟨waiter, inside, waits⟩ := List.mem_flatMap.mp waiting
  refine idle waiter inside ?_
  unfold Task.waiters at waits
  unfold Task.Ready
  cases phase : waiter.phase with
  | queued =>
    simp only [phase, List.mem_singleton] at waits
    exact .inr (waits ▸ granted)
  | _ => simp [phase] at waits

/-- In a round whose tasks are not ready, some call is under way unless all tasks are over. -/
theorem Orderly.exists_calling (orderly : round.Orderly mission recipients) {task : Task}
    (member : task ∈ round.fanout.tasks) (unfinished : task.isEnded = false)
    (idle : ∀ task ∈ round.fanout.tasks,
      ¬ task.Ready round.fanout.now round.isCancelled round.fanout.shared.permits.granted) :
    ∃ caller ∈ round.fanout.tasks, ∃ call, caller.phase = .calling call := by
  by_contra nobody
  -- Without a call all permits are free or granted.
  have silent : ∀ caller ∈ round.fanout.tasks, caller.calls = 0 := by
    intro caller inside
    unfold Task.calls
    cases phase : caller.phase with
    | calling call => exact absurd ⟨caller, inside, call, phase⟩ nobody
    | _ => rfl
  have none : (round.fanout.tasks.map Task.calls).sum = 0 := by
    refine List.sum_eq_zero_iff_forall_eq_nat.mpr fun count counted => ?_
    obtain ⟨caller, inside, rfl⟩ := List.mem_map.mp counted
    exact silent caller inside
  have accounts := orderly.accounts
  rw [none] at accounts
  have ungranted : round.fanout.shared.permits.granted = [] := orderly.granted_eq_nil idle
  have positive : 0 < mission.settings.permits :=
    Nat.lt_of_lt_of_le Nat.one_pos (Nat.le_max_right _ _)
  -- So some permit is free, and the queue is empty: nobody can be waiting.
  have nowhere := accounts.waiters_eq_nil positive ungranted
  cases phase : task.phase with
  | fresh => exact idle task member (by rw [Task.Ready, phase]; trivial)
  | queued =>
    have waits : task.waiters = [] := List.flatMap_eq_nil_iff.mp nowhere task member
    simp [Task.waiters, phase] at waits
  | calling call => exact nobody ⟨task, member, call, phase⟩
  | ended status => simp [Task.isEnded, phase] at unfinished

theorem Orderly.exists_poll (orderly : round.Orderly mission recipients) {task : Task}
    (member : task ∈ round.fanout.tasks)
    (ready : task.Ready round.fanout.now round.isCancelled round.fanout.shared.permits.granted) :
    ∃ next, Runs mission round next ∧ next.effort < round.effort ∧
      next.switch = round.switch := by
  obtain ⟨before, after, place⟩ := List.append_of_mem member
  refine ⟨_, .single (.poll place ready.isEnded_eq_false), ?_, rfl⟩
  have less : (task.poll mission round.fanout.now round.isCancelled round.fanout.shared).1.rank <
      task.rank := ready.rank_poll_lt
  change round.collector.pending.length + _ < _
  simp only [effort, orderly.polled_eq, place, List.map_append, List.map_cons, List.sum_append,
    List.sum_cons]
  omega

/-- Somebody can tell an outcome, or can have a turn that brings it further, perhaps after
time has passed. -/
theorem Orderly.exists_next (orderly : round.Orderly mission recipients) (busy : ¬ round.IsOver) :
    ∃ next, Runs mission round next ∧ next.effort < round.effort ∧ next.switch = round.switch := by
  by_cases telling : ∃ task ∈ round.fanout.tasks,
      task.isEnded = true ∧ task.id ∈ round.collector.pending
  · obtain ⟨task, member, complete, awaited⟩ := telling
    refine ⟨_, .single (.collect member complete awaited), ?_, rfl⟩
    have some := List.length_pos_of_mem awaited
    simp only [effort, Collector.take, List.length_erase_of_mem awaited]
    omega
  by_cases turning : ∃ task ∈ round.fanout.tasks,
      task.Ready round.fanout.now round.isCancelled round.fanout.shared.permits.granted
  · obtain ⟨task, member, ready⟩ := turning
    exact orderly.exists_poll member ready
  have idle : ∀ task ∈ round.fanout.tasks,
      ¬ task.Ready round.fanout.now round.isCancelled round.fanout.shared.permits.granted :=
    fun task member ready => turning ⟨task, member, ready⟩
  obtain ⟨id, awaited⟩ := List.exists_mem_of_ne_nil _ busy
  obtain ⟨task, member, rfl⟩ := List.mem_map.mp (orderly.known.subset awaited)
  have unfinished : task.isEnded = false := Bool.eq_false_iff.mpr fun complete =>
    telling ⟨task, member, complete, awaited⟩
  obtain ⟨caller, inside, call, phase⟩ := orderly.exists_calling member unfinished idle
  have waking : call.due ∈ round.fanout.tasks.filterMap Task.wakesAt :=
    List.mem_filterMap.mpr ⟨caller, inside, by rw [Task.wakesAt, phase]; rfl⟩
  obtain ⟨time, first⟩ := Option.isSome_iff_exists.mp
    (List.isSome_min?_of_mem waking)
  obtain ⟨wakes, least⟩ := List.min?_eq_some_iff.mp first
  obtain ⟨sleeper, sleeping, wake⟩ := List.mem_filterMap.mp wakes
  obtain ⟨due, phaseOfSleeper, rfl⟩ := Task.wakesAt_eq_some_iff.mp wake
  have asleep := idle sleeper sleeping
  simp only [Task.Ready, phaseOfSleeper, not_or, Bool.not_eq_true, Nat.not_le] at asleep
  have pass : Step mission round
      { round with fanout := { round.fanout with now := due.due } } :=
    .pass asleep.2 asleep.1 busy fun other member wake wakes =>
      least wake (List.mem_filterMap.mpr ⟨other, member, wakes⟩)
  have ready : sleeper.Ready due.due round.isCancelled round.fanout.shared.permits.granted := by
    rw [Task.Ready, phaseOfSleeper]
    exact .inr (Nat.le_refl _)
  obtain ⟨next, run, less, switch⟩ := (orderly.step pass).exists_poll sleeping ready
  exact ⟨next, .head pass run, less, switch⟩

/-- Every round can be brought to its end, whatever has happened so far. -/
theorem Orderly.exists_finished (orderly : round.Orderly mission recipients) :
    ∃ finished, Runs mission round finished ∧ finished.IsOver ∧
      finished.switch = round.switch := by
  -- By induction on the effort, which the way on that was found above lowers.
  induction effort : round.effort using Nat.strong_induction_on generalizing round with
  | _ _ ih =>
    by_cases complete : round.IsOver
    · exact ⟨round, .refl, complete, rfl⟩
    · obtain ⟨next, run, less, switch⟩ := orderly.exists_next complete
      obtain ⟨finished, rest, isOver, same⟩ := ih _ (effort ▸ less) (run.orderly orderly) rfl
      exact ⟨finished, run.trans rest, isOver, same.trans switch⟩

end Round

end Resharing
