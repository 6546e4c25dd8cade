import Resharing.Proofs.Delivery.Execution

/-!
# Permits in use

Every call under way holds a permit, and so does every grant that was not picked up; the rest is
free. Whatever ends a call gives its permit back in the same turn. So there are never more calls
than permits, what is observed of the calls agrees with that, and when everything is over all
permits are free.

## Main definitions

* `Round.calls`: how many calls are under way
* `Round.Observed`: what is observed of the calls is true

## Main results

* `Round.Orderly.permits_add`, `Round.Orderly.calls_le`: no permit is lost
* `Round.Orderly.nodup_waiting`: nobody waits twice
* `Round.Orderly.permits_eq_start`: in the end all permits are free
* `Round.Runs.observed`: nothing else is observed
-/

namespace Resharing

/-! ### What is observed of a turn -/

namespace Task

variable {τ : Type} {mission : Mission τ} {now : Nat} {task : Task} {shared : Shared τ}
  {base calls bound total : Nat} {others : List OperatorId}

/-- What is observed of calls when one task is looked at apart from the others: there are those
that were under way before the deliveries, those of the others and its own, and there have never
been more than some bound. -/
structure Observed (base calls bound : Nat) (turn : Task × Shared τ) : Prop where
  inFlight : turn.2.traffic.inFlight = base + calls + turn.1.calls
  peak : turn.2.traffic.peak ≤ bound

theorem observed_proceed (call : Call)
    (inFlight : shared.traffic.inFlight = base + calls + 1)
    (peak : shared.traffic.peak ≤ bound) :
    Observed base calls bound (task.proceed mission now call shared) := by
  rw [proceed_eq]
  cases call.verdict now with
  | none => exact ⟨inFlight, peak⟩
  | some status =>
    unfold Shared.hungUp
    constructor
    · simp only [Task.calls, ended]
      split_ifs <;> simp [Traffic.accept, Traffic.finish, inFlight]
    · simp only
      split_ifs <;> simpa [Traffic.accept, Traffic.finish] using peak

theorem observed_start (inFlight : shared.traffic.inFlight = base + calls)
    (peak : shared.traffic.peak ≤ bound) (room : base + calls + 1 ≤ bound) :
    Observed base calls bound (task.start mission now shared) := by
  rw [start_eq]
  apply observed_proceed
  · simp [Shared.dialled, Traffic.begin, inFlight]
  · simp only [Shared.dialled, Traffic.begin, inFlight]
    exact max_le peak room

theorem observed_abandon (observed : Observed base calls bound (task, shared)) :
    Observed base calls bound (task.abandon shared) := by
  obtain ⟨inFlight, peak⟩ := observed
  unfold abandon
  cases phase : task.phase with
  | fresh => exact ⟨by simpa [Task.calls, phase, ended] using inFlight, peak⟩
  | queued => exact ⟨by simpa [Task.calls, phase, ended] using inFlight, peak⟩
  | ended status => exact ⟨inFlight, peak⟩
  | calling call =>
    simp only [Task.calls, phase] at inFlight
    exact ⟨by simp [Task.calls, ended, Traffic.finish, inFlight], peak⟩

/-- A turn that starts a call has found a permit for it, so there is room for the call. -/
theorem observed_poll (mission : Mission τ) (now : Nat) (cancelled : Bool)
    (balanced : Balanced total calls others (task, shared))
    (observed : Observed base calls bound (task, shared)) (room : base + total ≤ bound) :
    Observed base calls bound (task.poll mission now cancelled shared) := by
  cases cancelled with
  | true => exact observed_abandon observed
  | false =>
    have accounts := balanced
    unfold Balanced at accounts
    obtain ⟨inFlight, peak⟩ := observed
    -- A further call is balanced by a permit, and there are no more permits than there is room.
    have fits : ∀ {permits : Permits} {waiters : List OperatorId},
        permits.Balanced total (calls + 1) waiters → base + calls + 1 ≤ bound := by
      intro permits waiters next
      have sum := next.spare_add
      omega
    cases phase : task.phase with
    | ended status => simpa [poll, phase] using Observed.mk inFlight peak
    | calling call =>
      simp only [Task.calls, phase] at inFlight
      simpa [poll, phase] using observed_proceed call inFlight peak
    | fresh =>
      simp only [Task.calls, waiters, phase, List.append_nil, Nat.add_zero] at accounts inFlight
      rcases accounts.ask task.id with ⟨free, -, asked, next⟩ | ⟨-, asked, next⟩
      · have started : Observed base calls bound (task.start mission now
            { shared with permits := { shared.permits with free } }) :=
          observed_start inFlight peak (fits next)
        simpa [poll, phase, asked] using started
      · have waits : Observed base calls bound ({ task with phase := .queued },
            { shared with permits := { shared.permits with
              queue := shared.permits.queue ++ [task.id] } }) := ⟨inFlight, peak⟩
        simpa [poll, phase, asked] using waits
    | queued =>
      have stays : Observed base calls bound (task, shared) := ⟨inFlight, peak⟩
      simp only [Task.calls, waiters, phase, Nat.add_zero] at accounts inFlight
      cases claimed : shared.permits.claim task.id with
      | none => simpa [poll, phase, claimed] using stays
      | some permits =>
        have started : Observed base calls bound (task.start mission now
            { shared with permits }) :=
          observed_start inFlight peak (fits (accounts.claim claimed))
        simpa [poll, phase, claimed] using started

end Task

/-! ### Every round -/

namespace Round

variable {τ : Type} {mission : Mission τ} {recipients : List Operator} {round next : Round τ}
  {switch : Switch} {now : Nat} {traffic : Traffic} {transport : τ}

/-- How many calls are under way. -/
def calls (round : Round τ) : Nat := (round.fanout.tasks.map Task.calls).sum

/-- The permits of a round. -/
abbrev permits (round : Round τ) : Permits := round.fanout.shared.permits

/-- Every permit is free, granted and not picked up, or held by a call. -/
theorem Orderly.permits_add (orderly : round.Orderly mission recipients) :
    round.permits.free + round.permits.granted.length + round.calls =
      mission.settings.permits :=
  orderly.accounts.spare_add

theorem Orderly.calls_le (orderly : round.Orderly mission recipients) :
    round.calls ≤ mission.settings.permits := by
  have sum := orderly.permits_add
  omega

/-- Nobody has two grants or two places in the queue, or a grant and a place. -/
theorem Orderly.nodup_waiting (orderly : round.Orderly mission recipients) :
    round.permits.waiting.Nodup := by
  refine orderly.accounts.waiting_perm.nodup_iff.mpr ?_
  have some : (round.fanout.tasks.flatMap Task.waiters).Sublist
      (round.fanout.tasks.map (·.id)) := by
    induction round.fanout.tasks with
    | nil => exact .slnil
    | cons task rest ih =>
      rw [List.flatMap_cons, List.map_cons]
      unfold Task.waiters
      cases task.phase with
      | queued => exact ih.cons_cons task.id
      | _ => exact ih.cons task.id
  exact some.nodup orderly.known.nodup_ids

/-- When everything is over no call is under way. -/
theorem Orderly.calls_eq_zero (orderly : round.Orderly mission recipients)
    (complete : round.IsOver) : round.calls = 0 := by
  refine List.sum_eq_zero_iff_forall_eq_nat.mpr fun count counted => ?_
  obtain ⟨task, member, rfl⟩ := List.mem_map.mp counted
  obtain ⟨status, phase⟩ := Task.isEnded_iff.mp (orderly.known.isEnded complete member)
  rw [Task.calls, phase]

/-- When everything is over all permits are free. -/
theorem Orderly.permits_eq_start (orderly : round.Orderly mission recipients)
    (complete : round.IsOver) : round.permits = .start mission.settings.permits := by
  have nobody : round.fanout.tasks.flatMap Task.waiters = [] := by
    refine List.flatMap_eq_nil_iff.mpr fun task member => ?_
    obtain ⟨status, phase⟩ := Task.isEnded_iff.mp (orderly.known.isEnded complete member)
    rw [Task.waiters, phase]
  obtain ⟨ungranted, idle⟩ := List.append_eq_nil_iff.mp
    (List.perm_nil.mp (nobody ▸ orderly.accounts.waiting_perm))
  have sum := orderly.permits_add
  rw [ungranted, orderly.calls_eq_zero complete] at sum
  cases permits : round.fanout.shared.permits with
  | mk free queue granted =>
    simp only [permits] at ungranted idle sum
    subst ungranted idle
    simp_all [Permits.start]

/-! ### What is observed -/

/-- What is observed of the calls is true: there are those under way and those that were before,
and there have never been more than that and the permits allow. -/
structure Observed (mission : Mission τ) (traffic : Traffic) (round : Round τ) : Prop where
  inFlight : round.fanout.shared.traffic.inFlight = traffic.inFlight + round.calls
  peak : round.fanout.shared.traffic.peak ≤
    max traffic.peak (traffic.inFlight + mission.settings.permits)

/-- Before anything has happened no call is under way. -/
theorem calls_start : (start mission recipients switch now traffic transport).calls = 0 := by
  refine List.sum_eq_zero_iff_forall_eq_nat.mpr fun count counted => ?_
  obtain ⟨task, member, rfl⟩ := List.mem_map.mp counted
  rw [Task.calls, phase_of_mem_start member]

theorem observed_start :
    (start mission recipients switch now traffic transport).Observed mission traffic :=
  ⟨by rw [calls_start]; rfl, Nat.le_max_left _ _⟩

/-- The calls of all tasks are those of one task and those of the others. -/
theorem sum_calls (before : List Task) (task : Task) (after : List Task) :
    ((before ++ task :: after).map Task.calls).sum =
      ((before ++ after).map Task.calls).sum + task.calls := by
  simp only [List.map_append, List.map_cons, List.sum_append, List.sum_cons]
  omega

theorem Observed.step (orderly : round.Orderly mission recipients)
    (observed : round.Observed mission traffic) (step : Step mission round next) :
    next.Observed mission traffic := by
  cases step with
  | @poll before after task place unfinished =>
    obtain ⟨inFlight, peak⟩ := observed
    have balanced := orderly.accounts
    rw [place] at balanced
    rw [calls, place, sum_calls, ← Nat.add_assoc] at inFlight
    obtain ⟨flies, bounded⟩ := Task.observed_poll mission round.fanout.now round.isCancelled
      (balanced_middle.mp balanced) ⟨inFlight, peak⟩ (Nat.le_max_right _ _)
    constructor
    · rw [calls, orderly.polled_eq, sum_calls, ← Nat.add_assoc]
      exact flies
    · rw [orderly.polled_eq]
      exact bounded
  | collect | lose | cancel | leave | pass => exact ⟨observed.inFlight, observed.peak⟩

theorem Runs.observed (run : Runs mission round next) (orderly : round.Orderly mission recipients)
    (observed : round.Observed mission traffic) : next.Observed mission traffic :=
  run.keeps orderly (fun orderly observed step => observed.step orderly step) observed

end Round

end Resharing
