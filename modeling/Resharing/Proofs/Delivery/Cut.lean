import Resharing.Proofs.Delivery.Interruption

/-!
# What a cancellation cuts short

Nothing is assumed here of the transport. While nobody cancels no delivery ends as cancelled,
so what a report says to have been cancelled is exactly what was unfinished at the moment of the
cancellation.

## Main definitions

* `Round.Uncut`: no delivery has ended as cancelled
* `Round.CutReport`: a report on deliveries that were cancelled at a moment

## Main results

* `Round.Runs.uncut`: while nobody cancels, no delivery ends as cancelled
* `Round.Runs.dialled_of_uncut`: where none has, each delivery makes its call once
* `Round.cutReport_of_runs`: a cancelled round reports what was unfinished as cancelled
* `Round.CutReport.status_iff`: and nothing else
* `Round.Schedules.exists_moment`: so do the deliveries that are carried out
-/

namespace Resharing

/-! ### Turns that nobody cancels -/

theorem Call.verdict_ne_cancelled (call : Call) (now : Nat) :
    call.verdict now ≠ some .cancelled := by
  unfold Call.verdict
  split_ifs
  · simpa using call.ending.status_ne_cancelled
  · simp
  · simp

namespace Task

variable {τ : Type} {mission : Mission τ} {now : Nat} {task : Task} {shared : Shared τ}

theorem proceed_uncut (call : Call) :
    (task.proceed mission now call shared).1.phase ≠ .ended .cancelled := by
  rw [proceed_eq]
  cases judged : call.verdict now with
  | none => simp
  | some status =>
    intro cut
    obtain rfl : status = .cancelled := by simpa [ended] using cut
    exact call.verdict_ne_cancelled now judged

/-- A turn that does not see the cancellation does not end its task as cancelled. -/
theorem poll_uncut (uncut : task.phase ≠ .ended .cancelled) :
    (task.poll mission now false shared).1.phase ≠ .ended .cancelled := by
  rcases task.poll_cases mission now shared with
    ⟨turn, -⟩ | ⟨-, permits, turn⟩ | ⟨-, permits, turn⟩ | ⟨call, -, turn⟩
  · rw [turn]
    exact uncut
  · rw [turn]
    simp
  · rw [turn, start_eq]
    exact proceed_uncut _
  · rw [turn]
    exact proceed_uncut call

end Task

namespace Round

variable {τ : Type} {mission : Mission τ} {recipients : List Operator}
  {round next moment finished : Round τ} {switch : Switch} {now : Nat} {traffic : Traffic}
  {transport : τ} {session : SessionId} {report : Report}

/-- No delivery has ended as cancelled. -/
def Uncut (round : Round τ) : Prop := ∀ task ∈ round.fanout.tasks, task.phase ≠ .ended .cancelled

theorem uncut_start : (start mission recipients switch now traffic transport).Uncut := by
  intro task member
  rw [phase_of_mem_start member]
  simp

theorem Uncut.step (orderly : round.Orderly mission recipients) (uncut : round.Uncut)
    (undisturbed : round.isCancelled = false) (step : Step mission round next) : next.Uncut := by
  cases step with
  | @poll before after task place unfinished =>
    intro other member
    rw [orderly.polled_eq, undisturbed] at member
    have old : ∀ known ∈ before ++ task :: after, known.phase ≠ .ended .cancelled := by
      rw [← place]
      exact uncut
    simp only [List.mem_append, List.mem_cons] at member
    rcases member with earlier | rfl | later
    · exact old other (by simp [earlier])
    · exact Task.poll_uncut (old task (by simp))
    · exact old other (by simp [later])
  | collect | lose | cancel | leave | pass => exact uncut

/-- While nobody cancels, no delivery ends as cancelled. -/
theorem Runs.uncut (run : Runs mission round next) (orderly : round.Orderly mission recipients)
    (uncut : round.Uncut) (undisturbed : next.isCancelled = false) : next.Uncut := by
  -- A run that ends uncancelled is uncancelled throughout.
  refine run.keeps (motive := fun round => round.isCancelled = false → round.Uncut) orderly ?_
    (fun _ => uncut) undisturbed
  intro round next orderly uncut step quiet
  have still := Runs.undisturbed (.single step) quiet
  exact (uncut still).step orderly still step

/-- Steps do not undo a cancellation, and none that cuts a delivery short makes a call. So while
no delivery has ended as cancelled, each task makes its call once. -/
theorem Dialled.step_of_uncut (orderly : round.Orderly mission recipients)
    (dialled : round.Uncut → round.Dialled mission traffic transport)
    (step : Step mission round next) (uncut : next.Uncut) :
    next.Dialled mission traffic transport := by
  cases step with
  | @poll before after task place unfinished =>
    have tasks := uncut
    simp only [Uncut, orderly.polled_eq] at tasks
    have quiet : round.isCancelled = false := by
      by_contra cancelled
      rw [Bool.not_eq_false] at cancelled
      refine tasks (task.ended .cancelled) ?_ rfl
      rw [cancelled, Task.poll_cancelled _ _ unfinished]
      exact List.mem_append_right _ List.mem_cons_self
    have still : round.Uncut := by
      intro other member
      rw [place, List.mem_append, List.mem_cons] at member
      rcases member with earlier | rfl | later
      · exact tasks other (List.mem_append_left _ earlier)
      · intro cut
        simp [Task.isEnded, cut] at unfinished
      · exact tasks other (List.mem_append_right _ (List.mem_cons_of_mem _ later))
    exact (dialled still).step orderly (.poll place unfinished) quiet
  | collect | lose | cancel | leave | pass => exact dialled uncut

theorem Runs.dialled_of_uncut (run : Runs mission round next)
    (orderly : round.Orderly mission recipients) (dialled : round.Dialled mission traffic transport)
    (uncut : next.Uncut) : next.Dialled mission traffic transport :=
  run.keeps (motive := fun round => round.Uncut → round.Dialled mission traffic transport) orderly
    (fun orderly dialled step uncut => Dialled.step_of_uncut orderly dialled step uncut)
    (fun _ => dialled) uncut

/-! ### Reports -/

/-- No delivery of a round that is over has ended as cancelled if none is reported so. -/
theorem cancelled_report_eq_nil_iff (orderly : round.Orderly mission recipients)
    (complete : round.IsOver) (session : SessionId) :
    (round.report session).cancelled = [] ↔ round.Uncut := by
  rw [Report.cancelled, List.filter_eq_nil_iff, outcomes_report orderly complete,
    List.forall_mem_map]
  refine forall₂_congr fun task member => ?_
  obtain ⟨status, phase⟩ := Task.isEnded_iff.mp (orderly.known.isEnded complete member)
  simp [Task.outcome, phase]

/-- The report on deliveries that are cancelled at a moment: what was over has its own status,
which is not that of a cancellation, and everything else is cancelled. -/
structure CutReport (moment : Round τ) (report : Report) : Prop where
  outcomes : report.outcomes = moment.fanout.tasks.map fun task =>
    ⟨task.id, task.address, if task.isEnded then task.outcome.status else .cancelled⟩
  uncut : moment.Uncut

/-- Exactly the deliveries that were unfinished are reported as cancelled. -/
theorem CutReport.status_iff (cut : moment.CutReport report)
    (names : (moment.fanout.tasks.map (·.id)).Nodup) {task : Task}
    (member : task ∈ moment.fanout.tasks) {outcome : Outcome} (told : outcome ∈ report.outcomes)
    (same : outcome.id = task.id) : outcome.status = .cancelled ↔ task.isEnded = false := by
  rw [cut.outcomes] at told
  obtain ⟨other, inside, rfl⟩ := List.mem_map.mp told
  obtain rfl : other = task := List.inj_on_of_nodup_map names inside member same
  cases complete : other.isEnded with
  | false => simp
  | true =>
    obtain ⟨status, phase⟩ := Task.isEnded_iff.mp complete
    have uncut := cut.uncut other member
    simp only [phase, ne_eq, Phase.ended.injEq] at uncut
    simpa [Task.outcome, phase] using uncut

/-- A round that is cancelled at some moment reports what was unfinished then as cancelled, at
that instant and without another call. -/
theorem cutReport_of_runs (orderly : moment.Orderly mission recipients) (uncut : moment.Uncut)
    (owned : moment.switch.owned = true) (run : Runs mission moment.disturbed finished)
    (complete : finished.IsOver) (session : SessionId) :
    moment.CutReport (finished.report session) ∧ finished.fanout.now = moment.fanout.now ∧
      finished.started = moment.started := by
  have disturbed : moment.disturbed.Orderly mission recipients := orderly.step (.cancel owned)
  have frozen : Frozen moment.disturbed finished := Runs.frozen disturbed rfl run
  have later := run.orderly disturbed
  refine ⟨⟨?_, uncut⟩, frozen.now, frozen.started⟩
  rw [outcomes_report later complete, frozen.tasks_eq later complete, List.map_map]
  exact List.map_congr_left fun task _ => Fanout.outcome_cut task

/-! ### The schedule that is carried out -/

/-- Deliveries that are carried out and have begun before the owner cancels are over by then and
nothing is cancelled, or they report what was unfinished at that time as cancelled. -/
theorem Schedules.exists_moment {fanout : Fanout τ} {time : Nat}
    (schedules : (start mission recipients switch now traffic transport).Schedules mission
      (some time) fanout) (session : SessionId) :
    (fanout.now < time ∧ (fanout.report session).cancelled = []) ∨
    (fanout.now = max now time ∧ ∃ moment,
      Runs mission (start mission recipients switch now traffic transport) moment ∧
      moment.fanout.now = max now time ∧ moment.CutReport (fanout.report session)) := by
  rcases schedules with ⟨finished, run, complete, quiet, rfl, early⟩ |
    ⟨_, moment, finished, same, run, quiet, owned, instant, -, -, rest, complete, rfl⟩
  · have orderly := run.orderly orderly_start
    refine .inl ⟨by simpa using early, ?_⟩
    rw [← orderly.report_eq complete, cancelled_report_eq_nil_iff orderly complete]
    exact run.uncut orderly_start uncut_start quiet
  · obtain rfl : time = _ := Option.some.inj same
    have orderly := run.orderly orderly_start
    have disturbed : moment.disturbed.Orderly mission recipients := orderly.step (.cancel owned)
    obtain ⟨cut, ends, -⟩ := cutReport_of_runs orderly
      (run.uncut orderly_start uncut_start quiet) owned rest complete session
    refine .inr ⟨ends.trans instant, moment, run, instant, ?_⟩
    rw [← (rest.orderly disturbed).report_eq complete]
    exact cut

end Round

end Resharing
