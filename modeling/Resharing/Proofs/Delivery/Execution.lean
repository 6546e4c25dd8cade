import Resharing.Proofs.Delivery.Settling

/-!
# The schedule that is carried out

Going from instant to instant, with one pass at each, is one of the schedules. It comes to
the end of every delivery, since each instant after the first ends a call or is the one of the
cancellation; so nothing that holds of all schedules needs to be proved of it again.

## Main definitions

* `Round.disturbed`: a round after the owner has cancelled
* `Round.FreshLast`, `Round.Brief`: nobody is overtaken on the first turn, and time stands still
* `Round.Steady`: a pass lines the tasks up, at any instant
* `Round.Schedules`: deliveries are those of a schedule

## Main results

* `Round.Orderly.exists_collected`: what is over can be told
* `Round.Orderly.completes_run`: everything comes to its end
* `Round.exists_deliver`: what is carried out is a schedule
-/

namespace Resharing.Round

variable {τ : Type} {mission : Mission τ} {recipients : List Operator} {round next : Round τ}

/-- The round after the owner has cancelled. -/
def disturbed (round : Round τ) : Round τ := { round with switch := round.switch.cancel }

/-- The round at another instant. -/
def moveTo (round : Round τ) (time : Nat) : Round τ :=
  { round with fanout := { round.fanout with now := time } }

/-! ### A pass is a run -/

/-- Nobody has had a turn before somebody with a lower number. -/
def FreshLast (round : Round τ) : Prop :=
  round.fanout.tasks.Pairwise fun earlier later => earlier.phase = .fresh → later.phase = .fresh

/-- A step at an instant, by which nobody is overtaken on the first turn. -/
def Brief (mission : Mission τ) (round next : Round τ) : Prop :=
  Step mission round next ∧ next.fanout.now = round.fanout.now ∧
    (round.FreshLast → next.FreshLast)

/-- Things that happen at an instant, one after the other. -/
abbrev Briefly (mission : Mission τ) : Round τ → Round τ → Prop :=
  Relation.ReflTransGen (Brief mission)

theorem Briefly.runs (brief : Briefly mission round next) : Runs mission round next :=
  Relation.ReflTransGen.mono (fun _ _ brief => brief.1) _ _ brief

/-- A turn after those of everybody before leaves the fresh tasks behind. -/
theorem Orderly.brief_polled (orderly : round.Orderly mission recipients) {before after : List Task}
    {task : Task} (place : round.fanout.tasks = before ++ task :: after)
    (past : ∀ task ∈ before, task.phase ≠ .fresh) (unfinished : task.isEnded = false) :
    Brief mission round (round.polled mission before task after) := by
  refine ⟨.poll place unfinished, rfl, fun freshLast => ?_⟩
  rw [FreshLast, place] at freshLast
  rw [FreshLast, orderly.polled_eq]
  refine List.pairwise_append.mpr ⟨(List.pairwise_append.mp freshLast).1,
    List.pairwise_cons.mpr ⟨fun other _ fresh => ?_,
      (List.pairwise_cons.mp (List.pairwise_append.mp freshLast).2.1).2⟩,
    fun earlier member other _ fresh => absurd fresh (past earlier member)⟩
  exact absurd fresh Task.phase_poll_ne_fresh

/-- A pass over the last of the tasks is a run. -/
theorem Orderly.exists_pass (orderly : round.Orderly mission recipients) (done : List Task)
    {rest : List Task} (place : round.fanout.tasks = done ++ rest)
    (past : ∀ task ∈ done, task.phase ≠ .fresh) :
    ∃ next, Briefly mission round next ∧ next.switch = round.switch ∧
      next.fanout =
        let pass := Fanout.pollAll mission round.fanout.now round.isCancelled rest
          round.fanout.shared
        ⟨round.fanout.now, done ++ pass.1, pass.2⟩ := by
  -- The tasks move one by one from those still to come to those that have had their turn.
  induction rest generalizing round done with
  | nil =>
    refine ⟨round, .refl, rfl, ?_⟩
    simp only [Fanout.pollAll, ← place]
  | cons task rest ih =>
    have gone : ∀ turn : Task, turn.phase ≠ .fresh →
        ∀ known ∈ done ++ [turn], known.phase ≠ .fresh := by
      intro turn other known member
      rcases List.mem_append.mp member with old | new
      · exact past known old
      · exact List.mem_singleton.mp new ▸ other
    cases complete : task.isEnded with
    | true =>
      obtain ⟨status, phase⟩ := Task.isEnded_iff.mp complete
      obtain ⟨next, run, switch, fanout⟩ := ih orderly (done ++ [task]) (by simp [place])
        (gone task (by simp [phase]))
      refine ⟨next, run, switch, ?_⟩
      rw [fanout]
      simp [Fanout.pollAll_cons, Task.poll_ended mission _ _ complete]
    | false =>
      have brief : Brief mission round (round.polled mission done task rest) :=
        orderly.brief_polled place past complete
      have polled := orderly.polled_eq done task rest
      obtain ⟨next, run, switch, fanout⟩ := ih (orderly.step brief.1)
        (done ++ [(task.poll mission round.fanout.now round.isCancelled
          round.fanout.shared).1]) (by rw [polled]; simp) (gone _ Task.phase_poll_ne_fresh)
      refine ⟨next, .head brief run, switch, ?_⟩
      rw [fanout, polled]
      simp [Fanout.pollAll_cons, Round.polled]

/-- Everything that happens at an instant is a run. -/
theorem Orderly.exists_settled (orderly : round.Orderly mission recipients)
    (cancelAt : Option Nat)
    (seen : round.isCancelled = cancelAt.any (· ≤ round.fanout.now)) :
    ∃ next, Briefly mission round next ∧ next.switch = round.switch ∧
      next.fanout = round.fanout.settle mission cancelAt := by
  obtain ⟨next, run, switch, fanout⟩ := orderly.exists_pass [] rfl (by simp)
  exact ⟨next, run, switch, by rw [fanout, seen]; rfl⟩

/-- Once all tasks are over they can tell their outcomes. -/
theorem Orderly.exists_collected (orderly : round.Orderly mission recipients)
    (complete : round.fanout.tasks.all Task.isEnded = true) :
    ∃ finished, Briefly mission round finished ∧ finished.IsOver ∧
      finished.switch = round.switch ∧ finished.fanout = round.fanout := by
  induction awaited : round.collector.pending generalizing round with
  | nil => exact ⟨round, .refl, awaited, rfl, rfl⟩
  | cons id rest ih =>
    obtain ⟨task, member, rfl⟩ := List.mem_map.mp (orderly.known.subset
      (awaited ▸ List.mem_cons_self : id ∈ round.collector.pending))
    have step : Step mission round { round with collector := round.collector.take task } :=
      .collect member (List.all_eq_true.mp complete task member) (awaited ▸ List.mem_cons_self)
    obtain ⟨finished, run, isOver, switch, fanout⟩ := ih (orderly.step step) complete
      (by simp [Collector.take, awaited])
    exact ⟨finished, .head ⟨step, rfl, id⟩ run, isOver, switch, fanout⟩

/-- When nothing is waited for any more, what is known is what has become of the tasks. -/
theorem Orderly.report_eq (orderly : round.Orderly mission recipients) (complete : round.IsOver)
    (session : SessionId) : round.report session = round.fanout.report session := by
  simp [report, Fanout.report, orderly.known.entries_eq complete, Function.comp_def]

/-! ### From instant to instant -/

/-- A pass lines the tasks up, at any instant. -/
def Steady (mission : Mission τ) (round : Round τ) : Prop :=
  ∀ now, Fanout.Lined (Fanout.pollAll mission now false round.fanout.tasks round.fanout.shared).1
    (Fanout.pollAll mission now false round.fanout.tasks round.fanout.shared).2.permits

theorem steady_start {switch : Switch} {now : Nat} {traffic : Traffic} {transport : τ} :
    (start mission recipients switch now traffic transport).Steady mission :=
  fun _ => Fanout.lined_pollAll_fresh (fun _ member => phase_of_mem_start member) rfl

/-- After a pass that leaves something to do some call is under way, and the next instant is
one at which a call is due or the owner cancels. -/
theorem Orderly.exists_next_instant (orderly : round.Orderly mission recipients)
    (undisturbed : round.isCancelled = false)
    (lined : Fanout.Lined round.fanout.tasks round.fanout.shared.permits)
    (quiet : ∀ task ∈ round.fanout.tasks, ∀ call, task.phase = .calling call →
      round.fanout.now < call.due)
    (unfinished : ¬ round.fanout.tasks.all Task.isEnded = true) {cancelAt : Option Nat}
    (coming : cancelAt.any (· ≤ round.fanout.now) = false) :
    ∃ time, round.fanout.next? cancelAt = some time ∧ Step mission round (round.moveTo time) ∧
      (cancelAt = some time ∨ cancelAt.any (· ≤ time) = false ∧
        ∃ task ∈ round.fanout.tasks, ∃ call, task.phase = .calling call ∧ call.due ≤ time) := by
  rw [List.all_eq_true] at unfinished
  push Not at unfinished
  obtain ⟨task, member, remaining⟩ := unfinished
  have unended : task.isEnded = false := Bool.eq_false_iff.mpr remaining
  have idle := lined.idle quiet
  rw [← undisturbed] at idle
  obtain ⟨caller, inside, call, phase⟩ := orderly.exists_calling member unended idle
  have waking : call.due ∈ cancelAt.toList ++ round.fanout.tasks.filterMap Task.wakesAt :=
    List.mem_append_right _ (List.mem_filterMap.mpr
      ⟨caller, inside, Task.wakesAt_eq_some_iff.mpr ⟨call, phase, rfl⟩⟩)
  obtain ⟨time, first⟩ := Option.isSome_iff_exists.mp (List.isSome_min?_of_mem waking)
  obtain ⟨comes, least⟩ := List.min?_eq_some_iff.mp first
  have busy : round.collector.pending ≠ [] := fun complete => by
    simp [orderly.known.isEnded complete member] at unended
  have soon : ∀ other ∈ round.fanout.tasks, ∀ wake, other.wakesAt = some wake → time ≤ wake :=
    fun other present wake wakes => least wake
      (List.mem_append_right _ (List.mem_filterMap.mpr ⟨other, present, wakes⟩))
  rcases List.mem_append.mp comes with cancels | wakes
  · have cancelled : cancelAt = some time := Option.mem_toList.mp cancels
    have later : round.fanout.now < time := by simpa [cancelled] using coming
    exact ⟨time, first, .pass later undisturbed busy soon, .inl cancelled⟩
  · obtain ⟨sleeper, sleeping, wake⟩ := List.mem_filterMap.mp wakes
    obtain ⟨due, phase, rfl⟩ := Task.wakesAt_eq_some_iff.mp wake
    have later := quiet sleeper sleeping due phase
    refine ⟨due.due, first, .pass later undisturbed busy soon, ?_⟩
    by_cases cancelled : cancelAt = some due.due
    · exact .inl cancelled
    · refine .inr ⟨?_, sleeper, sleeping, due, phase, Nat.le_refl _⟩
      cases cancelAt with
      | none => rfl
      | some cancelTime =>
        have notBefore : due.due ≤ cancelTime := least cancelTime (by simp)
        have different : cancelTime ≠ due.due := fun same => cancelled (congrArg some same)
        simp only [Option.any_some, decide_eq_false_iff_not]
        omega

/-- How a round goes that is carried out: all deliveries come to their end before the owner
cancels, or the owner cancels at its time and finds some unfinished. -/
def Completes (mission : Mission τ) (cancelAt : Option Nat) (round : Round τ) (fanout : Fanout τ) :
    Prop :=
  (∃ last, Runs mission round last ∧ last.switch = round.switch ∧ last.fanout = fanout ∧
    last.fanout.tasks.all Task.isEnded = true ∧
    cancelAt.any (· ≤ last.fanout.now) = false) ∨
  (∃ eve time, Runs mission round eve ∧ eve.switch = round.switch ∧ cancelAt = some time ∧
    eve.fanout.now < time ∧ Step mission eve (eve.moveTo time) ∧
    eve.fanout.tasks.all Task.isEnded = false ∧
    fanout = (eve.moveTo time).fanout.settle mission cancelAt)

theorem Completes.head {cancelAt : Option Nat} {fanout : Fanout τ} (run : Runs mission round next)
    (switch : next.switch = round.switch) (completes : next.Completes mission cancelAt fanout) :
    round.Completes mission cancelAt fanout := by
  rcases completes with ⟨last, rest, same, ends⟩ | ⟨eve, time, rest, same, ends⟩
  · exact .inl ⟨last, run.trans rest, same.trans switch, ends⟩
  · exact .inr ⟨eve, time, run.trans rest, same.trans switch, ends⟩

/-- After the cancellation one pass ends everything. -/
theorem all_isEnded_settle {cancelAt : Option Nat} {fanout : Fanout τ}
    (cancelled : cancelAt.any (· ≤ fanout.now) = true) :
    (fanout.settle mission cancelAt).tasks.all Task.isEnded = true := by
  simp only [Fanout.settle, cancelled, Fanout.pollAll_cancelled, List.all_map]
  refine List.all_eq_true.mpr fun task _ => ?_
  simp only [Function.comp_apply, Fanout.cut]
  split_ifs with complete
  · exact complete
  · rfl

/-- Before the cancellation comes, a pass is an ordinary one. -/
theorem settle_coming {cancelAt : Option Nat} {fanout : Fanout τ}
    (coming : cancelAt.any (· ≤ fanout.now) = false) :
    fanout.settle mission cancelAt =
      let pass := Fanout.pollAll mission fanout.now false fanout.tasks fanout.shared
      ⟨fanout.now, pass.1, pass.2⟩ := by
  rw [Fanout.settle, coming]

theorem run_of_over {cancelAt : Option Nat} {fanout : Fanout τ}
    (complete : (fanout.settle mission cancelAt).tasks.all Task.isEnded = true) {fuel : Nat} :
    fanout.run mission cancelAt (fuel + 1) = fanout.settle mission cancelAt := by
  rw [Fanout.run, if_pos complete]

/-- If a pass ends everything, the round is complete. -/
theorem Orderly.completes_of_over (orderly : round.Orderly mission recipients)
    (undisturbed : round.isCancelled = false) {cancelAt : Option Nat}
    (coming : cancelAt.any (· ≤ round.fanout.now) = false)
    (complete : (round.fanout.settle mission cancelAt).tasks.all Task.isEnded = true) {fuel : Nat} :
    round.Completes mission cancelAt (round.fanout.run mission cancelAt (fuel + 1)) := by
  obtain ⟨settled, brief, switch, fanout⟩ :=
    orderly.exists_settled cancelAt (undisturbed.trans coming.symm)
  refine .inl ⟨settled, brief.runs, switch, ?_, by rw [fanout]; exact complete, ?_⟩
  · rw [run_of_over complete, fanout]
  · rw [fanout]
    exact coming

/-- With as much fuel as there are tasks left after a pass, everything comes to its end. -/
theorem Orderly.completes_run (orderly : round.Orderly mission recipients)
    (undisturbed : round.isCancelled = false) (steady : round.Steady mission)
    {cancelAt : Option Nat} (coming : cancelAt.any (· ≤ round.fanout.now) = false) {fuel : Nat}
    (enough : Fanout.unfinished (round.fanout.settle mission cancelAt).tasks ≤ fuel) :
    round.Completes mission cancelAt (round.fanout.run mission cancelAt (fuel + 1)) := by
  -- Each unit of fuel pays for an instant at which some call ends or the owner cancels.
  induction fuel generalizing round with
  | zero =>
    exact orderly.completes_of_over undisturbed coming
      (Fanout.unfinished_eq_zero_iff.mp (Nat.le_zero.mp enough))
  | succ fuel ih =>
    by_cases complete : (round.fanout.settle mission cancelAt).tasks.all Task.isEnded = true
    · exact orderly.completes_of_over undisturbed coming complete
    obtain ⟨settled, brief, switch, fanout⟩ :=
      orderly.exists_settled cancelAt (undisturbed.trans coming.symm)
    have run := brief.runs
    have later := run.orderly orderly
    have unseen : settled.isCancelled = false := by rw [isCancelled, switch]; exact undisturbed
    have lined : Fanout.Lined settled.fanout.tasks settled.fanout.shared.permits := by
      rw [fanout, settle_coming coming]
      exact steady round.fanout.now
    have quiet : ∀ task ∈ settled.fanout.tasks, ∀ call, task.phase = .calling call →
        settled.fanout.now < call.due := by
      rw [fanout, settle_coming coming]
      exact fun task member call calls => Fanout.lt_due_pollAll _ member calls
    have still : cancelAt.any (· ≤ settled.fanout.now) = false := by
      rw [fanout]
      exact coming
    obtain ⟨time, first, step, cancels | ⟨waits, caller, inside, call, phase, due⟩⟩ :=
      later.exists_next_instant unseen lined quiet (by rwa [fanout]) still
    · -- The owner cancels at the next instant, and one pass ends what is left.
      have seen : cancelAt.any (· ≤ (settled.moveTo time).fanout.now) = true := by
        simp [cancels, moveTo]
      refine .inr ⟨settled, time, run, switch, cancels, by simpa [cancels] using still, step,
        by rw [fanout]; exact Bool.eq_false_iff.mpr complete, ?_⟩
      rw [Fanout.run, if_neg complete, ← fanout, first]
      exact run_of_over (all_isEnded_settle seen)
    · -- Some call is due at the next instant, so fewer tasks are left after it.
      have fewer : Fanout.unfinished ((settled.moveTo time).fanout.settle mission cancelAt).tasks <
          Fanout.unfinished settled.fanout.tasks := by
        rw [settle_coming waits]
        exact Fanout.unfinished_pollAll_lt inside phase due _
      have left : Fanout.unfinished settled.fanout.tasks ≤ fuel + 1 := by rwa [fanout]
      have rest := ih (later.step step) unseen (fun _ => Fanout.lined_pollAll lined) waits
        (Nat.le_of_lt_succ (Nat.lt_of_lt_of_le fewer left))
      rw [Fanout.run, if_neg complete, ← fanout, first]
      exact rest.head (run.tail step) switch

/-! ### From the start -/

variable {switch : Switch} {now : Nat} {traffic : Traffic} {transport : τ} {fanout : Fanout τ}

/-- How deliveries that are carried out come to their end: some schedule ends with them that
is never cancelled, or one that the owner cancels at its time, before anything else happens
then. -/
def Schedules (mission : Mission τ) (start : Round τ) (cancelAt : Option Nat)
    (fanout : Fanout τ) : Prop :=
  (∃ finished, Runs mission start finished ∧ finished.IsOver ∧ finished.isCancelled = false ∧
    finished.fanout = fanout ∧ cancelAt.any (· ≤ fanout.now) = false) ∨
  (∃ time moment finished, cancelAt = some time ∧ Runs mission start moment ∧
    moment.isCancelled = false ∧ moment.switch.owned = true ∧
    moment.fanout.now = max start.fanout.now time ∧
    (∀ call ∈ moment.started, call ∈ start.started ∨ call.1 < time) ∧
    (moment = start ∨
      start.fanout.now < time ∧ moment.fanout.tasks.all Task.isEnded = false) ∧
    Runs mission moment.disturbed finished ∧ finished.IsOver ∧ finished.fanout = fanout)

/-- Once the owner has cancelled, a pass and the telling of what is over finish the round. -/
theorem Orderly.exists_finished_disturbed (orderly : round.Orderly mission recipients)
    (owned : round.switch.owned = true) (cancelAt : Option Nat)
    (seen : cancelAt.any (· ≤ round.fanout.now) = true) :
    ∃ finished, Runs mission round.disturbed finished ∧ finished.IsOver ∧
      finished.fanout = round.fanout.settle mission cancelAt := by
  have disturbed : round.disturbed.Orderly mission recipients := orderly.step (.cancel owned)
  obtain ⟨settled, brief, -, fanout⟩ := disturbed.exists_settled cancelAt seen.symm
  have complete : settled.fanout.tasks.all Task.isEnded = true := by
    rw [fanout]
    exact all_isEnded_settle seen
  obtain ⟨finished, rest, isOver, -, same⟩ :=
    (brief.runs.orderly disturbed).exists_collected complete
  exact ⟨finished, brief.runs.trans rest.runs, isOver, same.trans fanout⟩

theorem Completes.schedules {cancelAt : Option Nat} (orderly : round.Orderly mission recipients)
    (undisturbed : round.isCancelled = false)
    (owned : cancelAt.isSome = true → round.switch.owned = true)
    (coming : cancelAt.any (· ≤ round.fanout.now) = false)
    (completes : round.Completes mission cancelAt fanout) :
    round.Schedules mission cancelAt fanout := by
  rcases completes with ⟨last, run, switch, rfl, complete, early⟩ |
    ⟨eve, time, run, switch, cancels, before, pass, unfinished, rfl⟩
  · obtain ⟨finished, rest, isOver, same, fanout⟩ := (run.orderly orderly).exists_collected complete
    refine .inl ⟨finished, run.trans rest.runs, isOver, ?_, fanout, early⟩
    rw [isCancelled, same, switch]
    exact undisturbed
  · have later := (run.orderly orderly).step pass
    have seen : cancelAt.any (· ≤ (eve.moveTo time).fanout.now) = true := by
      simp [cancels, moveTo]
    have still : eve.isCancelled = false := by rw [isCancelled, switch]; exact undisturbed
    have held : eve.switch.owned = true := by
      rw [switch]
      exact owned (by rw [cancels]; rfl)
    obtain ⟨finished, rest, isOver, same⟩ := later.exists_finished_disturbed held cancelAt seen
    have timely : eve.Timely round.fanout.shared.traffic :=
      run.timely orderly fun call member => .inl member
    have ahead : round.fanout.now < time := by simpa [cancels] using coming
    refine .inr ⟨time, eve.moveTo time, finished, cancels, run.tail pass, still, held, ?_,
      fun call member => (timely call member).imp_right fun past => Nat.lt_of_le_of_lt past before,
      .inr ⟨ahead, unfinished⟩, rest, isOver, same⟩
    simp only [moveTo]
    omega

/-- The deliveries that are carried out are those of a schedule. -/
theorem exists_deliver (recipients : List Operator) (now : Nat) (traffic : Traffic) (transport : τ)
    (few : mission.settings.permits ≤ DeliverySettings.maxPermits)
    (undisturbed : switch.cancelled = false) (cancelAt : Option Nat)
    (owned : cancelAt.isSome = true → switch.owned = true) :
    ∃ fanout, Fanout.deliver mission recipients cancelAt now traffic transport = .ok fanout ∧
      (start mission recipients switch now traffic transport).Schedules mission cancelAt
        fanout := by
  have orderly : (start mission recipients switch now traffic transport).Orderly mission
      recipients := orderly_start
  refine ⟨_, by rw [Fanout.deliver, if_pos few], ?_⟩
  cases coming : cancelAt.any (· ≤ now) with
  | false =>
    refine (orderly.completes_run undisturbed steady_start coming ?_).schedules orderly
      undisturbed owned coming
    have fewer := Fanout.unfinished_pollAll_le mission now (cancelAt.any (· ≤ now))
      (Fanout.start mission.settings recipients now traffic transport).tasks
      (Fanout.start mission.settings recipients now traffic transport).shared
    exact Nat.le_trans fewer List.countP_le_length
  | true =>
    obtain ⟨time, cancels⟩ : ∃ time, cancelAt = some time := by
      cases cancelAt with
      | none => simp at coming
      | some time => exact ⟨time, rfl⟩
    have early : time ≤ now := by simpa [cancels] using coming
    have held : switch.owned = true := owned (by rw [cancels]; rfl)
    obtain ⟨finished, run, isOver, same⟩ := orderly.exists_finished_disturbed held
      cancelAt coming
    refine .inr ⟨time, _, finished, cancels, .refl, undisturbed, held, ?_,
      fun call member => .inl member, .inl rfl, run, isOver, ?_⟩
    · simp only [start, Fanout.start]
      omega
    · rw [same]
      exact (run_of_over (all_isEnded_settle coming)).symm

/-- Deliveries that are carried out are the end of some schedule from their start. -/
theorem Schedules.exists_finished {cancelAt : Option Nat}
    (schedules : round.Schedules mission cancelAt fanout) :
    ∃ finished, Runs mission round finished ∧ finished.IsOver ∧ finished.fanout = fanout := by
  rcases schedules with ⟨finished, run, complete, -, same, -⟩ |
    ⟨-, moment, finished, -, run, -, owned, -, -, -, rest, complete, same⟩
  · exact ⟨finished, run, complete, same⟩
  · exact ⟨finished, (run.tail (.cancel owned)).trans rest, complete, same⟩

end Resharing.Round
