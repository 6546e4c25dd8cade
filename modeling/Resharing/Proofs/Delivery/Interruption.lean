import Resharing.Proofs.Delivery.Outcome

/-!
# Deliveries that are cut short

Once the owner has cancelled, nothing is done but to end what is not over: no call is started,
not even with a permit that comes back, no time passes, and what was over before stays as it
was. So the outcomes that a cancellation leaves are outcomes of any later one, and of none.

## Main definitions

* `Round.Frozen`: what a round keeps after the cancellation

## Main results

* `Round.Runs.frozen`: a cancelled round is frozen
* `Round.Runs.mem_tasks`, `Fanout.mem_tasks_run`: what is over stays as it was
* `Fanout.mem_tasks_run_of_later`: a later cancellation leaves more
* `Round.interruption_clean`: all of it, for every schedule and for the one carried out
-/

namespace Resharing

/-! ### After the cancellation -/

namespace Fanout

variable {τ : Type} {mission : Mission τ} {now : Nat} {task : Task} {shared : Shared τ}

theorem cut_of_isEnded (complete : task.isEnded = true) : cut task = task := by
  rw [cut, if_pos complete]

/-- A cancellation makes the same of a task after a turn that sees it. -/
theorem cut_poll : cut (task.poll mission now true shared).1 = cut task := by
  cases complete : task.isEnded with
  | true => rw [Task.poll_ended mission now true complete]
  | false =>
    rw [Task.poll_cancelled mission now complete, cut_of_isEnded (Task.isEnded_ended _ _), cut,
      if_neg (by simp [complete])]

/-- The outcome of what a cancellation makes of a task. -/
theorem outcome_cut (task : Task) :
    (cut task).outcome =
      ⟨task.id, task.address, if task.isEnded then task.outcome.status else .cancelled⟩ := by
  unfold cut
  cases complete : task.isEnded with
  | true =>
    obtain ⟨status, phase⟩ := Task.isEnded_iff.mp complete
    simp [Task.outcome, phase]
  | false => simp [Task.outcome, Task.ended]

end Fanout

namespace Round

variable {τ : Type} {mission : Mission τ} {recipients : List Operator}
  {round next moment finished : Round τ} {switch : Switch} {now : Nat} {traffic : Traffic}
  {transport : τ} {task : Task}

/-- What a cancelled round keeps: its calls, its instant, and what will become of its tasks. -/
structure Frozen (before after : Round τ) : Prop where
  started : after.started = before.started
  transport : after.fanout.shared.transport = before.fanout.shared.transport
  now : after.fanout.now = before.fanout.now
  /-- The cancellation makes the same of the tasks. -/
  tasks : after.fanout.tasks.map Fanout.cut = before.fanout.tasks.map Fanout.cut

theorem Frozen.trans {before between after : Round τ} (first : Frozen before between)
    (second : Frozen between after) : Frozen before after :=
  ⟨second.started.trans first.started, second.transport.trans first.transport,
    second.now.trans first.now, second.tasks.trans first.tasks⟩

theorem Step.frozen (orderly : round.Orderly mission recipients)
    (cancelled : round.isCancelled = true) (step : Step mission round next) :
    Frozen round next := by
  cases step with
  | @poll before after task place unfinished =>
    have polled := orderly.polled_eq before task after
    rw [cancelled] at polled
    refine ⟨?_, ?_, ?_, ?_⟩
    · rw [started, polled]
      exact Task.started_abandon
    · rw [polled]
      exact Task.transport_abandon
    · rw [polled]
    · rw [polled, place]
      simp [Fanout.cut_poll]
  | collect | lose | cancel | leave => exact ⟨rfl, rfl, rfl, rfl⟩
  | pass _ undisturbed => exact absurd cancelled (Bool.eq_false_iff.mp undisturbed)

/-- Every run of a cancelled round keeps it frozen. -/
theorem Runs.frozen (orderly : round.Orderly mission recipients)
    (cancelled : round.isCancelled = true) (run : Runs mission round next) :
    Frozen round next := by
  refine (run.keeps (motive := fun later => later.isCancelled = true ∧ Frozen round later)
    orderly ?_ ⟨cancelled, rfl, rfl, rfl, rfl⟩).2
  intro between next orderly ⟨seen, frozen⟩ step
  exact ⟨step.isCancelled_mono seen, frozen.trans (step.frozen orderly seen)⟩

/-- When a cancelled round is over, its tasks are what the cancellation made of them. -/
theorem Frozen.tasks_eq (frozen : Frozen round finished)
    (orderly : finished.Orderly mission recipients) (complete : finished.IsOver) :
    finished.fanout.tasks = round.fanout.tasks.map Fanout.cut := by
  rw [← frozen.tasks]
  refine (List.map_id _).symm.trans (List.map_congr_left fun task member => ?_)
  exact (Fanout.cut_of_isEnded (orderly.known.isEnded complete member)).symm

/-! ### What is over stays as it was -/

theorem Step.mem_tasks (step : Step mission round next) (member : task ∈ round.fanout.tasks)
    (complete : task.isEnded = true) : task ∈ next.fanout.tasks := by
  cases step with
  | @poll before after other place unfinished =>
    rw [place, List.mem_append, List.mem_cons] at member
    simp only [polled, List.mem_append, List.mem_cons]
    rcases member with earlier | rfl | later
    · exact .inl earlier
    · simp [unfinished] at complete
    · exact .inr (.inr later)
  | collect | lose | cancel | leave | pass => exact member

theorem Runs.mem_tasks (run : Runs mission round next) (member : task ∈ round.fanout.tasks)
    (complete : task.isEnded = true) : task ∈ next.fanout.tasks := by
  induction run with
  | refl => exact member
  | tail _ step ih => exact step.mem_tasks ih complete

end Round

namespace Fanout

variable {τ : Type} {mission : Mission τ} {now : Nat} {task : Task} {fanout : Fanout τ}

theorem mem_pollAll (cancelled : Bool) {tasks : List Task} (member : task ∈ tasks)
    (complete : task.isEnded = true) (shared : Shared τ) :
    task ∈ (pollAll mission now cancelled tasks shared).1 := by
  induction tasks generalizing shared with
  | nil => simp at member
  | cons first rest ih =>
    rw [pollAll_cons]
    rcases List.mem_cons.mp member with rfl | later
    · rw [Task.poll_ended mission now cancelled complete]
      exact List.mem_cons_self
    · exact List.mem_cons_of_mem _ (ih later _)

theorem mem_tasks_settle (mission : Mission τ) (cancelAt : Option Nat)
    (member : task ∈ fanout.tasks) (complete : task.isEnded = true) :
    task ∈ (fanout.settle mission cancelAt).tasks :=
  mem_pollAll _ member complete _

theorem mem_tasks_run (cancelAt : Option Nat) (fuel : Nat) (member : task ∈ fanout.tasks)
    (complete : task.isEnded = true) : task ∈ (fanout.run mission cancelAt fuel).tasks := by
  induction fuel generalizing fanout with
  | zero => exact member
  | succ fuel ih =>
    have settled := mem_tasks_settle mission cancelAt member complete
    rw [run]
    split_ifs
    · exact settled
    · cases (fanout.settle mission cancelAt).next? cancelAt with
      | none => exact settled
      | some time => exact ih settled

/-- If a cancellation comes first, the next instant is its own. -/
theorem next?_eq_or (fanout : Fanout τ) {first : Nat} {second : Option Nat}
    (later : ∀ time ∈ second, first < time) :
    fanout.next? second = fanout.next? (some first) ∨ fanout.next? (some first) = some first := by
  obtain ⟨time, next⟩ := Option.isSome_iff_exists.mp (List.isSome_min?_of_mem
    (l := (some first).toList ++ fanout.tasks.filterMap Task.wakesAt) (a := first) (by simp))
  obtain ⟨comes, least⟩ := List.min?_eq_some_iff.mp next
  -- If some call is due before both cancellations, it is the next instant for both.
  by_cases same : time = first
  · exact .inr (same ▸ next)
  · refine .inl (Eq.trans (List.min?_eq_some_iff.mpr ⟨?_, fun other member => ?_⟩) next.symm)
    · simp only [Option.toList_some, List.mem_append, List.mem_singleton] at comes
      exact List.mem_append_right _ (comes.resolve_left same)
    · rcases List.mem_append.mp member with cancels | wakes
      · have before := later other (Option.mem_toList.mp cancels)
        have reached := least first (by simp)
        omega
      · exact least other (List.mem_append_right _ wakes)

/-- Once the cancellation has come, what it does not cut was over already. -/
theorem mem_tasks_of_mem_run {time : Nat} (seen : time ≤ fanout.now) (fuel : Nat)
    {status : DeliveryStatus} (phase : task.phase = .ended status) (uncut : status ≠ .cancelled)
    (member : task ∈ (fanout.run mission (some time) fuel).tasks) : task ∈ fanout.tasks := by
  cases fuel with
  | zero => exact member
  | succ fuel =>
    have cancelled : (some time).any (· ≤ fanout.now) = true := by simpa using seen
    rw [Round.run_of_over (Round.all_isEnded_settle cancelled)] at member
    simp only [settle, cancelled, pollAll_cancelled, List.mem_map] at member
    obtain ⟨old, present, rfl⟩ := member
    unfold cut at phase ⊢
    split_ifs at phase ⊢ with ended
    · exact present
    · exact absurd (Phase.ended.inj phase).symm uncut

/-- What a cancellation leaves uncut is as a later one leaves it, or none. The two deliveries go
from instant to instant together until the first cancellation comes. -/
theorem mem_tasks_run_of_later {first : Nat} {second : Option Nat}
    (later : ∀ time ∈ second, first < time) (fuel : Nat) {status : DeliveryStatus}
    (member : task ∈ (fanout.run mission (some first) fuel).tasks)
    (phase : task.phase = .ended status) (uncut : status ≠ .cancelled) :
    task ∈ (fanout.run mission second fuel).tasks := by
  have complete : task.isEnded = true := Task.isEnded_iff.mpr ⟨status, phase⟩
  induction fuel generalizing fanout with
  | zero => exact member
  | succ fuel ih =>
    -- After the first cancellation only tasks that were over are uncut, and those stay.
    by_cases seen : first ≤ fanout.now
    · exact mem_tasks_run second _ (mem_tasks_of_mem_run seen _ phase uncut member) complete
    have coming : (some first).any (· ≤ fanout.now) = false := by simpa using seen
    have comingToo : second.any (· ≤ fanout.now) = false := by
      cases second with
      | none => rfl
      | some time =>
        have := later time rfl
        simp only [Option.any_some, decide_eq_false_iff_not]
        omega
    -- Before it, the passes of the two deliveries are one and the same.
    have same : fanout.settle mission second = fanout.settle mission (some first) := by
      rw [Round.settle_coming coming, Round.settle_coming comingToo]
    rw [run, same]
    rw [run] at member
    split_ifs at member ⊢
    · exact member
    · rcases next?_eq_or (fanout.settle mission (some first)) later with equal | next
      · rw [equal]
        cases next : (fanout.settle mission (some first)).next? (some first) with
        | none => simpa only [next] using member
        | some time =>
          simp only [next] at member ⊢
          exact ih member
      · simp only [next] at member
        let there : Fanout τ := { fanout.settle mission (some first) with now := first }
        have present : task ∈ there.tasks :=
          mem_tasks_of_mem_run (Nat.le_refl first) fuel phase uncut member
        cases (fanout.settle mission (some first)).next? second with
        | none => exact present
        | some time => exact mem_tasks_run second _ present complete

end Fanout

/-! ### Every schedule -/

namespace Round

variable {τ : Type} {mission : Mission τ} {behaviour : String → Behaviour}
  {recipients : List Operator} {round moment finished : Round τ} {switch : Switch} {now : Nat}
  {traffic : Traffic} {transport : τ}

/-- What a cancellation at some moment of a schedule leaves: from then on no call is started and
no time passes; who was done at that moment has the outcome that nobody's cancellation would
have changed; everybody else is cut short. -/
structure Interrupted (mission : Mission τ) (behaviour : String → Behaviour)
    (recipients : List Operator) (traffic : Traffic) (moment : Round τ) (fanout : Fanout τ)
    (report : Report) : Prop where
  /-- No call is started after the cancellation. -/
  started : fanout.shared.traffic.started = moment.started
  /-- Nothing is asked of the transport after the cancellation. -/
  transport : fanout.shared.transport = moment.fanout.shared.transport
  /-- The deliveries end when they are cancelled. -/
  now : fanout.now = moment.fanout.now
  timely : ∀ call ∈ fanout.shared.traffic.started,
    call ∈ traffic.started ∨ call.1 ≤ moment.fanout.now
  /-- A call that was to end before the cancellation is over. -/
  attended : ∀ task ∈ moment.fanout.tasks, ∀ wake, task.wakesAt = some wake →
    moment.fanout.now ≤ wake
  /-- There is one outcome for each recipient. -/
  covers : report.Covers recipients
  /-- What was over stays, and everything else is cut short. -/
  outcomes : report.outcomes = moment.fanout.tasks.map fun task =>
    ⟨task.id, task.address,
      if task.isEnded then (behaviour task.address).statusWithin mission.settings.timeout
      else .cancelled⟩

theorem interrupted (orderly : moment.Orderly mission recipients)
    (lawful : moment.Lawful mission behaviour) (timely : moment.Timely traffic)
    (undisturbed : moment.isCancelled = false) (owned : moment.switch.owned = true)
    (run : Runs mission moment.disturbed finished) (complete : finished.IsOver)
    (session : SessionId) :
    Interrupted mission behaviour recipients traffic moment finished.fanout
      (finished.report session) := by
  have disturbed : moment.disturbed.Orderly mission recipients := orderly.step (.cancel owned)
  have frozen : Frozen moment.disturbed finished := Runs.frozen disturbed rfl run
  have later := run.orderly disturbed
  refine ⟨frozen.started, frozen.transport, frozen.now, ?_, ?_,
    covers_report later complete session, ?_⟩
  · intro call member
    exact timely call (frozen.started ▸ member)
  · intro task member wake wakes
    obtain ⟨call, phase, rfl⟩ := Task.wakesAt_eq_some_iff.mp wakes
    have law := lawful task member
    simp only [Task.Lawful, phase] at law
    exact law.2
  · rw [outcomes_report later complete, frozen.tasks_eq later complete, List.map_map]
    refine List.map_congr_left fun task member => ?_
    rw [Function.comp_apply, Fanout.outcome_cut]
    cases ended : task.isEnded with
    | false => rfl
    | true =>
      obtain ⟨status, phase⟩ := Task.isEnded_iff.mp ended
      have law := lawful task member
      simp only [Task.Lawful, phase, undisturbed, Bool.false_eq_true, false_and, or_false] at law
      simp [Task.outcome, phase, law]

/-- What is not cut short was over, so it stays whatever happens otherwise. -/
theorem mem_report_of_runs {other : Round τ} (orderly : moment.Orderly mission recipients)
    (owned : moment.switch.owned = true) (run : Runs mission moment.disturbed finished)
    (complete : finished.IsOver) (otherRun : Runs mission moment other) (otherOver : other.IsOver)
    {session : SessionId} {outcome : Outcome}
    (member : outcome ∈ (finished.report session).outcomes)
    (uncut : outcome.status ≠ .cancelled) : outcome ∈ (other.report session).outcomes := by
  have disturbed : moment.disturbed.Orderly mission recipients := orderly.step (.cancel owned)
  have frozen : Frozen moment.disturbed finished := Runs.frozen disturbed rfl run
  have later := run.orderly disturbed
  rw [outcomes_report later complete, frozen.tasks_eq later complete, List.map_map] at member
  obtain ⟨task, present, rfl⟩ := List.mem_map.mp member
  rw [Function.comp_apply, Fanout.outcome_cut] at uncut
  have ended : task.isEnded = true := by
    by_contra unfinished
    simp [unfinished] at uncut
  rw [Function.comp_apply, Fanout.cut_of_isEnded ended,
    outcomes_report (otherRun.orderly orderly) otherOver]
  exact List.mem_map_of_mem (otherRun.mem_tasks present ended)

/-- If the cancellation comes first, nothing happens at all. -/
theorem cancelled_before (cancelled : switch.cancelled = true)
    (run : Runs mission (start mission recipients switch now traffic transport) finished)
    (complete : finished.IsOver) (session : SessionId) :
    Frozen (start mission recipients switch now traffic transport) finished ∧
      (finished.report session).Covers recipients ∧
      ∀ outcome ∈ (finished.report session).outcomes, outcome.status = .cancelled := by
  have frozen := Runs.frozen orderly_start cancelled run
  have orderly := run.orderly orderly_start
  refine ⟨frozen, covers_report orderly complete session, fun outcome member => ?_⟩
  rw [outcomes_report orderly complete, frozen.tasks_eq orderly complete, List.map_map] at member
  obtain ⟨task, present, rfl⟩ := List.mem_map.mp member
  rw [Function.comp_apply, Fanout.outcome_cut, Task.isEnded, phase_of_mem_start present]
  rfl

/-! ### The schedule that is carried out -/

/-- What a cancellation at some time leaves of deliveries that are carried out. -/
structure Curtailed (recipients : List Operator) (now : Nat) (traffic : Traffic) (time : Nat)
    (fanout : Fanout τ) (report : Report) : Prop where
  /-- No call is started at the time of the cancellation or after it. -/
  started : ∀ call ∈ fanout.shared.traffic.started, call ∈ traffic.started ∨ call.1 < time
  /-- The deliveries end by the time of the cancellation. -/
  now_le : fanout.now ≤ max now time
  /-- They end at that time if anything is cut short. -/
  now_eq : report.cancelled ≠ [] → fanout.now = max now time
  /-- There is one outcome for each recipient. -/
  covers : report.Covers recipients
  /-- If the cancellation comes first, nothing happens. -/
  before : time ≤ now → fanout.shared.traffic.started = traffic.started ∧
    ∀ outcome ∈ report.outcomes, outcome.status = .cancelled

theorem Schedules.curtailed {fanout : Fanout τ} {time : Nat} {switch : Switch}
    (behaves : mission.Behaves behaviour)
    (schedules : (start mission recipients switch now traffic transport).Schedules mission
      (some time) fanout) (session : SessionId) :
    Curtailed recipients now traffic time fanout (fanout.report session) := by
  rcases schedules with ⟨finished, run, complete, undisturbed, rfl, early⟩ |
    ⟨_, moment, finished, same, run, undisturbed, owned, instant, past, arrival, rest, complete,
      rfl⟩
  · have orderly := run.orderly orderly_start
    have ahead : finished.fanout.now < time := by simpa using early
    have begun : now ≤ finished.fanout.now := run.now_le
    have fulfils := fulfils_of_runs behaves run complete undisturbed session
    rw [← orderly.report_eq complete]
    refine ⟨fun call member => ?_, by omega, fun cut => absurd fulfils.uncut cut,
      fulfils.exact.toCovers, fun early => by omega⟩
    have timely : finished.Timely traffic :=
      run.timely orderly_start fun call member => .inl member
    exact (timely call member).imp_right fun past => Nat.lt_of_le_of_lt past ahead
  · obtain rfl : time = _ := Option.some.inj same
    have orderly := run.orderly orderly_start
    have disturbed : moment.disturbed.Orderly mission recipients := orderly.step (.cancel owned)
    have later := rest.orderly disturbed
    have frozen : Frozen moment.disturbed finished := Runs.frozen disturbed rfl rest
    have ends : finished.fanout.now = max now time := frozen.now.trans instant
    rw [← later.report_eq complete]
    refine ⟨fun call member => past call (frozen.started ▸ member), Nat.le_of_eq ends,
      fun _ => ends, covers_report later complete session, fun early => ?_⟩
    rcases arrival with rfl | ⟨ahead, -⟩
    · refine ⟨frozen.started, ?_⟩
      exact (cancelled_before switch.cancelled_cancel rest complete session).2.2
    · exact absurd early (Nat.not_le.mpr ahead)

/-- Deliveries that are carried out leave after a cancellation what they leave after a later
one, or after none, but for what is cut short. -/
theorem mem_report_of_later {fanout other : Fanout τ} {time : Nat} {later : Option Nat}
    (ahead : ∀ second ∈ later, time < second) {session : SessionId}
    (delivered : Fanout.deliver mission recipients (some time) now traffic transport = .ok fanout)
    (otherDelivered : Fanout.deliver mission recipients later now traffic transport = .ok other)
    (complete : fanout.tasks.all Task.isEnded = true) {outcome : Outcome}
    (member : outcome ∈ (fanout.report session).outcomes)
    (uncut : outcome.status ≠ .cancelled) : outcome ∈ (other.report session).outcomes := by
  unfold Fanout.deliver at delivered otherDelivered
  split_ifs at delivered otherDelivered with few
  obtain rfl := Except.ok.inj delivered
  obtain rfl := Except.ok.inj otherDelivered
  obtain ⟨task, present, rfl⟩ := List.mem_map.mp member
  obtain ⟨status, phase⟩ := Task.isEnded_iff.mp (List.all_eq_true.mp complete task present)
  simp only [Task.outcome, phase] at uncut
  exact List.mem_map_of_mem (Fanout.mem_tasks_run_of_later ahead _ present phase uncut)

/-- Everything is over in deliveries that are carried out. -/
theorem Schedules.all_isEnded {fanout : Fanout τ} {cancelAt : Option Nat}
    (orderly : round.Orderly mission recipients)
    (schedules : round.Schedules mission cancelAt fanout) :
    fanout.tasks.all Task.isEnded = true := by
  obtain ⟨finished, run, complete, rfl⟩ := schedules.exists_finished
  exact List.all_eq_true.mpr fun task member => (run.orderly orderly).known.isEnded complete member

/-- Cancellation is clean and monotone. Let what comes of a call depend on its address alone.
Whenever a schedule is cancelled, what was over stays and the rest is cut short at once, with
no further call; whatever else the owner does from that moment on, also cancel later or never,
leaves the outcomes that were not cut short; a schedule that is cancelled before it starts
does nothing; an owner that leaves is like none; and all of this holds of the deliveries that
are carried out. -/
theorem interruption_clean (behaves : mission.Behaves behaviour) (recipients : List Operator)
    (now : Nat) (traffic : Traffic) (transport : τ) (session : SessionId) :
    (∀ switch moment finished,
      Runs mission (start mission recipients switch now traffic transport) moment →
      moment.isCancelled = false → moment.switch.owned = true →
      Runs mission moment.disturbed finished → finished.IsOver →
      Interrupted mission behaviour recipients traffic moment finished.fanout
        (finished.report session) ∧
      ∀ other, Runs mission moment other → other.IsOver →
        ∀ outcome ∈ (finished.report session).outcomes, outcome.status ≠ .cancelled →
          outcome ∈ (other.report session).outcomes) ∧
    (∀ switch finished, switch.cancelled = true →
      Runs mission (start mission recipients switch now traffic transport) finished →
      finished.IsOver →
      Frozen (start mission recipients switch now traffic transport) finished ∧
      (finished.report session).Covers recipients ∧
      ∀ outcome ∈ (finished.report session).outcomes, outcome.status = .cancelled) ∧
    (∀ switch left never,
      Runs mission (start mission recipients switch now traffic transport) left →
      left.IsOver → left.isCancelled = false →
      Runs mission (start mission recipients .abandoned now traffic transport) never →
      never.IsOver → left.report session = never.report session) ∧
    (mission.settings.permits ≤ DeliverySettings.maxPermits → ∀ time,
      ∃ fanout,
        Fanout.deliver mission recipients (some time) now traffic transport = .ok fanout ∧
        Curtailed recipients now traffic time fanout (fanout.report session) ∧
        ∀ later : Option Nat, (∀ second ∈ later, time < second) →
          ∃ other, Fanout.deliver mission recipients later now traffic transport = .ok other ∧
            ∀ outcome ∈ (fanout.report session).outcomes, outcome.status ≠ .cancelled →
              outcome ∈ (other.report session).outcomes) := by
  refine ⟨?_, fun switch finished cancelled run complete =>
    cancelled_before cancelled run complete session, ?_, fun few time => ?_⟩
  · intro switch moment finished run undisturbed owned rest complete
    have orderly := run.orderly orderly_start
    refine ⟨interrupted orderly (run.lawful behaves orderly_start lawful_start)
      (run.timely orderly_start fun call member => .inl member) undisturbed owned rest complete
      session, ?_⟩
    intro other otherRun otherOver outcome member uncut
    exact mem_report_of_runs orderly owned rest complete otherRun otherOver member uncut
  · intro switch left never leftRun leftOver undisturbed neverRun neverOver
    have abandoned : never.isCancelled = false :=
      congrArg Switch.cancelled (Runs.abandoned neverRun rfl)
    have exact := (fulfils_of_runs behaves leftRun leftOver undisturbed session).exact
    have too := (fulfils_of_runs behaves neverRun neverOver abandoned session).exact
    exact congrArg (Report.mk session) (exact.unique too)
  · have carriedOut := fun cancelAt => exists_deliver recipients now traffic transport few
      (rfl : Switch.fresh.cancelled = false) cancelAt fun _ => rfl
    obtain ⟨fanout, delivered, schedules⟩ := carriedOut (some time)
    refine ⟨fanout, delivered, schedules.curtailed behaves session, fun later ahead => ?_⟩
    obtain ⟨other, otherDelivered, -⟩ := carriedOut later
    refine ⟨other, otherDelivered, fun outcome member uncut => ?_⟩
    exact mem_report_of_later ahead delivered otherDelivered
      (schedules.all_isEnded orderly_start) member uncut

/-- The first recipient is called and cut short at its time; the second waits for the permit and
is never called. -/
theorem interruption_clean_queued :
    let behaviour : String → Behaviour := fun address =>
      if address = "slow" then ⟨some 9, .answer (.ok ())⟩ else .accepting
    let mission : Mission Unit := ⟨⟨1, 10⟩, .ofBehaviour behaviour, [7]⟩
    let recipients : List Operator := [.ofAddress 1 "slow", .ofAddress 2 "quick"]
    let session : SessionId := ⟨List.replicate 16 0, rfl⟩
    ∃ fanout, Fanout.deliver mission recipients (some 5) 0 .none () = .ok fanout ∧
      Curtailed recipients 0 .none 5 fanout (fanout.report session) := by
  intro behaviour mission recipients session
  have behaves : mission.Behaves behaviour := fun _ _ => rfl
  obtain ⟨-, -, -, carriedOut⟩ := interruption_clean behaves recipients 0 .none () session
  obtain ⟨fanout, delivered, curtailed, -⟩ := carriedOut (by decide) 5
  exact ⟨fanout, delivered, curtailed⟩

end Round

end Resharing
