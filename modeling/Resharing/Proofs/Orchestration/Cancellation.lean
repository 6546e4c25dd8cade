import Resharing.Proofs.Orchestration.Abandonment

/-!
# When a session is cancelled

What becomes of a session is told by when it is cancelled. Before its topic is due it ends as
cancelled, at that instant. If the creation has failed before, that is how it ends. Between the
creation and the check it fails, and nothing is sent. Once the deliveries have begun it ends
well, and what was unfinished is reported as cancelled. An owner that leaves without cancelling
changes nothing. All of this holds of every course of a session, and of the one that is carried
out.

## Main results

* `Orchestrator.runSession_begun`: what is carried out once a topic is to be created
* `Course.exists_report_of_never`, `Course.exists_report_of_after`: a session that is carried out
  and not cancelled, or cancelled during its deliveries
* `Course.cancellation_covered`: there is no gap between the looks at the switch
-/

namespace Resharing

namespace Orchestrator

variable {σ : Type} {orchestrator : Orchestrator σ} {session : Session} {origin state next : σ}
  {recipients : List Operator} {creation : TopicCreation σ} {plan : CancelPlan}

/-- A session whose operators are found goes on to its topic. -/
theorem runSession_found
    (found : orchestrator.Found origin session.allIds recipients state) (plan : CancelPlan) :
    orchestrator.runSession session plan origin =
      orchestrator.provision session recipients plan (session.allIds.map .lookup) state := by
  simp [runSession, found.resolve_eq]

/-- A session that is cancelled before it starts only looks its operators up. -/
theorem runSession_before
    (found : orchestrator.Found origin session.allIds recipients state) :
    orchestrator.runSession session .before origin =
      .ok ⟨.error .cancelled, 0, session.allIds.map .lookup, .none, state⟩ := by
  rw [runSession_found found, provision, if_pos rfl]

/-- What a session has called when its topic is to be created. -/
def callsToTopic (session : Session) : List OutsideCall :=
  session.allIds.map .lookup ++ [.createTopic session.topic]

/-- What is carried out once a topic is to be created. -/
theorem runSession_begun
    (begun : orchestrator.Begun session origin recipients creation state)
    (later : plan ≠ .before) :
    orchestrator.runSession session plan origin =
      if 0 < creation.delay ∧ (plan.time? 0).any (· ≤ creation.delay) then
        .ok ⟨.error .cancelled, (plan.time? 0).getD creation.delay, callsToTopic session, .none,
          state⟩
      else
        match creation.ending.perform state with
        | (.error error, next) =>
          .ok ⟨.error (.topicNotCreated error), creation.delay, callsToTopic session, .none, next⟩
        | (.ok (), next) =>
          orchestrator.deliver session recipients (plan.time? 0) creation.delay
            (callsToTopic session) next := by
  obtain ⟨inhabited, before, found, begins⟩ := begun
  have begins : orchestrator.topics.begin (sessionTopic session.id session.allIds) before =
      (creation, state) := begins
  rw [runSession_found found, provision, if_neg later]
  simp only [if_neg inhabited, begins]
  rfl

/-- A session that is cancelled while its topic is created ends then. -/
theorem runSession_early (begun : orchestrator.Begun session origin recipients creation state)
    {time : Nat} (early : time < creation.delay) :
    orchestrator.runSession session (.after time) origin =
      .ok ⟨.error .cancelled, time, callsToTopic session, .none, state⟩ := by
  have comes : (CancelPlan.after time).time? 0 = some time := by simp [CancelPlan.time?]
  rw [runSession_begun begun (by simp), comes]
  have slow : 0 < creation.delay := Nat.lt_of_le_of_lt (Nat.zero_le _) early
  exact if_pos ⟨slow, by simpa using Nat.le_of_lt early⟩

/-- A cancellation that comes after the creation of the topic does not cut it short. -/
theorem runSession_late (begun : orchestrator.Begun session origin recipients creation state)
    {time : Nat} (late : creation.delay < time) :
    orchestrator.runSession session (.after time) origin =
      match creation.ending.perform state with
      | (.error error, next) =>
        .ok ⟨.error (.topicNotCreated error), creation.delay, callsToTopic session, .none, next⟩
      | (.ok (), next) =>
        orchestrator.deliver session recipients (some time) creation.delay
          (callsToTopic session) next := by
  have comes : (CancelPlan.after time).time? 0 = some time := by simp [CancelPlan.time?]
  rw [runSession_begun begun (by simp), comes]
  exact if_neg fun early => absurd (of_decide_eq_true early.2) (Nat.not_le.mpr late)

/-- Deliveries of an initiation that is composed are what the session reports. -/
theorem deliver_eq {initiation : Initiation} {cancelAt : Option Nat} {now : Nat}
    {calls : List OutsideCall} {fanout : Fanout σ}
    (composed : Initiation.compose session orchestrator.signer = .ok initiation)
    (delivered : Fanout.deliver (orchestrator.mission initiation.payload) recipients cancelAt now
      .none state = .ok fanout) :
    orchestrator.deliver session recipients cancelAt now calls state =
      .ok ⟨.ok (fanout.report session.id), fanout.now,
        calls ++ [.sign] ++
          fanout.shared.traffic.started.map fun call => OutsideCall.consume call.2,
        fanout.shared.traffic, fanout.shared.transport⟩ := by
  unfold mission at delivered
  simp only [deliver, composed, delivered]
  rfl

end Orchestrator

namespace Course

variable {σ : Type} {orchestrator : Orchestrator σ} {session : Session} {origin state next : σ}
  {recipients : List Operator} {creation : TopicCreation σ} {switch : Switch}

/-- How a session is carried out that is cancelled after its topic was created: it ends well.
Either everything is over before the cancellation, and nothing is reported as cancelled, or what
is unfinished then is. -/
theorem exists_report_of_after
    (begun : orchestrator.Begun session origin recipients creation state)
    (created : creation.ending.perform state = (.ok (), next)) {initiation : Initiation}
    (composed : Initiation.compose session orchestrator.signer = .ok initiation)
    (few : orchestrator.settings.permits ≤ DeliverySettings.maxPermits) {time : Nat}
    (late : creation.delay < time) :
    ∃ run report, orchestrator.runSession session (.after time) origin = .ok run ∧
      run.result = .ok report ∧
      (run.endedAt < time ∧ report.cancelled = [] ∨
        run.endedAt = time ∧ ∃ moment,
          Round.Runs (orchestrator.mission initiation.payload)
            (.start (orchestrator.mission initiation.payload) recipients .fresh creation.delay
              .none next) moment ∧
          moment.fanout.now = time ∧ moment.CutReport report) := by
  have allowed : (orchestrator.mission initiation.payload).settings.permits ≤
      DeliverySettings.maxPermits := few
  obtain ⟨fanout, carriedOut, schedules⟩ := Round.exists_deliver recipients creation.delay .none
    next allowed (rfl : Switch.fresh.cancelled = false) (some time) fun _ => rfl
  refine ⟨_, fanout.report session.id,
    ((Orchestrator.runSession_late begun late).trans (by rw [created])).trans
      (Orchestrator.deliver_eq composed carriedOut), rfl, ?_⟩
  have later : max creation.delay time = time := Nat.max_eq_right (Nat.le_of_lt late)
  have moments := schedules.exists_moment session.id
  rwa [later] at moments

/-- A session that nobody cancels ends well once its topic is created and its initiation is
composed. -/
theorem exists_report_of_never
    (begun : orchestrator.Begun session origin recipients creation state)
    (created : creation.ending.perform state = (.ok (), next)) {initiation : Initiation}
    (composed : Initiation.compose session orchestrator.signer = .ok initiation)
    (few : orchestrator.settings.permits ≤ DeliverySettings.maxPermits) :
    ∃ run report, orchestrator.runSession session .never origin = .ok run ∧
      run.result = .ok report := by
  have allowed : (orchestrator.mission initiation.payload).settings.permits ≤
      DeliverySettings.maxPermits := few
  obtain ⟨fanout, carriedOut, -⟩ := Round.exists_deliver recipients creation.delay .none next
    allowed (rfl : Switch.fresh.cancelled = false) none (by simp)
  have ran : orchestrator.runSession session .never origin =
      orchestrator.deliver session recipients none creation.delay
        (Orchestrator.callsToTopic session) next := by
    rw [Orchestrator.runSession_begun begun (by simp)]
    simp [CancelPlan.time?, created]
  exact ⟨_, fanout.report session.id, ran.trans (Orchestrator.deliver_eq composed carriedOut), rfl⟩

/-- There is no gap between the looks at the switch. A session whose operators are found and
that is cancelled before it starts ends as cancelled at once, and its topic is never to be
created. One that is cancelled before its topic is due ends as cancelled at that instant, and
nothing is sent, whatever the creation, the signer and the transport would have come to; if the
creation fails first, that is how the session ends. No session that is cancelled before the
check ends well or sends anything, and one that is cancelled between the check and its
deliveries sends nothing either. One that is cancelled during its deliveries ends well, at that
instant, with exactly what was unfinished reported as cancelled. An owner that leaves without
cancelling changes no ending. -/
theorem cancellation_covered (orchestrator : Orchestrator σ) (session : Session) (origin : σ) :
    (∀ recipients state, orchestrator.Found origin session.allIds recipients state →
      (∀ switch, switch.cancelled = true →
        Revoked orchestrator session .untouched 0 (start session switch origin)) ∧
      orchestrator.runSession session .before origin =
        .ok ⟨.error .cancelled, 0, session.allIds.map .lookup, .none, state⟩) ∧
    (∀ recipients creation state,
      orchestrator.Begun session origin recipients creation state →
      (∀ switch prelude,
        Runs orchestrator session (start session switch origin) (.running prelude) →
        prelude.switch.owned = true → prelude.now < creation.delay →
        Revoked orchestrator session .early prelude.now (.running prelude.disturbed)) ∧
      (∀ time < creation.delay, orchestrator.runSession session (.after time) origin =
        .ok ⟨.error .cancelled, time, Orchestrator.callsToTopic session, .none, state⟩) ∧
      (∀ error next, creation.ending.perform state = (.error error, next) →
        (∀ switch finish,
          Runs orchestrator session (start session switch origin) (.finished finish) →
          finish.switch.cancelled = false →
          finish.result = .error (.topicNotCreated error) ∧ finish.now = creation.delay) ∧
        (∀ time, creation.delay < time → orchestrator.runSession session (.after time) origin =
          .ok ⟨.error (.topicNotCreated error), creation.delay,
            Orchestrator.callsToTopic session, .none, next⟩)) ∧
      (∀ next initiation, creation.ending.perform state = (.ok (), next) →
        Initiation.compose session orchestrator.signer = .ok initiation →
        orchestrator.settings.permits ≤ DeliverySettings.maxPermits →
        ∀ time, creation.delay < time →
        ∃ run report, orchestrator.runSession session (.after time) origin = .ok run ∧
          run.result = .ok report ∧
          (run.endedAt < time ∧ report.cancelled = [] ∨
            run.endedAt = time ∧ ∃ moment,
              Round.Runs (orchestrator.mission initiation.payload)
                (.start (orchestrator.mission initiation.payload) recipients .fresh
                  creation.delay .none next) moment ∧
              moment.fanout.now = time ∧ moment.CutReport report))) ∧
    (∀ switch prelude,
      Runs orchestrator session (start session switch origin) (.running prelude) →
      prelude.switch.cancelled = true →
      ((∀ operators, prelude.stage ≠ .confirmed operators) →
        Revoked orchestrator session .unconfirmed prelude.now (.running prelude)) ∧
      (∀ operators, prelude.stage = .confirmed operators →
        ∀ later, Runs orchestrator session (.running prelude) later →
          Cleared orchestrator later ∧ ∀ address, .call (.consume address) ∉ later.log)) ∧
    (∀ switch log payload round,
      Runs orchestrator session (start session switch origin) (.delivering log payload round) →
      round.isCancelled = false → round.switch.owned = true →
      (∃ finish, Runs orchestrator session (.delivering log payload round.disturbed)
        (.finished finish)) ∧
      ∀ finish, Runs orchestrator session (.delivering log payload round.disturbed)
          (.finished finish) →
        ∃ report, finish.result = .ok report ∧ round.CutReport report ∧
          finish.now = round.fanout.now ∧ finish.log = log ++ round.deeds) ∧
    (∀ switch course, Runs orchestrator session (start session switch origin) course →
      course.isCancelled = false →
      endings orchestrator session course.left = endings orchestrator session course) ∧
    orchestrator.runSession session .leaves origin =
      orchestrator.runSession session .never origin := by
  refine ⟨fun recipients state found => ⟨fun switch cancelled => ?_,
      Orchestrator.runSession_before found⟩,
    fun recipients creation state begun => ⟨fun switch prelude run owned early => ?_,
      fun time early => Orchestrator.runSession_early begun early,
      fun error next failed => ⟨fun switch finish run undisturbed => ?_, fun time late => ?_⟩,
      fun next initiation created composed few time late =>
        exists_report_of_after begun created composed few late⟩,
    fun switch prelude run cancelled => ⟨fun unconfirmed => ?_, fun operators confirmed => ?_⟩,
    fun switch log payload round run undisturbed owned => ⟨?_, fun finish rest => ?_⟩,
    fun switch course run undisturbed => endings_left run undisturbed,
    orchestrator.runSession_leaves session origin⟩
  · have off : CalledOff session .untouched 0 (start session switch origin) :=
      ⟨cancelled, rfl, trivial⟩
    exact off.revoked staged_start fun _ => ⟨recipients, state, found⟩
  · obtain ⟨-, before, found, -⟩ := id begun
    have disturbed := run.tail (.cancels owned)
    have off : CalledOff session .early prelude.now (.running prelude.disturbed) :=
      ⟨rfl, rfl, (run.paced begun).within early⟩
    exact off.revoked (Runs.staged disturbed) fun _ => ⟨recipients, before, found⟩
  · exact result_of_notCreated begun failed run undisturbed
  · rw [Orchestrator.runSession_late begun late, failed]
  · have within : prelude.stage.Within .unconfirmed prelude.now := by
      cases stage : prelude.stage with
      | resolving | resolved => trivial
      | creating => exact ⟨by simp, by simp⟩
      | provided => rfl
      | confirmed operators => exact absurd stage (unconfirmed operators)
    have off : CalledOff session .unconfirmed prelude.now (.running prelude) :=
      ⟨cancelled, rfl, within⟩
    exact off.revoked run.staged fun never => absurd rfl never
  · intro later rest
    have cleared : Cleared orchestrator (.running prelude) :=
      ⟨cancelled, ⟨operators, confirmed⟩, run.staged.2.consume_not_mem⟩
    have still := cleared.runs rest
    exact ⟨still, still.silent⟩
  · exact exists_finish_of_delivering run owned
  · exact finished_of_interrupted run undisturbed owned rest

/-- The topic of a session with one operator takes five milliseconds; the session is cancelled
after three. -/
theorem cancellation_covered_slow :
    let session : Session :=
      ⟨⟨List.replicate 16 0, rfl⟩, ⟨[(1, "a")], List.pairwise_singleton _ _⟩, .empty, 1, [1]⟩
    let orchestrator : Orchestrator Unit :=
      ⟨session.directory, ⟨fun _ state => (⟨5, pure ()⟩, state)⟩, .refusing 1 "",
        .ofBehaviour fun _ => .accepting, .standard⟩
    orchestrator.runSession session (.after 3) () =
      .ok ⟨.error .cancelled, 3, Orchestrator.callsToTopic session, .none, ()⟩ := by
  intro session orchestrator
  have ids : session.allIds = [1] :=
    congrArg OperatorMap.ids (OperatorMap.ofList_entries session.operators)
  have found : orchestrator.Found () session.allIds [.ofAddress 1 "a"] () := by
    rw [ids]
    exact Orchestrator.Found.nil.snoc rfl
  obtain ⟨-, early, -⟩ := cancellation_covered orchestrator session ()
  have inhabited : session.allIds ≠ [] := by simp [ids]
  exact (early _ _ _ ⟨inhabited, (), found, rfl⟩).2.1 3 (by decide)

end Course

end Resharing
