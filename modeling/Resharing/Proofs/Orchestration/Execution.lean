import Resharing.Proofs.Delivery.Execution
import Resharing.Proofs.Orchestration.Stages
import Resharing.Proofs.Session.Operators

/-!
# The course that is carried out

A session that is carried out takes one of its courses, and the calls it reports are those of
its log. So whatever holds of every course holds of it.

## Main definitions

* `CancelPlan.switch`: the switch of an owner with a plan
* `SessionRun.Matches`: a session that was carried out as a course ended

## Main results

* `Course.runs_resolve`, `Course.exists_runs_provision`: the stages as parts of a course
* `Course.exists_runs_runSession`: a session that is carried out takes one of its courses
* `Course.calls_in_stages`: the calls of every session are made in stages
-/

namespace Resharing

/-- The switch of an owner with a plan, when the session starts. -/
def CancelPlan.switch : CancelPlan → Switch
  | .never => .fresh
  | .leaves => .abandoned
  | .before => Switch.fresh.cancel
  | .after _ => .fresh

theorem CancelPlan.owned_switch {plan : CancelPlan} {now : Nat}
    (cancels : (plan.time? now).isSome = true) : plan.switch.owned = true := by
  cases plan <;> simp_all [time?, CancelPlan.switch, Switch.fresh, Switch.cancel]

theorem CancelPlan.cancelled_switch {plan : CancelPlan} (later : plan ≠ .before) :
    plan.switch.cancelled = false := by
  cases plan <;> simp_all [CancelPlan.switch, Switch.fresh, Switch.abandoned]

/-- The call that a deed is, if it is one. -/
def Deed.call? : Deed → Option OutsideCall
  | .call outside => some outside
  | _ => none

/-- A session was carried out as a course ended. -/
structure SessionRun.Matches {σ : Type} (run : SessionRun σ) (finish : Finish σ) : Prop where
  result : run.result = finish.result
  endedAt : run.endedAt = finish.now
  state : run.state = finish.state
  /-- It reports the calls that were made. -/
  calls : run.calls = finish.log.filterMap Deed.call?

theorem filterMap_lookups (ids : List OperatorId) :
    (lookups ids).filterMap Deed.call? = ids.map OutsideCall.lookup := by
  rw [lookups, List.filterMap_map]
  exact congrFun List.filterMap_eq_map ids

theorem Round.filterMap_deeds {τ : Type} (round : Round τ) :
    round.deeds.filterMap Deed.call? =
      round.started.map fun call => OutsideCall.consume call.2 := by
  rw [Round.deeds, List.filterMap_map]
  exact congrFun List.filterMap_eq_map round.started

namespace Course

variable {σ : Type} {orchestrator : Orchestrator σ} {session : Session} {prelude : Prelude σ}
  {operators recipients : List Operator} {ids : List OperatorId} {made : Nat} {state : σ}

/-! ### Lookups -/

/-- Lookups that all succeed. -/
theorem runs_resolve (session : Session) (prelude : Prelude σ)
    (stage : prelude.stage = .resolving ids operators)
    (result : orchestrator.resolve ids prelude.state = (.ok recipients, made, state)) :
    made = ids.length ∧
      Runs orchestrator session (.running prelude) (.running { prelude with
        stage := .resolved (operators ++ recipients)
        state := state
        log := prelude.log ++ lookups ids }) := by
  induction ids generalizing prelude operators recipients made with
  | nil =>
    simp only [Orchestrator.resolve, Prod.mk.injEq, Except.ok.injEq] at result
    obtain ⟨rfl, rfl, rfl⟩ := result
    refine ⟨rfl, ?_⟩
    simpa [lookups] using Relation.ReflTransGen.single (Step.resolved stage)
  | cons id rest ih =>
    rw [Orchestrator.resolve] at result
    rcases found : (orchestrator.directory.lookup id).perform prelude.state with
      ⟨error | operator, next⟩
    · simp [found] at result
    rcases resolved : orchestrator.resolve rest next with ⟨error | others, count, last⟩
    · simp [found, resolved] at result
    simp only [found, resolved, Prod.mk.injEq, Except.ok.injEq] at result
    obtain ⟨rfl, rfl, rfl⟩ := result
    obtain ⟨all, run⟩ := ih { prelude with
      stage := .resolving rest (operators ++ [operator])
      state := next
      log := prelude.log ++ [.call (.lookup id)] } rfl resolved
    refine ⟨by simp [all], .head (.found stage found) ?_⟩
    simpa [lookups] using run

/-- Lookups of which one fails. -/
theorem runs_resolve_error (session : Session) (prelude : Prelude σ) {error : Error}
    (stage : prelude.stage = .resolving ids operators)
    (result : orchestrator.resolve ids prelude.state = (.error error, made, state)) :
    Runs orchestrator session (.running prelude) (.finished (({ prelude with
      state := state
      log := prelude.log ++ lookups (ids.take made) } : Prelude σ).finish error)) := by
  induction ids generalizing prelude operators made with
  | nil => simp [Orchestrator.resolve] at result
  | cons id rest ih =>
    rw [Orchestrator.resolve] at result
    rcases found : (orchestrator.directory.lookup id).perform prelude.state with
      ⟨cause | operator, next⟩
    · simp only [found, Prod.mk.injEq, Except.error.injEq] at result
      obtain ⟨rfl, rfl, rfl⟩ := result
      simpa [lookups] using Relation.ReflTransGen.single (Step.missing stage found)
    rcases failed : orchestrator.resolve rest next with ⟨cause | others, count, last⟩
    · simp only [found, failed, Prod.mk.injEq, Except.error.injEq] at result
      obtain ⟨rfl, rfl, rfl⟩ := result
      have run := ih { prelude with
        stage := .resolving rest (operators ++ [operator])
        state := next
        log := prelude.log ++ [.call (.lookup id)] } rfl failed
      refine .head (.found stage found) ?_
      simpa [lookups, Prelude.finish] using run
    · simp [found, failed] at result

/-! ### The topic -/

/-- The creation of a topic that nobody cancels comes to its end, at its own time. -/
theorem runs_creating (orchestrator : Orchestrator σ) (session : Session) (prelude : Prelude σ)
    {ending : Effect σ Unit} {due : Nat}
    (stage : prelude.stage = .creating operators ending due true)
    (undisturbed : prelude.switch.cancelled = false)
    (memories : ∀ wait, prelude.memory = some wait → prelude.switch.Remembers wait)
    (ahead : prelude.now ≤ due) :
    ∃ memory, Runs orchestrator session (.running prelude)
      (.running { prelude with
        stage := .creating operators ending due true
        memory := memory
        now := due }) := by
  rcases Nat.lt_or_ge prelude.now due with later | late
  · -- It sleeps until the creation is due, and sees then that nobody has cancelled.
    have blind : prelude.glance ≠ .resolved := fun seen => by
      simp [(Switch.glance_eq_resolved_iff memories).mp seen] at undisturbed
    have passes : Step orchestrator session
        (.running { prelude with stage := .creating operators ending due false })
        (.running { prelude with stage := .creating operators ending due false, now := due }) :=
      .passes rfl undisturbed later (Nat.le_refl _)
    exact ⟨some prelude.glance, .head (.sleeps stage later) (.head passes
      (.single (.looks rfl blind)))⟩
  · refine ⟨prelude.memory, ?_⟩
    obtain ⟨place, switch, memory, now, state, log⟩ := prelude
    obtain rfl : now = due := Nat.le_antisymm ahead late
    cases stage
    exact .refl

/-- The creation of a topic that takes time is cut short at the time of the cancellation. -/
theorem runs_creating_revoked {ending : Effect σ Unit} {due : Nat} (time : Nat)
    (stage : prelude.stage = .creating operators ending due true)
    (undisturbed : prelude.switch.cancelled = false) (owned : prelude.switch.owned = true)
    (memories : ∀ wait, prelude.memory = some wait → prelude.switch.Remembers wait)
    (slow : prelude.now < due) (later : prelude.now ≤ time) (soon : time ≤ due) :
    Runs orchestrator session (.running prelude) (.finished (({ prelude with
      stage := .creating operators ending due false
      switch := prelude.switch.cancel
      now := time } : Prelude σ).finish .cancelled)) := by
  have seen : ({ prelude with
      stage := .creating operators ending due false
      switch := prelude.switch.cancel
      now := time } : Prelude σ).glance = .resolved :=
    (Switch.glance_eq_resolved_iff fun wait remembered =>
      (memories wait remembered).cancel owned).mpr rfl
  refine .head (.sleeps stage slow) ?_
  rcases Nat.eq_or_lt_of_le later with rfl | passing
  · exact .head (.cancels owned) (.single (.revokedMeanwhile rfl seen))
  · exact .head (.passes rfl undisturbed passing soon)
      (.head (.cancels owned) (.single (.revokedMeanwhile rfl seen)))

/-! ### Deliveries and what comes before them -/

variable {plan : CancelPlan} {run : SessionRun σ} {calls : List OutsideCall}

theorem runs_delivering {log : List Deed} {payload : Bytes} {round next : Round σ}
    (run : Round.Runs (orchestrator.mission payload) round next) :
    Runs orchestrator session (.delivering log payload round) (.delivering log payload next) := by
  induction run with
  | refl => exact .refl
  | tail _ step ih => exact ih.tail (.delivers step)

/-- What follows once a topic exists. -/
theorem exists_runs_deliver (prelude : Prelude σ) (stage : prelude.stage = .provided operators)
    (undisturbed : prelude.switch.cancelled = false) (cancelAt : Option Nat)
    (owned : cancelAt.isSome = true → prelude.switch.owned = true)
    (log : prelude.log.filterMap Deed.call? = calls)
    (delivered : orchestrator.deliver session operators cancelAt prelude.now calls prelude.state =
      .ok run) :
    ∃ finish, Runs orchestrator session (.running prelude) (.finished finish) ∧
      run.Matches finish := by
  have confirmed : Step orchestrator session (.running prelude)
      (.running { prelude with stage := .confirmed operators }) := .confirmed stage undisturbed
  unfold Orchestrator.deliver at delivered
  cases result : Initiation.compose session orchestrator.signer with
  | error error =>
    simp only [result, Except.ok.injEq] at delivered
    subst delivered
    refine ⟨_, .head confirmed (.single (.notComposed rfl result)), rfl, rfl, rfl, ?_⟩
    simp [Prelude.finish, log, Deed.call?]
  | ok initiation =>
    simp only [result] at delivered
    by_cases few : orchestrator.settings.permits ≤ DeliverySettings.maxPermits
    · -- The deliveries that are carried out are those of some schedule.
      have allowed : (orchestrator.mission initiation.payload).settings.permits ≤
          DeliverySettings.maxPermits := few
      obtain ⟨fanout, carriedOut, schedules⟩ := Round.exists_deliver operators prelude.now .none
        prelude.state allowed undisturbed cancelAt owned
      obtain ⟨finished, deliveries, complete, rfl⟩ := schedules.exists_finished
      change (Fanout.deliver (orchestrator.mission initiation.payload) operators cancelAt
        prelude.now .none prelude.state >>= _) = _ at delivered
      rw [carriedOut] at delivered
      obtain rfl := Except.ok.inj delivered
      have orderly := Round.Runs.orderly deliveries Round.orderly_start
      refine ⟨_, .head confirmed (.head (.composed rfl result few)
        ((runs_delivering deliveries).tail (.reports complete))), ?_, rfl, rfl, ?_⟩
      · rw [← orderly.report_eq complete]
      · simp [log, List.filterMap_cons, Deed.call?, Round.filterMap_deeds]
    · change (Fanout.deliver (orchestrator.mission initiation.payload) operators cancelAt
        prelude.now .none prelude.state >>= _) = _ at delivered
      have many : ¬ (orchestrator.mission initiation.payload).settings.permits ≤
          DeliverySettings.maxPermits := few
      rw [Fanout.deliver, if_neg many] at delivered
      cases delivered

/-- What follows once the creation of a topic has succeeded. -/
theorem exists_runs_ready (prelude : Prelude σ) {ending : Effect σ Unit} {due : Nat}
    (stage : prelude.stage = .creating operators ending due true) (late : due ≤ prelude.now)
    (undisturbed : prelude.switch.cancelled = false) (cancelAt : Option Nat)
    (owned : cancelAt.isSome = true → prelude.switch.owned = true)
    (log : prelude.log.filterMap Deed.call? = calls)
    (ends : ending.perform prelude.state = (.ok (), state))
    (delivered : orchestrator.deliver session operators cancelAt prelude.now calls state =
      .ok run) :
    ∃ finish, Runs orchestrator session (.running prelude) (.finished finish) ∧
      run.Matches finish := by
  have ready : Step orchestrator session _ _ := .ready stage late ends
  have known : (prelude.log ++ [Deed.topicReady session.topic]).filterMap Deed.call? =
      calls := by
    simp [log, List.filterMap_cons, Deed.call?]
  obtain ⟨finish, rest, same⟩ := exists_runs_deliver
    { prelude with
      stage := .provided operators
      state := state
      log := prelude.log ++ [.topicReady session.topic] }
    rfl undisturbed cancelAt owned known delivered
  exact ⟨finish, .head ready rest, same⟩

/-- What follows once all operators have been found. -/
theorem exists_runs_provision (prelude : Prelude σ)
    (stage : prelude.stage = .resolved operators)
    (switch : prelude.switch = plan.switch) (fresh : prelude.memory = none)
    (instant : prelude.now = 0) (log : prelude.log.filterMap Deed.call? = calls)
    (provisioned : orchestrator.provision session operators plan calls prelude.state = .ok run) :
    ∃ finish, Runs orchestrator session (.running prelude) (.finished finish) ∧
      run.Matches finish := by
  have memories : ∀ wait, prelude.memory = some wait → prelude.switch.Remembers wait := by
    simp [fresh]
  unfold Orchestrator.provision at provisioned
  by_cases before : plan = .before
  · rw [if_pos before] at provisioned
    obtain rfl := Except.ok.inj provisioned
    have seen : prelude.glance = .resolved :=
      (Switch.glance_eq_resolved_iff memories).mpr (by rw [switch, before]; rfl)
    exact ⟨_, .single (.revokedBefore stage seen), rfl, instant.symm, rfl, log.symm⟩
  rw [if_neg before] at provisioned
  have undisturbed : prelude.switch.cancelled = false := by
    rw [switch]
    exact CancelPlan.cancelled_switch before
  have unseen : prelude.glance ≠ .resolved := fun seen => by
    simp [(Switch.glance_eq_resolved_iff memories).mp seen] at undisturbed
  by_cases empty : session.allIds = []
  · simp only [if_pos empty, Except.ok.injEq] at provisioned
    obtain rfl := provisioned
    exact ⟨_, .single (.nobody stage unseen empty), rfl, instant.symm, rfl, log.symm⟩
  rcases begun : orchestrator.topics.begin session.topic prelude.state with ⟨creation, state⟩
  have begins : Step orchestrator session _ _ := .begins stage unseen empty begun
  have created : (prelude.log ++ [Deed.call (.createTopic session.topic)]).filterMap Deed.call? =
      calls ++ [.createTopic session.topic] := by
    simp [log, Deed.call?]
  have remembered := remembers_glance memories
  have begunHere : orchestrator.topics.begin (sessionTopic session.id session.allIds)
      prelude.state = (creation, state) := begun
  simp only [if_neg empty, begunHere] at provisioned
  split_ifs at provisioned with revoked
  · -- The cancellation comes while the topic is created.
    obtain ⟨slow, comes⟩ := revoked
    obtain rfl := Except.ok.inj provisioned
    cases cancels : plan.time? 0 with
    | none => simp [cancels] at comes
    | some time =>
      have owned : prelude.switch.owned = true := by
        rw [switch]
        exact CancelPlan.owned_switch (by rw [cancels]; rfl)
      have soon : time ≤ creation.delay := by simpa [cancels] using comes
      refine ⟨_, .head begins (runs_creating_revoked time rfl undisturbed owned remembered
        ?_ ?_ ?_), rfl, rfl, rfl, created.symm⟩
      · exact Nat.lt_add_of_pos_right slow
      · simp [instant]
      · simpa [instant] using soon
  · -- The creation comes to its end first.
    obtain ⟨memory, creating⟩ := runs_creating orchestrator session
      ⟨.creating operators creation.ending (prelude.now + creation.delay) true,
        prelude.switch, some prelude.glance, prelude.now, state,
        prelude.log ++ [.call (.createTopic session.topic)]⟩
      rfl undisturbed remembered (Nat.le_add_right _ _)
    have reached := Relation.ReflTransGen.head begins creating
    rcases ends : creation.ending.perform state with ⟨error | ⟨⟨⟩⟩, next⟩
    · simp only [ends, Except.ok.injEq] at provisioned
      obtain rfl := provisioned
      refine ⟨_, reached.tail (.notReady rfl (Nat.le_refl _) ends), rfl, ?_, rfl, created.symm⟩
      simp [Prelude.finish, instant]
    · simp only [ends] at provisioned
      obtain ⟨finish, rest, same⟩ := exists_runs_ready
        ⟨.creating operators creation.ending (prelude.now + creation.delay) true,
          prelude.switch, memory, prelude.now + creation.delay, state,
          prelude.log ++ [.call (.createTopic session.topic)]⟩
        rfl (Nat.le_refl _) undisturbed (plan.time? 0)
        (fun cancels => by rw [switch]; exact CancelPlan.owned_switch cancels)
        created ends (by simpa [instant, Session.topic] using provisioned)
      exact ⟨finish, reached.trans rest, same⟩

/-- A session that is carried out takes one of its courses. -/
theorem exists_runs_runSession {origin : σ}
    (ran : orchestrator.runSession session plan origin = .ok run) :
    ∃ finish, Runs orchestrator session (start session plan.switch origin) (.finished finish) ∧
      run.Matches finish := by
  unfold Orchestrator.runSession at ran
  rcases resolved : orchestrator.resolve session.allIds origin with
    ⟨error | recipients, made, state⟩
  · simp only [resolved, Except.ok.injEq] at ran
    obtain rfl := ran
    refine ⟨_, runs_resolve_error session _ rfl resolved, rfl, rfl, rfl, ?_⟩
    simp [Prelude.finish, filterMap_lookups]
  · simp only [resolved] at ran
    obtain ⟨rfl, found⟩ := runs_resolve session
      ⟨.resolving session.allIds [], plan.switch, none, 0, origin, []⟩ rfl resolved
    obtain ⟨finish, rest, same⟩ := exists_runs_provision
      ⟨.resolved recipients, plan.switch, none, 0, state, lookups session.allIds⟩
      rfl rfl rfl rfl (filterMap_lookups _) (by simpa using ran)
    exact ⟨finish, found.trans rest, same⟩

/-! ### Sessions come to an end -/

theorem exists_deliver (few : orchestrator.settings.permits ≤ DeliverySettings.maxPermits)
    (cancelAt : Option Nat) (now : Nat) :
    ∃ run, orchestrator.deliver session recipients cancelAt now calls state = .ok run := by
  unfold Orchestrator.deliver
  cases Initiation.compose session orchestrator.signer with
  | error error => exact ⟨_, rfl⟩
  | ok initiation =>
    simp only [Fanout.deliver, if_pos few]
    exact ⟨_, rfl⟩

theorem exists_provision (few : orchestrator.settings.permits ≤ DeliverySettings.maxPermits)
    (plan : CancelPlan) :
    ∃ run, orchestrator.provision session recipients plan calls state = .ok run := by
  unfold Orchestrator.provision
  rcases begun : orchestrator.topics.begin (sessionTopic session.id session.allIds) state with
    ⟨creation, middle⟩
  simp only [begun]
  split_ifs
  · exact ⟨_, rfl⟩
  · exact ⟨_, rfl⟩
  · exact ⟨_, rfl⟩
  · rcases creation.ending.perform middle with ⟨error | ⟨⟨⟩⟩, next⟩
    · exact ⟨_, rfl⟩
    · exact exists_deliver few _ _

/-- A session that may have its permits is carried out. -/
theorem exists_runSession (few : orchestrator.settings.permits ≤ DeliverySettings.maxPermits)
    (plan : CancelPlan) (origin : σ) :
    ∃ run, orchestrator.runSession session plan origin = .ok run := by
  unfold Orchestrator.runSession
  rcases resolved : orchestrator.resolve session.allIds origin with
    ⟨error | recipients, made, state⟩
  · simp only [resolved]
    exact ⟨_, rfl⟩
  · simp only [resolved]
    exact exists_provision few plan

/-- The calls of a session are made in stages. At every moment of every course all lookups come
before the topic, which is to be created at most once, and nothing is sent to an operator before
the topic exists and the initiation is composed. A session that is over has come to one of its
ends: its error is that of the first stage that failed, and then nothing was sent; if there is
none, one topic was created. A session that is carried out takes one of these courses, and a
request that is refused calls nothing. -/
theorem calls_in_stages (orchestrator : Orchestrator σ) (session : Session) (origin : σ) :
    (∀ switch course, Runs orchestrator session (start session switch origin) course →
      session.InStages course.log ∧
      (∀ topic, .call (.createTopic topic) ∈ course.log →
        ∃ operators state, orchestrator.Found origin session.allIds operators state) ∧
      (∀ address, .call (.consume address) ∈ course.log →
        ∃ operators state initiation, orchestrator.Provided session origin operators state ∧
          Initiation.compose session orchestrator.signer = .ok initiation)) ∧
    (∀ switch finish, Runs orchestrator session (start session switch origin) (.finished finish) →
      Ends orchestrator session origin finish.switch.cancelled finish.log finish.result ∧
      (∀ report, finish.result = .ok report → finish.log.countP Deed.isCreation = 1) ∧
      (∀ error, finish.result = .error error →
        ∀ address, .call (.consume address) ∉ finish.log)) ∧
    session.allIds.Pairwise (· < ·) ∧
    (∀ plan run, orchestrator.runSession session plan origin = .ok run →
      ∃ finish, Runs orchestrator session (start session plan.switch origin) (.finished finish) ∧
        run.Matches finish) ∧
    (orchestrator.settings.permits ≤ DeliverySettings.maxPermits →
      ∀ plan, ∃ run, orchestrator.runSession session plan origin = .ok run) ∧
    (∀ id request plan,
      (∀ error, Session.accept id request = .error error →
        orchestrator.run id request plan origin = .ok ⟨.error error, 0, [], .none, origin⟩) ∧
      (∀ accepted, Session.accept id request = .ok accepted → accepted.allIds ≠ [] ∧
        orchestrator.run id request plan origin =
          Orchestrator.runSession { orchestrator with directory := accepted.directory } accepted
            plan origin)) := by
  refine ⟨fun switch course run => ?_, fun switch finish run => ?_, session.pairwise_allIds,
    fun plan run => exists_runs_runSession, fun few plan => exists_runSession few plan origin,
    fun id request plan => ⟨fun error refused => ?_, fun accepted accept => ⟨?_, ?_⟩⟩⟩
  · have reached := run.staged.reached
    obtain ⟨payload, addresses, start⟩ := reached.log_prefix
    exact ⟨Session.inStages_of_prefix start, fun topic => reached.found,
      fun address => reached.exists_composed⟩
  · have ends : Ends orchestrator session origin finish.switch.cancelled finish.log
        finish.result := run.staged
    refine ⟨ends, fun report result => ?_, fun error result => ?_⟩
    · rw [result] at ends
      exact ends.countP_log
    · rw [result] at ends
      exact ends.consume_not_mem
  · simp [Orchestrator.run, refused]
  · exact Session.allIds_ne_nil_of_accept accept
  · simp [Orchestrator.run, accept]

end Course

end Resharing
