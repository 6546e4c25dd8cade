import Resharing.Proofs.Delivery.Execution

/-!
# What deliveries come to

If what comes of a call depends on its address alone and nobody cancels, the report has one
outcome for each recipient, and each outcome depends on its recipient and on the time allowed.
Neither the order of the turns nor the number of permits has a say in it.

## Main definitions

* `Report.Covers`: a report with one outcome for each recipient
* `Report.Exact`: the report that the recipients alone determine
* `Fanout.Fulfils`: deliveries that nobody cancels, with their report and their calls

## Main results

* `Report.Exact.unique`: there is only one exact report of a session
* `Round.fulfils`: every schedule that nobody cancels ends with it
* `Round.outcomes_exact`: it does not depend on the schedule or the limit, and comes to pass
-/

namespace Resharing

/-! ### Reports -/

namespace Report

/-- Every outcome is a success, a failure or cut short, and only one of these. -/
theorem perm_parts (report : Report) :
    (report.delivered ++ report.failures ++ report.cancelled).Perm report.outcomes := by
  obtain ⟨session, outcomes⟩ := report
  simp only [delivered, failures, cancelled]
  induction outcomes with
  | nil => exact .refl _
  | cons outcome rest ih =>
    cases status : outcome.status with
    | delivered => simpa [status] using ih.cons outcome
    | failed fault =>
      simp only [status, List.filter_cons, reduceCtorEq, decide_false, Bool.false_eq_true,
        if_false, if_true, List.append_assoc] at ih ⊢
      exact List.perm_middle.trans (ih.cons outcome)
    | cancelled =>
      simp only [status, List.filter_cons, reduceCtorEq, decide_false, decide_true,
        Bool.false_eq_true, if_false, if_true] at ih ⊢
      exact List.perm_middle.trans (ih.cons outcome)

/-- The report has one outcome for each recipient. Of recipients with one id the last counts. -/
structure Covers (recipients : List Operator) (report : Report) : Prop where
  /-- There is one outcome for each id, in strictly ascending order. -/
  ascending : (report.outcomes.map (·.id)).Pairwise (· < ·)
  /-- The ids are those of the recipients. -/
  ids : ∀ id, id ∈ report.outcomes.map (·.id) ↔ id ∈ recipients.map (·.id)
  /-- The address is that of the last recipient with the id. -/
  addresses : ∀ outcome ∈ report.outcomes,
    ((recipients.filter (·.id == outcome.id)).getLast?).map (·.address) = some outcome.address

/-- The report in which every recipient has the outcome that its address and the time allowed
call for. -/
structure Exact (recipients : List Operator) (behaviour : String → Behaviour) (timeout : Nat)
    (report : Report) : Prop extends Covers recipients report where
  /-- The status is that of the address within the time allowed. -/
  statuses : ∀ outcome ∈ report.outcomes,
    outcome.status = (behaviour outcome.address).statusWithin timeout

variable {recipients : List Operator} {behaviour : String → Behaviour} {timeout : Nat}
  {report other : Report}

/-- Nothing but the recipients, their behaviour and the time allowed determines the outcomes. -/
theorem Exact.unique (exact : report.Exact recipients behaviour timeout)
    (too : other.Exact recipients behaviour timeout) : report.outcomes = other.outcomes := by
  have ids : report.outcomes.map (·.id) = other.outcomes.map (·.id) :=
    List.Pairwise.eq_of_mem_iff exact.ascending too.ascending fun id =>
      (exact.ids id).trans (too.ids id).symm
  have determined : ∀ report : Report, report.Exact recipients behaviour timeout →
      report.outcomes = (report.outcomes.map (·.id)).map fun id =>
        let address := (((recipients.filter (·.id == id)).getLast?).map (·.address)).getD ""
        ⟨id, address, (behaviour address).statusWithin timeout⟩ := by
    intro report exact
    rw [List.map_map]
    refine (List.map_id _).symm.trans (List.map_congr_left fun outcome member => ?_)
    simp only [Function.comp_apply, exact.addresses outcome member, Option.getD_some,
      ← exact.statuses outcome member, id_eq]
  rw [determined report exact, determined other too, ids]

end Report

/-! ### Recipients -/

namespace Fanout

variable {recipients : List Operator} {id : OperatorId} {address : String}

/-- The address of an id is that of the last recipient with it. -/
theorem find?_targets (recipients : List Operator) (id : OperatorId) :
    (targets recipients).find? id =
      ((recipients.filter (·.id == id)).getLast?).map (·.address) := by
  rw [targets, OperatorMap.find?_ofList, OperatorMap.lastValue?, List.filter_map,
    List.getLast?_map, Option.map_map]
  rfl

theorem mem_ids_targets : id ∈ (targets recipients).ids ↔ id ∈ recipients.map (·.id) := by
  rw [targets, OperatorMap.mem_ids_ofList, List.map_map]
  rfl

/-- What deliveries that nobody cancels come to: their report is exact, and each recipient is
called once with the bytes of the mission. -/
structure Fulfils {τ : Type} (mission : Mission τ) (behaviour : String → Behaviour)
    (recipients : List Operator) (traffic : Traffic) (transport : τ) (fanout : Fanout τ)
    (report : Report) : Prop where
  exact : report.Exact recipients behaviour mission.settings.timeout
  uncut : report.cancelled = []
  /-- Every outcome is a success or a failure, and not both. -/
  parts : (report.delivered ++ report.failures).Perm report.outcomes
  /-- There has been one call for each outcome, and nothing else on the transport. -/
  calls : ∃ calls : List (Nat × String),
    fanout.shared.traffic.started = traffic.started ++ calls ∧
    (calls.map (·.2)).Perm (report.outcomes.map (·.address)) ∧
    fanout.shared.transport = mission.after transport (calls.map (·.2))

end Fanout

/-! ### Every schedule -/

namespace Round

variable {τ : Type} {mission : Mission τ} {behaviour : String → Behaviour}
  {recipients : List Operator} {round finished : Round τ} {switch : Switch} {now : Nat}
  {traffic : Traffic} {transport : τ}

theorem outcomes_report (orderly : round.Orderly mission recipients) (complete : round.IsOver)
    (session : SessionId) :
    (round.report session).outcomes = round.fanout.tasks.map Task.outcome := by
  rw [orderly.report_eq complete]
  rfl

/-- Each recipient has one outcome, at its own address. -/
theorem map_outcomes_report (orderly : round.Orderly mission recipients) (complete : round.IsOver)
    (session : SessionId) :
    (round.report session).outcomes.map (fun outcome => (outcome.id, outcome.address)) =
      (Fanout.targets recipients).entries := by
  rw [outcomes_report orderly complete, ← orderly.names, List.map_map]
  exact List.map_congr_left fun task _ => by simp

theorem ids_report (orderly : round.Orderly mission recipients) (complete : round.IsOver)
    (session : SessionId) :
    (round.report session).outcomes.map (·.id) = (Fanout.targets recipients).ids := by
  rw [OperatorMap.ids, ← map_outcomes_report orderly complete session, List.map_map]
  rfl

/-- The report on a round that is over has one outcome for each recipient. -/
theorem covers_report (orderly : round.Orderly mission recipients) (complete : round.IsOver)
    (session : SessionId) : (round.report session).Covers recipients := by
  refine ⟨?_, ?_, ?_⟩
  · rw [ids_report orderly complete]
    exact OperatorMap.pairwise_ids _
  · intro id
    rw [ids_report orderly complete, Fanout.mem_ids_targets]
  · intro outcome member
    rw [← Fanout.find?_targets, OperatorMap.find?_eq_some_iff,
      ← map_outcomes_report orderly complete session]
    exact List.mem_map_of_mem (f := fun outcome : Outcome => (outcome.id, outcome.address)) member

/-- An outcome that is not cut short is that of the address. -/
theorem status_of_mem_report (orderly : round.Orderly mission recipients)
    (lawful : round.Lawful mission behaviour) (complete : round.IsOver) {session : SessionId}
    {outcome : Outcome} (member : outcome ∈ (round.report session).outcomes) :
    outcome.status = (behaviour outcome.address).statusWithin mission.settings.timeout ∨
      round.isCancelled = true ∧ outcome.status = .cancelled := by
  rw [outcomes_report orderly complete] at member
  obtain ⟨task, inside, rfl⟩ := List.mem_map.mp member
  have law := lawful task inside
  obtain ⟨status, phase⟩ := Task.isEnded_iff.mp (orderly.known.isEnded complete inside)
  simp only [Task.Lawful, phase] at law
  simpa only [Task.outcome, phase] using law

/-- A round that is over has called whom it reports on. -/
theorem Dialled.calls_of_isOver (dialled : round.Dialled mission traffic transport)
    (orderly : round.Orderly mission recipients) (complete : round.IsOver) (session : SessionId) :
    ∃ calls : List (Nat × String), round.started = traffic.started ++ calls ∧
      (calls.map (·.2)).Perm ((round.report session).outcomes.map (·.address)) ∧
      round.fanout.shared.transport = mission.after transport (calls.map (·.2)) := by
  obtain ⟨calls, started, begun, state⟩ := dialled
  refine ⟨calls, started, begun.trans (.of_eq ?_), state⟩
  have all : round.fanout.tasks.filter Task.hasBegun = round.fanout.tasks := by
    refine List.filter_eq_self.mpr fun task member => ?_
    obtain ⟨status, phase⟩ := Task.isEnded_iff.mp (orderly.known.isEnded complete member)
    rw [Task.hasBegun, phase]
  rw [all, outcomes_report orderly complete, List.map_map]
  exact List.map_congr_left fun task _ => by simp

/-- A round that nobody has cancelled ends with the exact report, and with one call for each
recipient. -/
theorem fulfils (orderly : round.Orderly mission recipients)
    (lawful : round.Lawful mission behaviour) (dialled : round.Dialled mission traffic transport)
    (complete : round.IsOver) (undisturbed : round.isCancelled = false) (session : SessionId) :
    round.fanout.Fulfils mission behaviour recipients traffic transport
      (round.report session) := by
  have natural : ∀ outcome ∈ (round.report session).outcomes,
      outcome.status = (behaviour outcome.address).statusWithin mission.settings.timeout :=
    fun outcome member => (status_of_mem_report orderly lawful complete member).resolve_right
      fun cut => by simp [undisturbed] at cut
  have uncut : (round.report session).cancelled = [] := by
    refine List.filter_eq_nil_iff.mpr fun outcome member => ?_
    rw [natural outcome member]
    simpa using Behaviour.statusWithin_ne_cancelled _ _
  refine ⟨⟨covers_report orderly complete session, natural⟩, uncut, ?_,
    dialled.calls_of_isOver orderly complete session⟩
  simpa [uncut] using (round.report session).perm_parts

/-- Every schedule from the start that nobody cancels. -/
theorem fulfils_of_runs (behaves : mission.Behaves behaviour)
    (run : Runs mission (start mission recipients switch now traffic transport) finished)
    (complete : finished.IsOver) (undisturbed : finished.isCancelled = false)
    (session : SessionId) :
    finished.fanout.Fulfils mission behaviour recipients traffic transport
      (finished.report session) :=
  fulfils (run.orderly orderly_start) (run.lawful behaves orderly_start lawful_start)
    (run.dialled orderly_start dialled_start undisturbed) complete undisturbed session

/-- Outcomes are exact and independent. Let what comes of a call depend on its address
alone. Every schedule that nobody cancels ends with the exact report and with one call for
each recipient; another limit, another schedule and another start give the same report; no
schedule gets stuck; and the deliveries that are carried out end this way too. -/
theorem outcomes_exact (behaves : mission.Behaves behaviour) (recipients : List Operator)
    (now : Nat) (traffic : Traffic) (transport : τ) (session : SessionId) :
    (∀ switch finished,
      Runs mission (start mission recipients switch now traffic transport) finished →
      finished.IsOver → finished.isCancelled = false →
      finished.fanout.Fulfils mission behaviour recipients traffic transport
        (finished.report session) ∧
      ∀ (limit : UInt64) (other : Round τ) (otherSwitch : Switch) (otherNow : Nat)
        (otherTraffic : Traffic) (otherTransport : τ),
        let altered := { mission with settings := { mission.settings with limit } }
        Runs altered
          (start altered recipients otherSwitch otherNow otherTraffic otherTransport) other →
        other.IsOver → other.isCancelled = false →
        other.report session = finished.report session) ∧
    (∀ switch round,
      Runs mission (start mission recipients switch now traffic transport) round →
      ∃ finished, Runs mission round finished ∧ finished.IsOver ∧
        finished.switch = round.switch) ∧
    (mission.settings.permits ≤ DeliverySettings.maxPermits →
      ∃ fanout, Fanout.deliver mission recipients none now traffic transport = .ok fanout ∧
        fanout.Fulfils mission behaviour recipients traffic transport
          (fanout.report session)) := by
  refine ⟨fun switch finished run complete undisturbed => ?_, fun switch round run => ?_,
    fun few => ?_⟩
  · have done := fulfils_of_runs behaves run complete undisturbed session
    refine ⟨done, ?_⟩
    intro limit other otherSwitch otherNow otherTraffic otherTransport altered otherRun otherOver
      otherUndisturbed
    have behavesToo : altered.Behaves behaviour := behaves
    have same := (fulfils_of_runs behavesToo otherRun otherOver otherUndisturbed session).exact
    exact congrArg (Report.mk session) (same.unique done.exact)
  · exact (run.orderly orderly_start).exists_finished
  · obtain ⟨fanout, delivered,
      ⟨finished, run, complete, undisturbed, rfl, -⟩ | ⟨_, _, _, none, -⟩⟩ :=
      exists_deliver recipients now traffic transport few rfl none
        (by simp : (none : Option Nat).isSome = true → Switch.fresh.owned = true)
    · refine ⟨_, delivered, ?_⟩
      rw [← (run.orderly orderly_start).report_eq complete]
      exact fulfils_of_runs behaves run complete undisturbed session
    · cases none

/-- Two recipients with one id and one permit: the later recipient is called, and is too slow. -/
theorem outcomes_exact_duplicate :
    let behaviour : String → Behaviour := fun address =>
      if address = "slow" then ⟨some 11, .answer (.ok ())⟩ else .accepting
    let mission : Mission Unit := ⟨⟨1, 10⟩, .ofBehaviour behaviour, [7]⟩
    let recipients : List Operator :=
      [.ofAddress 2 "quick", .ofAddress 1 "quick", .ofAddress 2 "slow"]
    let session : SessionId := ⟨List.replicate 16 0, rfl⟩
    ∃ finished, Runs mission (start mission recipients .fresh 0 .none ()) finished ∧
      finished.IsOver ∧
      finished.fanout.Fulfils mission behaviour recipients .none () (finished.report session) := by
  intro behaviour mission recipients session
  have behaves : mission.Behaves behaviour := fun _ _ => rfl
  obtain ⟨every, never, -⟩ := outcomes_exact behaves recipients 0 .none () session
  obtain ⟨finished, run, complete, switch⟩ := never .fresh _ .refl
  have undisturbed : finished.isCancelled = false := congrArg Switch.cancelled switch
  exact ⟨finished, run, complete, (every .fresh finished run complete undisturbed).1⟩

end Round

end Resharing
