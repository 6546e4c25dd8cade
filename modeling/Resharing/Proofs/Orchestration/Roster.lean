import Resharing.Ed25519.Signature
import Resharing.Proofs.Message.Initiation
import Resharing.Proofs.Orchestration.Lookups
import Resharing.Proofs.Orchestration.Recipients

/-!
# One set of operators

The operators of a session are put together in four places: they are looked up, the topic names
them, the initiation lists them, and a report tells what came of each. A session that is its own
directory comes to the same operators in all of them, however the sets of the new and the old
operators overlap. Lookups, topic and report have them in one order, and no two operators go by one
name.

## Main definitions

* `Session.roster`: all operators of a session at their addresses
* `Signer.Truthful`: signers that sign what they are given
* `Session.Unites`: topic, deliveries and report are those of the roster

## Main results

* `OperatorId.text_injective`: names tell operators apart
* `Session.resolveAll_allIds`, `Orchestrator.found_roster`: lookups find the roster
* `Course.Runs.unites`: every course of a session keeps to the roster
* `Session.one_roster`: the four places, and every session that is carried out
-/

namespace Resharing

theorem OperatorId.text_injective : Function.Injective OperatorId.text := by
  intro left right same
  have written : Json.numeral left.toNat = Json.numeral right.toNat := by
    rw [← Json.ofText_text, ← Json.ofText_text]
    exact congrArg Bytes.ofText same
  exact UInt64.toNat_inj.mp (Json.numeral_inj left.toNat_lt right.toNat_lt written)

/-! ### The roster -/

namespace Session

variable {session : Session}

/-- All operators of a session at their addresses. -/
def roster (session : Session) : List Operator :=
  session.addresses.entries.map fun entry => .ofAddress entry.1 entry.2

theorem map_id_roster (session : Session) : session.roster.map Operator.id = session.allIds := by
  rw [roster, List.map_map]
  rfl

theorem map_roster (session : Session) :
    (session.roster.map fun record => (record.id, record.address)) =
      session.addresses.entries := by
  rw [roster, List.map_map]
  exact List.map_id _

theorem targets_roster (session : Session) :
    Fanout.targets session.roster = session.addresses := by
  rw [Fanout.targets, map_roster, OperatorMap.ofList_entries]

/-- An operator is on the roster with the address that the session says. -/
theorem addressOf_of_mem_roster {record : Operator} (member : record ∈ session.roster) :
    session.addressOf record.id = some record.address := by
  obtain ⟨entry, inside, rfl⟩ := List.mem_map.mp member
  exact addressOf_of_mem inside

theorem map_lookup_allIds (session : Session) :
    session.allIds.map session.lookup = session.roster.map .ok := by
  rw [← ids_addresses, OperatorMap.ids, roster, List.map_map, List.map_map]
  refine List.map_congr_left fun entry member => ?_
  simp only [Function.comp_apply, lookup, addressOf_of_mem member]

/-- Lookups that all succeed find what each of them finds. -/
private theorem mapM_eq_ok {f : OperatorId → Except Error Operator} {ids : List OperatorId}
    {operators : List Operator} (same : ids.map f = operators.map .ok) :
    ids.mapM f = .ok operators := by
  induction ids generalizing operators with
  | nil =>
    obtain rfl := List.map_eq_nil_iff.mp same.symm
    rfl
  | cons id rest ih =>
    obtain ⟨operator, others, rfl, first, later⟩ := List.map_eq_cons_iff.mp same.symm
    rw [List.mapM_cons, ← first, ih later.symm]
    rfl

/-- A session knows all its operators. -/
theorem resolveAll_allIds (session : Session) :
    session.resolveAll session.allIds = .ok session.roster :=
  mapM_eq_ok session.map_lookup_allIds

/-- The names on the topic of a session tell its operators apart. -/
theorem nodup_subscribers (session : Session) : session.topic.subscribers.Nodup :=
  session.nodup_allIds.map OperatorId.text_injective

end Session

/-- Whatever the state, the operators are found and it stays as it is. -/
theorem Orchestrator.found_roster {σ : Type} {orchestrator : Orchestrator σ} {session : Session}
    (directory : orchestrator.directory = session.directory) (origin : σ) :
    orchestrator.Found origin session.allIds session.roster origin := by
  have told : session.roster.map some =
      session.allIds.map fun id => (session.lookup id).toOption := by
    have answers := congrArg (List.map Except.toOption) session.map_lookup_allIds
    rw [List.map_map, List.map_map] at answers
    exact answers.symm
  refine Found.of_stored (fun id _ known there => ?_) told
  have answer : session.lookup id = .ok known := by
    cases said : session.lookup id with
    | ok operator => rw [said] at there; exact congrArg Except.ok (Option.some.inj there)
    | error => rw [said] at there; cases there
  rw [directory]
  exact congrArg (·, origin) answer

/-! ### What the initiation lists -/

/-- Signers that sign what they are given. -/
def Signer.Truthful (signer : Signer) : Prop :=
  ∀ message signed, signer.sign message = .ok signed → signed.message = message

theorem Signer.truthful_ofSeed (scheme : SignatureScheme) (id : OperatorId) (seed : Seed) :
    (ofSeed scheme id seed).Truthful := by
  intro message signed result
  obtain rfl := Except.ok.inj result
  rfl

/-- The new and the old operators in some terms are together those of a session. -/
def SessionTerms.Lists (terms : SessionTerms) (session : Session) : Prop :=
  ∀ id, id ∈ terms.operatorIds ∨ id ∈ terms.oldOperatorIds ↔ id ∈ session.allIds

theorem SessionTerms.lists_ofSession (session : Session) : (ofSession session).Lists session :=
  fun _ => Session.mem_allIds.symm

/-- What was composed has been signed, so it holds the terms of the session. -/
theorem Initiation.layers_of_compose {session : Session} {signer : Signer}
    {initiation : Initiation} (truthful : signer.Truthful)
    (composed : compose session signer = .ok initiation) :
    ∃ envelope signed, Layers initiation.payload envelope signed (.ofSession session) := by
  unfold compose at composed
  cases result : signer.sign (message session) with
  | error cause => simp [result] at composed
  | ok signed =>
    simp only [result, Except.ok.injEq] at composed
    subst composed
    exact ⟨_, _, layers_of_signed (truthful _ _ result)⟩

/-! ### What is done for the roster -/

/-- The report of a session that has ended well. -/
def Course.report? {σ : Type} : Course σ → Option Report
  | .finished finish => finish.result.toOption
  | _ => none

/-- What a session has called and reported is all for one roster. -/
structure Session.Unites (session : Session) (calls : List OutsideCall) (report? : Option Report) :
    Prop where
  /-- The subscribers of a topic are the operators on the roster, by their names. -/
  subscribers : ∀ topic, .createTopic topic ∈ calls →
    topic.subscribers = session.roster.map fun record => record.id.text
  /-- A report tells what came of each of them, and the topic was to be created before. -/
  outcomes : ∀ report, report? = some report →
    (report.outcomes.map fun outcome => (outcome.id, outcome.address)) =
        session.roster.map (fun record => (record.id, record.address)) ∧
      .createTopic session.topic ∈ calls
  /-- If nothing was cut short, the initiation was sent once to the address of each. -/
  contacted : ∀ report, report? = some report → report.cancelled = [] →
    (calls.filterMap OutsideCall.consumed?).Perm (session.roster.map Operator.address)

namespace Course

variable {σ : Type} {orchestrator : Orchestrator σ} {session : Session} {origin : σ}
  {switch : Switch} {course : Course σ} {finish : Finish σ} {report : Report}

theorem mem_calls_iff {log : List Deed} {call : OutsideCall} :
    call ∈ log.filterMap Deed.call? ↔ .call call ∈ log := by
  rw [List.mem_filterMap]
  constructor
  · rintro ⟨deed, member, same⟩
    cases deed with
    | call other =>
      obtain rfl := Option.some.inj same
      exact member
    | _ => cases same
  · exact fun member => ⟨_, member, rfl⟩

/-- The topic of a session that ends well was to be created. -/
theorem Ends.topic_mem {cancelled : Bool} {log : List Deed}
    (ends : Ends orchestrator session origin cancelled log (.ok report)) :
    .call (.createTopic session.topic) ∈ log := by
  cases ends
  simp [Session.plan, Session.preparations]

/-- At most one topic is to be created in the course of a session, its own. -/
theorem Runs.topic_eq (run : Runs orchestrator session (start session switch origin) course)
    {topic : Topic} (member : .call (.createTopic topic) ∈ course.log) : topic = session.topic := by
  obtain ⟨payload, addresses, first⟩ := run.staged.reached.log_prefix
  obtain ⟨front, back, split⟩ := List.append_of_mem member
  exact ((Session.inStages_of_prefix first).lookupsFirst front back topic split).1

/-- What a session has composed is its initiation. -/
theorem Reached.exists_initiation {log : List Deed}
    (reached : Reached orchestrator session origin log) {payload : Bytes}
    (member : .composed payload ∈ log) :
    ∃ initiation, Initiation.compose session orchestrator.signer = .ok initiation ∧
      initiation.payload = payload := by
  cases reached with
  | sent provided composed addresses =>
    refine ⟨_, composed, Eq.symm ?_⟩
    simpa [Session.plan, Session.preparations, lookups] using member
  | _ => simp [Session.preparations, lookups] at member

/-- A report comes from a session that has ended well. -/
theorem report?_eq_some_iff : course.report? = some report ↔
    ∃ finish, course = .finished finish ∧ finish.result = .ok report := by
  cases course with
  | finished finish => cases result : finish.result <;> simp [report?, result, Except.toOption]
  | _ => simp [report?]

/-- A session that is its own directory and ends well has delivered to the roster. -/
theorem Runs.deliversToRoster (directory : orchestrator.directory = session.directory)
    (run : Runs orchestrator session (start session switch origin) (.finished finish))
    (result : finish.result = .ok report) :
    (report.outcomes.map fun outcome => (outcome.id, outcome.address)) =
        session.roster.map (fun record => (record.id, record.address)) ∧
      (report.cancelled = [] →
        ((finish.log.filterMap Deed.call?).filterMap OutsideCall.consumed?).Perm
          (session.roster.map Operator.address)) := by
  obtain ⟨operators, state, found, -, outcomes, calls⟩ := run.deliversTo result
  obtain ⟨rfl, -⟩ := found.unique (Orchestrator.found_roster directory origin)
  rw [session.targets_roster, ← session.map_roster] at outcomes
  have addresses := congrArg (List.map Prod.snd) outcomes
  rw [List.map_map, List.map_map] at addresses
  exact ⟨outcomes, fun uncut => (calls uncut).trans (.of_eq addresses)⟩

/-- Every course of a session that is its own directory keeps to the roster. -/
theorem Runs.unites (directory : orchestrator.directory = session.directory)
    (run : Runs orchestrator session (start session switch origin) course) :
    session.Unites (course.log.filterMap Deed.call?) course.report? where
  subscribers topic member := by
    rw [run.topic_eq (mem_calls_iff.mp member)]
    exact (congrArg (List.map OperatorId.text) session.map_id_roster).symm.trans List.map_map
  outcomes report reported := by
    obtain ⟨finish, rfl, result⟩ := report?_eq_some_iff.mp reported
    have ends : Ends orchestrator session origin finish.switch.cancelled finish.log
        finish.result := run.staged
    rw [result] at ends
    exact ⟨(run.deliversToRoster directory result).1, mem_calls_iff.mpr ends.topic_mem⟩
  contacted report reported := by
    obtain ⟨finish, rfl, result⟩ := report?_eq_some_iff.mp reported
    exact (run.deliversToRoster directory result).2

end Course

/-- So does every session that is carried out. -/
theorem SessionRun.unites {σ : Type} {orchestrator : Orchestrator σ} {session : Session}
    {origin : σ} {plan : CancelPlan} {run : SessionRun σ}
    (directory : orchestrator.directory = session.directory)
    (ran : orchestrator.runSession session plan origin = .ok run) :
    session.Unites run.calls run.result.toOption := by
  obtain ⟨finish, course, same⟩ := Course.exists_runs_runSession ran
  rw [same.calls, same.result]
  exact course.unites directory

namespace Session

/-- One set of operators. The ids of a session ascend and are those of its new and of its old
operators. The session knows all of them, each at its address as a new operator if it has one and
as an old one otherwise. Their names are told apart. The terms that are given to a signer list
them, and so does what is sent if the signer signs what it is given. If the session is its own
directory, lookups come to this roster whatever the state; in all its courses, however they are
scheduled and interrupted, and so whenever it is carried out, the subscribers of its topic and the
outcomes in its report are the roster, in its order, and so is everybody who is sent the initiation,
if nothing is cut short. This is what happens with every request that is accepted. -/
theorem one_roster (session : Session) :
    session.allIds.Pairwise (· < ·) ∧
    (∀ id, id ∈ session.allIds ↔ id ∈ session.operators.ids ∨ id ∈ session.oldOperators.ids) ∧
    session.resolveAll session.allIds = .ok session.roster ∧
    session.roster.map Operator.id = session.allIds ∧
    (∀ record ∈ session.roster, session.operators.find? record.id = some record.address ∨
      session.operators.find? record.id = none ∧
        session.oldOperators.find? record.id = some record.address) ∧
    Function.Injective OperatorId.text ∧ session.topic.subscribers.Nodup ∧
    (∃ terms, SessionTerms.format.decode (Initiation.message session).data = .ok terms ∧
      terms.Lists session) ∧
    (∀ signer initiation, signer.Truthful → Initiation.compose session signer = .ok initiation →
      ∃ envelope signed terms, Initiation.Layers initiation.payload envelope signed terms ∧
        terms.Lists session) ∧
    ∀ {σ : Type} (orchestrator : Orchestrator σ) (origin : σ),
      (orchestrator.directory = session.directory →
        orchestrator.resolve session.allIds origin =
          (.ok session.roster, session.allIds.length, origin) ∧
        (∀ switch course, Course.Runs orchestrator session (.start session switch origin) course →
          session.Unites (course.log.filterMap Deed.call?) course.report? ∧
          ∀ payload, .composed payload ∈ course.log → ∃ initiation,
            Initiation.compose session orchestrator.signer = .ok initiation ∧
              initiation.payload = payload) ∧
        ∀ plan run, orchestrator.runSession session plan origin = .ok run →
          session.Unites run.calls run.result.toOption) ∧
      ∀ name request plan run, accept name request = .ok session →
        orchestrator.run name request plan origin = .ok run →
          session.Unites run.calls run.result.toOption := by
  have decoded : SessionTerms.format.decode (Initiation.message session).data =
      .ok (.ofSession session) := SessionTerms.faithful_format.lossless.decode_encode _
  refine ⟨session.pairwise_allIds, fun _ => mem_allIds, session.resolveAll_allIds,
    session.map_id_roster, fun record member => ?_, OperatorId.text_injective,
    session.nodup_subscribers, ⟨_, decoded, SessionTerms.lists_ofSession session⟩, ?_, ?_⟩
  · exact addressOf_eq_some_iff.mp (addressOf_of_mem_roster member)
  · intro signer initiation truthful composed
    obtain ⟨envelope, signed, layers⟩ := Initiation.layers_of_compose truthful composed
    exact ⟨envelope, signed, _, layers, SessionTerms.lists_ofSession session⟩
  · intro σ orchestrator origin
    refine ⟨fun directory => ⟨?_, fun switch course run => ⟨?_, ?_⟩, ?_⟩, ?_⟩
    · exact (Orchestrator.found_roster directory origin).resolve_eq
    · exact run.unites directory
    · exact fun payload => run.staged.reached.exists_initiation
    · exact fun plan run => SessionRun.unites directory
    · intro name request plan run accepted ran
      simp only [Orchestrator.run, accepted] at ran
      exact SessionRun.unites rfl ran

/-- The sets overlap: the second operator has moved. Its new address counts, and the tenth operator
comes last although its name does not. -/
theorem one_roster_overlapping :
    let request : Request :=
      ⟨["2=http://two", "10=http://ten"], ["1=http://one", "2=http://old"], 2, "ab12"⟩
    let session : Session := ⟨⟨List.replicate 16 0, rfl⟩,
      ⟨[(2, "http://two"), (10, "http://ten")], by decide⟩,
      ⟨[(1, "http://one"), (2, "http://old")], by decide⟩, 2, [0xab, 0x12]⟩
    let orchestrator : Orchestrator Unit :=
      ⟨.failing "nothing known", ⟨fun _ state => (⟨0, pure ()⟩, state)⟩,
        .ofSeed Ed25519.scheme 1 ⟨List.replicate 32 7, rfl⟩, .ofBehaviour fun _ => .accepting,
        .standard⟩
    accept session.id request = .ok session ∧
    (∃ initiation envelope signed terms,
      Initiation.compose session orchestrator.signer = .ok initiation ∧
      Initiation.Layers initiation.payload envelope signed terms ∧
      ∀ id, id ∈ terms.operatorIds ∨ id ∈ terms.oldOperatorIds ↔ id ∈ [1, 2, 10]) ∧
    ∃ run report topic, orchestrator.run session.id request .never () = .ok run ∧
      run.result = .ok report ∧ .createTopic topic ∈ run.calls ∧
      topic.subscribers = ["1", "2", "10"] ∧
      report.outcomes.map (fun outcome => (outcome.id, outcome.address)) =
        [(1, "http://one"), (2, "http://two"), (10, "http://ten")] := by
  intro request session orchestrator
  have accepted : accept session.id request = .ok session :=
    Accepted.accept_eq ⟨rfl, Operator.Spec.parseAll_eq_ok (by decide +kernel),
      Operator.Spec.parseAll_eq_ok (by decide +kernel), by decide +kernel, by decide, by decide,
      rfl⟩
  have roster : session.roster =
      [.ofAddress 1 "http://one", .ofAddress 2 "http://two", .ofAddress 10 "http://ten"] := by
    have addresses : session.addresses =
        ⟨[(1, "http://one"), (2, "http://two"), (10, "http://ten")], by decide⟩ := by
      refine OperatorMap.ext_find? fun id => ?_
      rw [find?_addresses]
      simp only [addressOf, OperatorMap.find?, session, List.lookup_cons, List.lookup_nil]
      grind
    rw [Session.roster, addresses]
    rfl
  obtain ⟨-, -, -, ids, -, -, -, -, listed, united⟩ := one_roster session
  rw [roster] at ids
  obtain ⟨envelope, signed, terms, layers, lists⟩ :=
    listed orchestrator.signer _ (Signer.truthful_ofSeed _ _ _) rfl
  have begun : ({ orchestrator with directory := session.directory } : Orchestrator Unit).Begun
      session () session.roster ⟨0, pure ()⟩ () :=
    ⟨by simp [← ids], (), Orchestrator.found_roster rfl (), rfl⟩
  obtain ⟨run, report, ran, result⟩ := Course.exists_report_of_never begun rfl rfl (by decide)
  have requested : orchestrator.run session.id request .never () = .ok run := by
    simp only [Orchestrator.run, accepted]
    exact ran
  have unites := (united orchestrator ()).2 session.id request .never run accepted requested
  obtain ⟨outcomes, created⟩ := unites.outcomes report (by rw [result]; rfl)
  refine ⟨accepted, ⟨_, _, _, _, rfl, layers, fun id => ?_⟩, run, report, session.topic,
    requested, result, created, ?_, ?_⟩
  · rw [lists id, ← ids]
    rfl
  · rw [unites.subscribers _ created, roster]
    decide +kernel
  · rw [outcomes, roster]
    rfl

end Session

end Resharing
