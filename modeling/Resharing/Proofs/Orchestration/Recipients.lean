import Mathlib.Data.List.Induction
import Resharing.Program.Initiator
import Resharing.Proofs.Directory.Recording
import Resharing.Proofs.Orchestration.Cancellation

/-!
# Who is delivered to

A program records the addresses of a session in its data directory and then looks the operators
up there. What it finds has the addresses of the session, but deliveries go by the ids that the
records bear, and of records with one id only the last counts. So every operator of the session
is delivered to if and only if some record bears its id. A record with another id is found only
where it was stored with the address that the session says; the program itself stores no such
record.

## Main definitions

* `Session.recipients`: the records that are found
* `Session.DeliversToAll`: every operator has an outcome, and its address has been called
* `Session.DeliversToRecords`: what has been done for the records that are found
* `Session.Named`: every operator is named by a record

## Main results

* `Session.DeliversToRecords.deliversToAll_iff`: all are delivered to if all are named
* `Course.Runs.deliversTo`: every session that ends well delivers to the operators it has found
* `World.found_eq_recipients`: these are the records of the session
* `World.delivers_to_records`: whatever the data directory holds
-/

namespace Resharing

/-! ### The records of a session -/

namespace Session

variable {session : Session} {content : Bytes → Option Bytes} {report : Report}
  {calls : List OutsideCall}

/-- What is stored about the operators of a session after their addresses have been recorded. -/
def recipients (session : Session) (content : Bytes → Option Bytes) : List Operator :=
  session.addresses.entries.map fun entry =>
    .recorded (storedOperator content entry.1) entry.1 entry.2

/-- Every operator of a session has a record that bears its id. -/
def Named (session : Session) (content : Bytes → Option Bytes) : Prop :=
  ∀ id ∈ session.allIds, id ∈ (session.recipients content).map Operator.id

theorem map_recorded (session : Session) (content : Bytes → Option Bytes) :
    session.allIds.map (session.recorded content) = (session.recipients content).map some := by
  rw [← ids_addresses, OperatorMap.ids, recipients, List.map_map, List.map_map]
  refine List.map_congr_left fun entry member => ?_
  simp only [Function.comp_apply, recorded, addressOf_of_mem member]

/-- Whatever is stored, the records have the addresses of the session. -/
theorem map_address_recipients (session : Session) (content : Bytes → Option Bytes) :
    (session.recipients content).map Operator.address = session.addresses.entries.map (·.2) := by
  rw [recipients, List.map_map]
  exact List.map_congr_left fun entry _ => Operator.address_recorded _ _ _

theorem length_recipients (session : Session) (content : Bytes → Option Bytes) :
    (session.recipients content).length = session.allIds.length := by
  rw [recipients, List.length_map, ← ids_addresses, OperatorMap.ids, List.length_map]

/-- Records under their own ids are delivered to at the addresses of the session. -/
theorem targets_of_filed (session : Session) (filed : Filed content) :
    Fanout.targets (session.recipients content) = session.addresses := by
  have own : (session.recipients content).map (fun record => (record.id, record.address)) =
      session.addresses.entries := by
    rw [recipients, List.map_map]
    refine (List.map_congr_left fun entry _ => ?_).trans (List.map_id _)
    refine Prod.ext ?_ (Operator.address_recorded _ _ _)
    exact Operator.id_recorded fun operator there _ => filed _ operator there
  rw [Fanout.targets, own, OperatorMap.ofList_entries]

theorem named_of_filed (session : Session) (filed : Filed content) : session.Named content := by
  intro id member
  rwa [← Fanout.mem_ids_targets, session.targets_of_filed filed, ids_addresses]

/-- If every operator is named, no two records bear one id. -/
theorem Named.perm_ids (named : session.Named content) :
    session.allIds.Perm ((session.recipients content).map Operator.id) := by
  refine (List.subperm_of_subset session.nodup_allIds named).perm_of_length_le ?_
  rw [List.length_map, length_recipients]

/-- Then each of them has an outcome, and each address of the session is that of an outcome. -/
theorem Named.targets_perm (named : session.Named content) :
    (Fanout.targets (session.recipients content)).ids = session.allIds ∧
      ((Fanout.targets (session.recipients content)).entries.map (·.2)).Perm
        (session.addresses.entries.map (·.2)) := by
  constructor
  · refine List.Pairwise.eq_of_mem_iff (OperatorMap.pairwise_ids _) session.pairwise_allIds ?_
    intro id
    rw [Fanout.mem_ids_targets]
    exact named.perm_ids.mem_iff.symm
  · have different : (((session.recipients content).map
        fun record => (record.id, record.address)).map (·.1)).Nodup := by
      rw [List.map_map]
      exact named.perm_ids.nodup_iff.mp session.nodup_allIds
    have addresses := (OperatorMap.entries_ofList_perm different).map (·.2)
    rw [List.map_map] at addresses
    rw [← map_address_recipients session content]
    exact addresses

end Session

/-! ### What is done for them -/

/-- The address that the initiation was sent to by a call. -/
def OutsideCall.consumed? : OutsideCall → Option String
  | .consume address => some address
  | _ => none

namespace Session

variable {session : Session} {content : Bytes → Option Bytes} {report : Report}
  {calls : List OutsideCall}

/-- Every operator of a session has an outcome, in the order of their numbers, and the initiation
was sent once to the address of each. -/
structure DeliversToAll (session : Session) (report : Report) (calls : List OutsideCall) :
    Prop where
  ids : report.outcomes.map (·.id) = session.allIds
  calls : (calls.filterMap OutsideCall.consumed?).Perm (session.addresses.entries.map (·.2))

/-- Every id that some record bears has an outcome, and the initiation was sent once to its
address, which is that of the last such record. -/
structure DeliversToRecords (session : Session) (content : Bytes → Option Bytes) (report : Report)
    (calls : List OutsideCall) : Prop where
  outcomes : report.outcomes.map (fun outcome => (outcome.id, outcome.address)) =
    (Fanout.targets (session.recipients content)).entries
  calls : (calls.filterMap OutsideCall.consumed?).Perm (report.outcomes.map (·.address))

theorem DeliversToRecords.ids (delivers : session.DeliversToRecords content report calls) :
    report.outcomes.map (·.id) = (Fanout.targets (session.recipients content)).ids := by
  rw [OperatorMap.ids, ← delivers.outcomes, List.map_map]
  rfl

theorem DeliversToRecords.consumed (delivers : session.DeliversToRecords content report calls) :
    (calls.filterMap OutsideCall.consumed?).Perm
      ((Fanout.targets (session.recipients content)).entries.map (·.2)) := by
  rw [← delivers.outcomes, List.map_map]
  exact delivers.calls

/-- Every operator of the session is delivered to if and only if some record bears its id. -/
theorem DeliversToRecords.deliversToAll_iff
    (delivers : session.DeliversToRecords content report calls) :
    session.DeliversToAll report calls ↔ session.Named content := by
  constructor
  · intro all id member
    rwa [← Fanout.mem_ids_targets, ← delivers.ids, all.ids]
  · intro named
    obtain ⟨ids, addresses⟩ := named.targets_perm
    exact ⟨delivers.ids.trans ids, delivers.consumed.trans addresses⟩

end Session

/-! ### Every course of a session -/

theorem consumed_calls_plan (session : Session) (payload : Bytes) (addresses : List String) :
    ((session.plan payload addresses).filterMap Deed.call?).filterMap OutsideCall.consumed? =
      addresses := by
  have none : (session.allIds.map OutsideCall.lookup).filterMap OutsideCall.consumed? = [] := by
    simp [List.filterMap_map, Function.comp_def, OutsideCall.consumed?]
  simp only [Session.plan, Session.preparations, List.filterMap_append, filterMap_lookups, none]
  simp [List.filterMap_cons, Deed.call?, OutsideCall.consumed?, List.filterMap_map,
    Function.comp_def]

namespace Orchestrator

variable {σ : Type} {orchestrator : Orchestrator σ} {store : Store σ} {sound : σ → Prop}
  {content : σ → Bytes → Option Bytes} {fallback : Option (OperatorId → Except Error Operator)}
  {origin state : σ} {ids : List OperatorId} {operators : List Operator}

/-- Lookups of stored operators find what is stored, and change nothing. -/
theorem Found.eq_stored (keeps : store.Keeps sound content) (here : sound origin)
    (directory : orchestrator.directory = store.directory fallback)
    (there : ∀ id ∈ ids, (storedOperator (content origin) id).isSome = true)
    (found : orchestrator.Found origin ids operators state) :
    operators.map some = ids.map (storedOperator (content origin)) ∧ state = origin := by
  induction found with
  | nil => exact ⟨rfl, rfl⟩
  | @snoc ids operators before state id operator _ result ih =>
    obtain ⟨same, rfl⟩ := ih fun other member => there other (List.mem_append_left _ member)
    obtain ⟨known, stored⟩ := Option.isSome_iff_exists.mp (there id (by simp))
    rw [directory] at result
    obtain ⟨rfl, rfl⟩ := keeps.lookup_eq_ok here stored result
    refine ⟨?_, rfl⟩
    rw [List.map_append, List.map_append, same, List.map_singleton, List.map_singleton, stored]

/-- Lookups that tell what is stored and change nothing find it. -/
theorem Found.of_stored {stored : OperatorId → Option Operator}
    (told : ∀ id ∈ ids, ∀ known, stored id = some known →
      (orchestrator.directory.lookup id).perform origin = (.ok known, origin))
    (same : operators.map some = ids.map stored) :
    orchestrator.Found origin ids operators origin := by
  induction ids using List.reverseRecOn generalizing operators with
  | nil =>
    obtain rfl := List.map_eq_nil_iff.mp same
    exact .nil
  | append_singleton ids id ih =>
    rw [List.map_append, List.map_singleton] at same
    obtain ⟨earlier, final, rfl, first, last⟩ := List.map_eq_append_iff.mp same
    obtain ⟨known, rfl, there⟩ := List.map_eq_singleton_iff.mp last
    have before := ih (fun other member => told other (List.mem_append_left _ member)) first
    exact before.snoc (told id (by simp) known there.symm)

end Orchestrator

namespace Course

variable {σ : Type} {orchestrator : Orchestrator σ} {session : Session} {origin : σ}
  {switch : Switch} {finish : Finish σ} {report : Report}

/-- A session that ends well has come to the end of its deliveries. -/
theorem Runs.exists_round
    (run : Runs orchestrator session (start session switch origin) (.finished finish))
    (result : finish.result = .ok report) :
    ∃ log payload round,
      Runs orchestrator session (start session switch origin) (.delivering log payload round) ∧
      round.IsOver ∧ report = round.report session.id ∧ finish.switch = round.switch ∧
      finish.log = log ++ round.deeds := by
  rcases run.cases_tail with same | ⟨last, before, step⟩
  · cases same
  · cases step with
    | reports complete => exact ⟨_, _, _, before, complete, (Except.ok.inj result).symm, rfl, rfl⟩
    | _ => cases result

/-- A session that ends well has delivered to the operators that it has found. -/
theorem Runs.deliversTo
    (run : Runs orchestrator session (start session switch origin) (.finished finish))
    (result : finish.result = .ok report) :
    ∃ operators state, orchestrator.Found origin session.allIds operators state ∧
      (finish.switch.cancelled = false → report.cancelled = []) ∧
      report.outcomes.map (fun outcome => (outcome.id, outcome.address)) =
        (Fanout.targets operators).entries ∧
      (report.cancelled = [] →
        ((finish.log.filterMap Deed.call?).filterMap OutsideCall.consumed?).Perm
          (report.outcomes.map (·.address))) := by
  obtain ⟨log, payload, round, before, complete, rfl, switched, done⟩ := run.exists_round result
  obtain ⟨operators, initiation, first, now, state, provided, -, rfl, prepared, deliveries⟩ :=
    before.staged
  obtain ⟨creation, middle, ⟨-, last, found, -⟩, -⟩ := provided
  have orderly := Round.Runs.orderly deliveries Round.orderly_start
  refine ⟨operators, last, found, fun undisturbed => ?_,
    Round.map_outcomes_report orderly complete session.id, fun uncut => ?_⟩
  · rw [Round.cancelled_report_eq_nil_iff orderly complete]
    rw [switched] at undisturbed
    exact Round.Runs.uncut deliveries Round.orderly_start Round.uncut_start undisturbed
  · rw [Round.cancelled_report_eq_nil_iff orderly complete] at uncut
    have dialled := Round.Runs.dialled_of_uncut deliveries Round.orderly_start
      Round.dialled_start uncut
    obtain ⟨calls, started, called, -⟩ := dialled.calls_of_isOver orderly complete session.id
    have whole : finish.log =
        session.plan initiation.payload (round.started.map (·.2)) := by
      rw [done, prepared, Session.plan, Round.deeds, List.map_map]
      rfl
    rw [whole, consumed_calls_plan, started]
    exact called

end Course

/-! ### The data directory -/

namespace Session

/-- The keys of the operators of a session. -/
def Keys (session : Session) (key : Bytes) : Prop := ∃ id ∈ session.allIds, operatorKey id = key

/-- How a session ends that reports: if nothing was cut short, it has delivered to the records
that were found, and to all operators if and only if these are named. -/
structure Concludes (session : Session) (content : Bytes → Option Bytes) (report : Report)
    (calls : List OutsideCall) : Prop where
  records : report.cancelled = [] → session.DeliversToRecords content report calls
  all_iff : report.cancelled = [] →
    (session.DeliversToAll report calls ↔ session.Named content)

end Session

namespace World

variable {ν : Type} {session : Session} {world recorded : World ν}
  {orchestrator : Orchestrator (World ν)}

/-- What the data directory holds under a key. -/
def content (world : World ν) : Bytes → Option Bytes := FileStore.content world.folder

theorem lawful_folderPart : (folderPart : Part (World ν) Folder).Lawful :=
  ⟨fun _ _ => rfl, fun _ => rfl⟩

theorem keeps_store : (store : Store (World ν)).Keeps (fun world => world.folder.Sound) content :=
  FileStore.keeps_store.within lawful_folderPart

theorem serves_store (session : Session) : (store : Store (World ν)).Serves session.Keys
    (fun world => FileStore.Clear session.Keys world.folder) := by
  refine (FileStore.serves_store ?_).within lawful_folderPart
  rintro _ ⟨id, -, rfl⟩
  exact usable_operatorKey id

theorem shows_store (session : Session) :
    (store : Store (World ν)).Shows session.Keys (fun _ => True) content := by
  refine (FileStore.shows_store ?_).within lawful_folderPart
  rintro _ ⟨id, -, rfl⟩
  exact usable_operatorKey id

/-- What is stored after recording are the records of the session. -/
theorem map_stored_recorded (sound : world.folder.Sound)
    (done : (store.recordOperators session).perform world = (.ok (), recorded)) :
    session.allIds.map (storedOperator recorded.content) =
      (session.recipients world.content).map some := by
  rw [← session.map_recorded]
  exact List.map_congr_left fun id _ => (keeps_store.recordOperators_eq_ok sound done).2 id

theorem found_eq_recipients {operators : List Operator} {state : World ν}
    (sound : world.folder.Sound)
    (done : (store.recordOperators session).perform world = (.ok (), recorded))
    (directory : orchestrator.directory = store.directory (some session.lookup))
    (found : orchestrator.Found recorded session.allIds operators state) :
    operators = session.recipients world.content := by
  have later := (keeps_store.recordOperators_eq_ok sound done).1
  have there := map_stored_recorded sound done
  have known : ∀ id ∈ session.allIds, (storedOperator recorded.content id).isSome = true := by
    intro id member
    have inside := List.mem_map_of_mem (f := storedOperator recorded.content) member
    rw [there] at inside
    obtain ⟨record, -, same⟩ := List.mem_map.mp inside
    exact same ▸ rfl
  obtain ⟨same, -⟩ := found.eq_stored keeps_store later directory known
  exact List.map_injective_iff.mpr (Option.some_injective _) (same.trans there)

/-- Every course of a session whose addresses have been recorded. -/
theorem concludes_of_runs {switch : Switch} {finish : Finish (World ν)} {report : Report}
    (sound : world.folder.Sound)
    (done : (store.recordOperators session).perform world = (.ok (), recorded))
    (directory : orchestrator.directory = store.directory (some session.lookup))
    (run : Course.Runs orchestrator session (.start session switch recorded) (.finished finish))
    (result : finish.result = .ok report) :
    (finish.switch.cancelled = false → report.cancelled = []) ∧
      session.Concludes world.content report (finish.log.filterMap Deed.call?) := by
  obtain ⟨operators, state, found, uncut, outcomes, calls⟩ := run.deliversTo result
  obtain rfl := found_eq_recipients sound done directory found
  have delivers : report.cancelled = [] → session.DeliversToRecords world.content report
      (finish.log.filterMap Deed.call?) := fun whole => ⟨outcomes, calls whole⟩
  exact ⟨uncut, delivers, fun whole => (delivers whole).deliversToAll_iff⟩

/-- A session that is carried out after its addresses have been recorded. -/
theorem concludes_of_runSession {plan : CancelPlan} {run : SessionRun (World ν)} {report : Report}
    (sound : world.folder.Sound)
    (done : (store.recordOperators session).perform world = (.ok (), recorded))
    (directory : orchestrator.directory = store.directory (some session.lookup))
    (ran : orchestrator.runSession session plan recorded = .ok run)
    (result : run.result = .ok report) :
    (plan = .never ∨ plan = .leaves → report.cancelled = []) ∧
      session.Concludes world.content report run.calls := by
  constructor
  · -- An owner that never cancels might as well have left.
    intro passive
    have left : orchestrator.runSession session .leaves recorded = .ok run := by
      rcases passive with rfl | rfl
      · exact (orchestrator.runSession_leaves session recorded).trans ran
      · exact ran
    obtain ⟨finish, course, same⟩ := Course.exists_runs_runSession left
    have abandoned : finish.switch = .abandoned := course.abandoned rfl
    have undisturbed : finish.switch.cancelled = false := by rw [abandoned]; rfl
    exact (concludes_of_runs sound done directory course (same.result ▸ result)).1 undisturbed
  · obtain ⟨finish, course, same⟩ := Course.exists_runs_runSession ran
    rw [same.calls]
    exact (concludes_of_runs sound done directory course (same.result ▸ result)).2

/-- After recording the records are found, whatever the fallback would say. -/
theorem found_recorded {fallback : Option (OperatorId → Except Error Operator)}
    (sound : world.folder.Sound)
    (done : (store.recordOperators session).perform world = (.ok (), recorded))
    (directory : orchestrator.directory = store.directory fallback) :
    orchestrator.Found recorded session.allIds (session.recipients world.content) recorded := by
  refine .of_stored (fun id member known there => ?_) (map_stored_recorded sound done).symm
  rw [directory]
  exact (shows_store session).perform_lookup ⟨id, member, rfl⟩ trivial there

/-- If nothing is in the way and what is stored can be read, the records are found. -/
theorem exists_found (clear : FileStore.Clear session.Keys world.folder)
    (readable : ∀ id ∈ session.allIds, Readable world.content id) :
    ∃ recorded, (store.recordOperators session).perform world = (.ok (), recorded) ∧
      ∀ orchestrator : Orchestrator (World ν),
        orchestrator.directory = store.directory (some session.lookup) →
        orchestrator.Found recorded session.allIds (session.recipients world.content) recorded := by
  obtain ⟨recorded, done, -⟩ := (serves_store session).exists_recordOperators keeps_store
    (fun clear => clear.toSound) (fun id member => ⟨id, member, rfl⟩) clear readable
  exact ⟨recorded, done, fun orchestrator => found_recorded clear.toSound done⟩

end World

/-! ### The program -/

namespace Initiator

variable {ν : Type} (machine : Machine ν) (invocation : Invocation) (session : Session)
  (signer : Signer) (limit : UInt64) (world : World ν)

/-- What the program runs a session with. -/
def orchestrator : Orchestrator (World ν) :=
  let timeout := invocation.timeout.toNat * 1000
  ⟨World.store.directory (some session.lookup),
    (RemoteMessenger.atAddress invocation.messenger).topicService machine.worldNetwork timeout,
    signer, RemoteDelivery.transport machine.worldNetwork, ⟨limit, timeout⟩⟩

/-- If nothing is complained about, a report in which nothing is cut short has been shown. -/
theorem exists_report_of_runSession
    (content : (runSession machine invocation session signer limit world).complaint = none) :
    ∃ run report,
      (orchestrator machine invocation session signer limit).runSession session machine.interrupt
        world = .ok run ∧
      run.result = .ok report ∧ report.cancelled = [] ∧
      (runSession machine invocation session signer limit world).output = report.lines := by
  cases ran : (orchestrator machine invocation session signer limit).runSession session
      machine.interrupt world with
  | error crash =>
    unfold orchestrator at ran
    simp [runSession, ran, Done.leaving] at content
  | ok run =>
    have carriedOut := ran
    unfold orchestrator at carriedOut
    cases result : run.result with
    | error error => simp [runSession, carriedOut, result, Done.leaving] at content
    | ok report =>
      have uncut : report.cancelled = [] := by
        by_contra cut
        simp [runSession, carriedOut, result, conclude, Done.leaving, cut] at content
      refine ⟨run, report, rfl, result, uncut, ?_⟩
      simp [runSession, carriedOut, result, conclude, Done.leaving]

end Initiator

/-- Session operators and their records. Whatever the data directory holds, a session whose
addresses have been recorded there delivers to the records that it finds: each id that some
record bears has one outcome, and the initiation is sent once to its address. These are all
operators of the session if and only if each of them is named by a record, and records that bear
the ids under which they are stored name everybody, at the addresses of the session; recording
misfiles none. If nothing is in the way and what is stored can be read, recording succeeds and
the records are found; if the topic can be created and the initiation composed then, and nobody
cancels, there is a report. -/
theorem World.delivers_to_records {ν : Type} (session : Session) (world : World ν)
    (sound : world.folder.Sound) :
    (FileStore.Clear session.Keys world.folder →
      (∀ id ∈ session.allIds, Readable world.content id) →
      ∃ recorded, (store.recordOperators session).perform world = (.ok (), recorded) ∧
        ∀ orchestrator : Orchestrator (World ν),
          orchestrator.directory = store.directory (some session.lookup) →
          orchestrator.Found recorded session.allIds (session.recipients world.content)
            recorded ∧
          ∀ creation before next initiation, session.allIds ≠ [] →
            orchestrator.topics.begin session.topic recorded = (creation, before) →
            creation.ending.perform before = (.ok (), next) →
            Initiation.compose session orchestrator.signer = .ok initiation →
            orchestrator.settings.permits ≤ DeliverySettings.maxPermits →
            ∃ run report, orchestrator.runSession session .never recorded = .ok run ∧
              run.result = .ok report) ∧
    (∀ recorded, (store.recordOperators session).perform world = (.ok (), recorded) →
      (∀ orchestrator : Orchestrator (World ν),
        orchestrator.directory = store.directory (some session.lookup) →
        (∀ switch finish report,
          Course.Runs orchestrator session (.start session switch recorded) (.finished finish) →
          finish.result = .ok report →
          (finish.switch.cancelled = false → report.cancelled = []) ∧
            session.Concludes world.content report (finish.log.filterMap Deed.call?)) ∧
        (∀ plan run report, orchestrator.runSession session plan recorded = .ok run →
          run.result = .ok report →
          (plan = .never ∨ plan = .leaves → report.cancelled = []) ∧
            session.Concludes world.content report run.calls)) ∧
      (∀ machine invocation signer limit,
        (Initiator.runSession machine invocation session signer limit recorded).complaint = none →
        ∃ run report,
          (Initiator.orchestrator machine invocation session signer limit).runSession session
            machine.interrupt recorded = .ok run ∧
          run.result = .ok report ∧
          (Initiator.runSession machine invocation session signer limit recorded).output =
            report.lines ∧
          session.DeliversToRecords world.content report run.calls ∧
          (session.DeliversToAll report run.calls ↔ session.Named world.content)) ∧
      (Filed world.content → Filed recorded.content)) ∧
    (Filed world.content → session.Named world.content ∧
      Fanout.targets (session.recipients world.content) = session.addresses) := by
  refine ⟨fun clear readable => ?_, fun recorded done => ⟨?_, ?_, ?_⟩,
    fun filed => ⟨session.named_of_filed filed, session.targets_of_filed filed⟩⟩
  · obtain ⟨recorded, done, finds⟩ := exists_found clear readable
    refine ⟨recorded, done, fun orchestrator directory => ⟨finds orchestrator directory, ?_⟩⟩
    intro creation before next initiation inhabited begins created composed few
    exact Course.exists_report_of_never
      ⟨inhabited, recorded, finds orchestrator directory, begins⟩ created composed few
  · intro orchestrator directory
    exact ⟨fun switch finish report => concludes_of_runs sound done directory,
      fun plan run report => concludes_of_runSession sound done directory⟩
  · intro machine invocation signer limit uncomplained
    obtain ⟨run, report, ran, result, uncut, shown⟩ :=
      Initiator.exists_report_of_runSession machine invocation session signer limit recorded
        uncomplained
    obtain ⟨-, ends⟩ := concludes_of_runSession sound done rfl ran result
    exact ⟨run, report, ran, result, shown, ends.records uncut, ends.all_iff uncut⟩
  · exact keeps_store.filed_of_recordOperators sound done

/-- One operator is known with its key, and its record is kept. The other is recorded. -/
theorem World.delivers_to_records_kept :
    let world : World Unit :=
      ⟨FileStore.ofEntries [(operatorKey 1, Operator.format.encode ⟨1, "http://keep", some [5]⟩)],
        ()⟩
    let session : Session := ⟨⟨List.replicate 16 0, rfl⟩,
      ⟨[(1, "http://keep"), (2, "http://two")], by decide⟩, .empty, 1, [0xab, 0x12]⟩
    let orchestrator : Orchestrator (World Unit) :=
      ⟨store.directory (some session.lookup), ⟨fun _ state => (⟨0, pure ()⟩, state)⟩,
        ⟨1, fun message => .ok ⟨message, 1, []⟩⟩, .ofBehaviour fun _ => .accepting, .standard⟩
    ∃ recorded run report, (store.recordOperators session).perform world = (.ok (), recorded) ∧
      orchestrator.runSession session .never recorded = .ok run ∧ run.result = .ok report ∧
      report.outcomes.map (fun outcome => (outcome.id, outcome.address)) =
        [(1, "http://keep"), (2, "http://two")] ∧
      session.DeliversToAll report run.calls := by
  intro world session orchestrator
  have clear := FileStore.clear_ofEntries session.Keys
    [(operatorKey 1, Operator.format.encode ⟨1, "http://keep", some [5]⟩)]
  have addresses : session.addresses = session.operators := session.addresses_of_empty rfl
  have ids : session.allIds = [1, 2] := congrArg OperatorMap.ids addresses
  have filed : Filed world.content := by
    intro id operator there
    have stored := storedOperator_ofEntries ⟨1, "http://keep", some [5]⟩ 1 id
    rw [content, stored] at there
    split_ifs at there with own
    · obtain rfl := Option.some.inj there
      exact own.symm
    · cases there
  obtain ⟨succeeds, whenever, all⟩ := delivers_to_records session world clear.toSound
  obtain ⟨recorded, done, progress⟩ := succeeds clear fun id _ => readable_ofEntries _ 1 id
  obtain ⟨-, ends⟩ := progress orchestrator rfl
  obtain ⟨run, report, ran, result⟩ :=
    ends _ recorded recorded _ (by simp [ids]) rfl rfl rfl (by decide)
  obtain ⟨uncut, concludes⟩ :=
    ((whenever recorded done).1 orchestrator rfl).2 _ run report ran result
  obtain ⟨named, targets⟩ := all filed
  have whole := uncut (.inl rfl)
  refine ⟨recorded, run, report, done, ran, result, ?_, (concludes.all_iff whole).mpr named⟩
  rw [(concludes.records whole).outcomes, targets, addresses]

/-- The record under the key of the first operator bears the id of the second. It has the address
that the session says, so it is kept, and the second record is delivered to in its place: the
first operator has no outcome, and nobody complains. -/
theorem World.misfiled_record_hides_operator :
    let world : World Unit :=
      ⟨FileStore.ofEntries [(operatorKey 1, Operator.format.encode ⟨2, "http://keep", none⟩)], ()⟩
    let request : Request := ⟨["1=http://keep", "2=http://two"], [], 1, "ab12"⟩
    let session : Session := ⟨⟨List.replicate 16 0, rfl⟩,
      ⟨[(1, "http://keep"), (2, "http://two")], by decide⟩, .empty, 1, [0xab, 0x12]⟩
    let orchestrator : Orchestrator (World Unit) :=
      ⟨store.directory (some session.lookup), ⟨fun _ state => (⟨0, pure ()⟩, state)⟩,
        ⟨1, fun message => .ok ⟨message, 1, []⟩⟩, .ofBehaviour fun _ => .accepting, .standard⟩
    Session.accept session.id request = .ok session ∧
    (∀ id, Readable world.content id) ∧
    ∃ recorded run report, (store.recordOperators session).perform world = (.ok (), recorded) ∧
      orchestrator.runSession session .never recorded = .ok run ∧ run.result = .ok report ∧
      report.cancelled = [] ∧ session.allIds = [1, 2] ∧ report.outcomes.map (·.id) = [2] ∧
      ¬ session.DeliversToAll report run.calls := by
  intro world request session orchestrator
  have clear := FileStore.clear_ofEntries session.Keys
    [(operatorKey 1, Operator.format.encode ⟨2, "http://keep", none⟩)]
  have addresses : session.addresses = session.operators := session.addresses_of_empty rfl
  have ids : session.allIds = [1, 2] := congrArg OperatorMap.ids addresses
  have readable : ∀ id, Readable world.content id := readable_ofEntries _ 1
  have stored := storedOperator_ofEntries ⟨2, "http://keep", none⟩ 1
  have recipients : session.recipients world.content =
      [⟨2, "http://keep", none⟩, ⟨2, "http://two", none⟩] := by
    rw [Session.recipients, addresses]
    simp [session, content, world, stored, Operator.recorded, Operator.ofAddress, Option.filter]
  have accepted : Session.accept session.id request = .ok session := by
    have operators : Operator.Spec.parseAll request.operators = .ok session.operators :=
      Operator.Spec.parseAll_eq_ok (by decide +kernel)
    have others : Operator.Spec.parseAll request.oldOperators = .ok .empty :=
      Operator.Spec.parseAll_eq_ok rfl
    have key : Session.readKey request.validatorKey = .ok session.validatorKey := by
      decide +kernel
    simp only [Session.accept, operators, others, key]
    rfl
  obtain ⟨recorded, done, finds⟩ := exists_found clear fun id _ => readable id
  obtain ⟨run, report, ran, result⟩ := Course.exists_report_of_never
    ⟨by simp [ids], recorded, finds orchestrator rfl, rfl⟩ rfl rfl (by decide)
  obtain ⟨uncut, concludes⟩ := concludes_of_runSession clear.toSound done rfl ran result
  have whole := uncut (.inl rfl)
  have named : report.outcomes.map (·.id) = [2] := by
    rw [(concludes.records whole).ids]
    refine List.Pairwise.eq_of_mem_iff (OperatorMap.pairwise_ids _) (by simp) fun id => ?_
    rw [Fanout.mem_ids_targets, recipients]
    simp
  refine ⟨accepted, readable, recorded, run, report, done, ran, result, whole, ids, named, ?_⟩
  intro all
  have both := all.ids
  rw [named, ids] at both
  exact absurd both (by decide)

end Resharing
