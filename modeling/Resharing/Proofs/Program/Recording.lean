import Resharing.Proofs.Directory.Failure
import Resharing.Proofs.Orchestration.Recipients

/-!
# What the program records before a session

Before a session the program records its operators in the data directory. What it leaves there is
told key by key. The record of an operator is kept, to the last byte, if it has the address that the
session says, and gives way to a new one without a public key otherwise; nothing else is touched.
What has been recorded is not recorded again, and the session finds all its operators in the
directory, so that nobody else is asked about them. If recording fails, the program ends with that
failure and nothing has gone over the network.

## Main definitions

* `Session.RecordedIn`: what recording leaves under all keys

## Main results

* `Session.Renews.recordedIn`: what is put under the keys of operators is what this says
* `Initiator.reshare_of_unrecorded`: how the program ends if recording fails
* `World.recording_exact`: what recording does to the data directory, and why it fails
-/

namespace Resharing

namespace Session

variable {session : Session} {before after : Bytes → Option Bytes} {id : OperatorId}

/-- What recording the operators of a session leaves under all keys. -/
structure RecordedIn (session : Session) (before after : Bytes → Option Bytes) : Prop where
  /-- Every operator has a record with its address, that of a new operator before that of an old. -/
  addressed : ∀ id ∈ session.allIds, ∃ record, storedOperator after id = some record ∧
    session.addressOf id = some record.address ∧
    (session.operators.find? id = some record.address ∨
      session.operators.find? id = none ∧ session.oldOperators.find? id = some record.address)
  /-- The record is the one that was there, public key included, if and only if that one had the
  address. -/
  kept_iff : ∀ id ∈ session.allIds, storedOperator after id = storedOperator before id ↔
    (storedOperator before id).map Operator.address = session.addressOf id
  /-- Then nothing has been written. -/
  unwritten : ∀ id ∈ session.allIds,
    (storedOperator before id).map Operator.address = session.addressOf id →
      after (operatorKey id) = before (operatorKey id)
  /-- Otherwise the record is a new one of that operator, without a public key. -/
  renewed : ∀ id ∈ session.allIds, ∀ address, session.addressOf id = some address →
    (storedOperator before id).map Operator.address ≠ some address →
      storedOperator after id = some ⟨id, address, none⟩
  untouched : ∀ key, (∀ id ∈ session.allIds, key ≠ operatorKey id) → after key = before key

theorem Renews.recordedIn (renews : session.Renews session.allIds before after) :
    session.RecordedIn before after where
  addressed id member := by
    obtain ⟨address, named⟩ := exists_addressOf member
    have stored := renews.stored member
    simp only [recorded, named] at stored
    have said : session.addressOf id =
        some (Operator.recorded (storedOperator before id) id address).address := by
      rw [named, Operator.address_recorded]
    exact ⟨_, stored, said, addressOf_eq_some_iff.mp said⟩
  kept_iff id member := by
    obtain ⟨address, named⟩ := exists_addressOf member
    have stored := renews.stored member
    simp only [recorded, named] at stored
    rw [stored, named]
    -- The record has the address of the session, so it is an old one exactly if the old one had it.
    constructor
    · intro same
      rw [← same, Option.map_some, Operator.address_recorded]
    · intro known
      obtain ⟨operator, there, had⟩ := Option.map_eq_some_iff.mp known
      rw [there, Operator.recorded_of_known had]
  unwritten id member known := by
    obtain ⟨address, named⟩ := exists_addressOf member
    rw [named] at known
    rw [renews.renewed id member, renewal?, named, Option.bind_some, if_pos known, Option.none_or]
  renewed id member address named unknown := by
    have stored := renews.stored member
    simp only [recorded, named] at stored
    rw [stored, Operator.recorded_of_unknown unknown]
    rfl
  untouched := renews.untouched

/-- The records have the addresses of the session. -/
theorem RecordedIn.map_address (recorded : session.RecordedIn before after)
    (member : id ∈ session.allIds) :
    (storedOperator after id).map Operator.address = session.addressOf id := by
  obtain ⟨record, there, named, -⟩ := recorded.addressed id member
  rw [there, named, Option.map_some]

end Session

/-- If the operators cannot be recorded, the program says why, and the network is as it was. -/
theorem Initiator.reshare_of_unrecorded {ν : Type} {machine : Machine ν} {invocation : Invocation}
    {request : Request} {key : String} {seed : Seed} {session : Session} {world left : World ν}
    {error : Error} (id : OperatorId) (limit : UInt64) (read : Seed.ofHex key = .ok seed)
    (accepted : Session.accept machine.session request = .ok session)
    (opened : machine.openFolder invocation.dataPath = .ok world.folder)
    (failed : (World.store.recordOperators session).perform world = (.error error, left)) :
    reshare machine invocation request id key limit world.network =
      .leaving invocation.dataPath left [] (some (.failed error)) := by
  obtain ⟨folder, network⟩ := world
  have both : (do
      let seed ← Seed.ofHex key
      return (Signer.ofSeed machine.scheme id seed, ← Session.accept machine.session request)) =
        Except.ok (Signer.ofSeed machine.scheme id seed, session) := by
    rw [read, accepted]
    rfl
  simp only [reshare, both, opened, failed]

namespace World

variable {ν : Type}

theorem blamesStorage_store : (store : Store (World ν)).BlamesStorage :=
  FileStore.blamesStorage_store.within

/-- The data directory is all that recording can change. -/
theorem spares_store : (store : Store (World ν)).Spares World.network :=
  Store.spares_within fun _ _ => rfl

/-- What recording the operators of a session does to the data directory. If it succeeds, every
operator has a record with its address, which is the record that was there before if that had the
address, and a new one otherwise; nothing is changed under any other key. Recording them again
writes nothing: it succeeds although nothing can be put. Whatever a fallback would say, lookups
tell the records, so the session finds all its operators in the directory. If recording fails, the
store has failed or holds something under the key of an operator that cannot be read, and the
program ends with that failure. In no case is anything sent over the network. -/
theorem recording_exact (session : Session) (world : World ν) (sound : world.folder.Sound) :
    (∀ recorded, (store.recordOperators session).perform world = (.ok (), recorded) →
      session.RecordedIn world.content recorded.content ∧ recorded.network = world.network ∧
      (store.recordOperators session).perform recorded = (.ok (), recorded) ∧
      (∀ reason, ((store.refusing none (some reason)).recordOperators session).perform recorded =
        (.ok (), recorded)) ∧
      ∀ fallback,
        (∀ id ∈ session.allIds, ∀ record, storedOperator recorded.content id = some record →
          (store.lookup fallback id).perform recorded = (.ok record, recorded)) ∧
        ∀ orchestrator : Orchestrator (World ν), orchestrator.directory = store.directory fallback →
          ∃ operators, operators.map some = session.allIds.map (storedOperator recorded.content) ∧
            orchestrator.resolve session.allIds recorded =
              (.ok operators, session.allIds.length, recorded)) ∧
    (∀ error left, (store.recordOperators session).perform world = (.error error, left) →
      RecordingFault world.content session.allIds error ∧ left.network = world.network ∧
      ∀ machine invocation request id key limit seed, Seed.ofHex key = .ok seed →
        Session.accept machine.session request = .ok session →
        machine.openFolder invocation.dataPath = .ok world.folder →
        Initiator.reshare machine invocation request id key limit world.network =
          ⟨[], some (.failed error), some (invocation.dataPath, left.folder), world.network⟩) ∧
    (FileStore.Clear session.Keys world.folder →
      (∀ id ∈ session.allIds, Readable world.content id) →
      ∃ recorded, (store.recordOperators session).perform world = (.ok (), recorded)) := by
  refine ⟨fun recorded done => ?_, fun error left failed => ?_, fun clear readable => ?_⟩
  · obtain ⟨-, renews⟩ := keeps_store.renews_of_recordOperators sound done
    have whole := renews.recordedIn
    have shows := shows_store (ν := ν) session
    have among : ∀ id ∈ session.allIds, session.Keys (operatorKey id) :=
      fun id member => ⟨id, member, rfl⟩
    have network := spares_store.recordOperators session world
    rw [done] at network
    -- All addresses are known now, so recording them again puts nothing.
    refine ⟨whole, network, ?_, fun reason => ?_, fun fallback => ⟨?_, ?_⟩⟩
    · exact shows.perform_recordOperators among trivial fun id => whole.map_address
    · exact (shows.refusing (some reason)).perform_recordOperators among trivial
        fun id => whole.map_address
    · exact fun id member record there => shows.perform_lookup (among id member) trivial there
    · intro orchestrator directory
      exact ⟨_, (map_stored_recorded sound done).symm,
        (found_recorded sound done directory).resolve_eq⟩
  · have network := spares_store.recordOperators session world
    rw [failed] at network
    refine ⟨keeps_store.fault_of_recordOperators blamesStorage_store sound failed, network, ?_⟩
    intro machine invocation request id key limit seed read accepted opened
    rw [Initiator.reshare_of_unrecorded id limit read accepted opened failed,
      Initiator.Done.leaving, network]
  · obtain ⟨recorded, done, -⟩ := exists_found clear readable
    exact ⟨recorded, done⟩

/-- The first operator is known with its public key. The second has been an old operator at another
address. -/
theorem recording_exact_known :
    let known : Operator := ⟨1, "http://keep", some [5]⟩
    let world : World Unit :=
      ⟨FileStore.ofEntries [(operatorKey 1, Operator.format.encode known)], ()⟩
    let session : Session := ⟨⟨List.replicate 16 0, rfl⟩,
      ⟨[(1, "http://keep"), (2, "http://two")], by decide⟩, ⟨[(2, "http://old")], by decide⟩, 1,
      [0xab, 0x12]⟩
    world.folder.Sound ∧
    ∃ recorded, (store.recordOperators session).perform world = (.ok (), recorded) ∧
      storedOperator recorded.content 1 = some known ∧
      recorded.content (operatorKey 1) = world.content (operatorKey 1) ∧
      storedOperator recorded.content 2 = some ⟨2, "http://two", none⟩ ∧
      (store.recordOperators session).perform recorded = (.ok (), recorded) ∧
      (store.lookup none 2).perform recorded = (.ok ⟨2, "http://two", none⟩, recorded) := by
  intro known world session
  have clear := FileStore.clear_ofEntries session.Keys
    [(operatorKey 1, Operator.format.encode known)]
  have stored : ∀ id, storedOperator world.content id = if id = 1 then some known else none :=
    storedOperator_ofEntries known 1
  have first : (1 : OperatorId) ∈ session.allIds := Session.mem_allIds.mpr (.inl (by decide))
  have second : (2 : OperatorId) ∈ session.allIds := Session.mem_allIds.mpr (.inl (by decide))
  have same : (storedOperator world.content 1).map Operator.address = session.addressOf 1 := by
    rw [stored]
    rfl
  obtain ⟨succeeds, -, exists_recorded⟩ := recording_exact session world clear.toSound
  obtain ⟨recorded, done⟩ := exists_recorded clear fun id _ => readable_ofEntries known 1 id
  obtain ⟨whole, -, again, -, tells⟩ := succeeds recorded done
  have renewed : storedOperator recorded.content 2 = some ⟨2, "http://two", none⟩ := by
    refine whole.renewed 2 second "http://two" rfl ?_
    rw [stored]
    exact nofun
  refine ⟨clear.toSound, recorded, done, ?_, whole.unwritten 1 first same, renewed, again,
    (tells none).1 2 second _ renewed⟩
  rw [(whole.kept_iff 1 first).mpr same, stored]
  rfl

end World

end Resharing
