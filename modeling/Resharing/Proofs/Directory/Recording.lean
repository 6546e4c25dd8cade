import Resharing.Directory.Stored
import Resharing.Proofs.Operator.Format
import Resharing.Proofs.Session.Operators
import Resharing.Proofs.Store.Files

/-!
# What is recorded about operators

Recording an address keeps what is stored under an operator's key if it has that address, and
replaces it otherwise. Nothing compares the id of what is kept with the operator that it is kept
for. A lookup tells what is stored, and asks the fallback only about what is not.

## Main definitions

* `storedOperator`: what is stored under the key of an operator
* `Operator.recorded`: what is stored there after an address has been recorded
* `Session.recorded`: what is stored after the addresses of a session have been recorded
* `Session.Renews`: which bytes are replaced when some operators are recorded
* `Filed`: records are stored under the ids that they bear

## Main results

* `operatorKey_injective`, `usable_operatorKey`: each operator has a key of its own
* `Store.Keeps.renews_of_recordOperators`: what recording the operators of a session replaces
* `Store.Keeps.recordOperators_eq_ok`: what is stored about them then
* `Store.Keeps.filed_of_recordOperators`: it misfiles no record
* `Store.Keeps.lookup_eq_ok`: what a lookup tells of a stored operator
* `Store.Shows.perform_recordOperators`: what has been recorded is not recorded again
* `Store.Serves.exists_recordOperators`: recording succeeds where nothing is in the way
-/

namespace Resharing

/-! ### Keys -/

theorem operatorKey_eq (id : OperatorId) :
    operatorKey id = Bytes.ofText "operator/" ++ Json.numeral id.toNat := by
  rw [← Json.ofText_text]
  simp [operatorKey, OperatorId.text, Bytes.ofText]

theorem operatorKey_injective : Function.Injective operatorKey := by
  intro left right same
  rw [operatorKey_eq, operatorKey_eq] at same
  have number := Json.numeral_inj left.toNat_lt right.toNat_lt (List.append_cancel_left same)
  exact UInt64.toNat_inj.mp number

theorem usable_operatorKey (id : OperatorId) : FileStore.Usable (operatorKey id) := by
  have digits : (Json.numeral id.toNat).length ≤ 20 :=
    Json.length_numeral_le (Nat.lt_trans id.toNat_lt (by decide))
  have name : (Bytes.ofText "operator/").length = 9 := by decide
  refine ⟨fun empty => ?_, ?_⟩
  · simpa [operatorKey_eq, name] using congrArg List.length empty
  · rw [operatorKey_eq, List.length_append]
    omega

/-! ### What is stored -/

/-- What is stored under the key of an operator, if it can be read. -/
def storedOperator (content : Bytes → Option Bytes) (id : OperatorId) : Option Operator :=
  (content (operatorKey id)).bind fun bytes => (Operator.format.decode bytes).toOption

/-- What is stored under the key of an operator can be read. -/
def Readable (content : Bytes → Option Bytes) (id : OperatorId) : Prop :=
  ∀ bytes, content (operatorKey id) = some bytes →
    ∃ operator, Operator.format.decode bytes = .ok operator

/-- What is stored about an operator is told by what is under its key. -/
theorem storedOperator_congr {content other : Bytes → Option Bytes} {id : OperatorId}
    (same : content (operatorKey id) = other (operatorKey id)) :
    storedOperator content id = storedOperator other id := by
  rw [storedOperator, same, storedOperator]

theorem storedOperator_encode {content : Bytes → Option Bytes} {id : OperatorId}
    {operator : Operator}
    (there : content (operatorKey id) = some (Operator.format.encode operator)) :
    storedOperator content id = some operator := by
  have read : Operator.format.decode (Operator.format.encode operator) = .ok operator :=
    (Operator.faithful_format operator).decode_encode
  simp [storedOperator, there, read, Except.toOption]

theorem content_ofEntries (operator : Operator) (id other : OperatorId) :
    FileStore.content (FileStore.ofEntries [(operatorKey id, Operator.format.encode operator)])
        (operatorKey other) =
      if other = id then some (Operator.format.encode operator) else none := by
  rw [FileStore.content_ofEntries_singleton (usable_operatorKey id)]
  simp only [operatorKey_injective.eq_iff]

/-- A directory that holds one record, under the key of an operator. -/
theorem storedOperator_ofEntries (operator : Operator) (id other : OperatorId) :
    storedOperator (FileStore.content
      (FileStore.ofEntries [(operatorKey id, Operator.format.encode operator)])) other =
        if other = id then some operator else none := by
  have there := content_ofEntries operator id other
  by_cases own : other = id
  · rw [if_pos own] at there ⊢
    exact storedOperator_encode there
  · rw [if_neg own] at there ⊢
    rw [storedOperator, there, Option.bind_none]

theorem readable_ofEntries (operator : Operator) (id other : OperatorId) :
    Readable (FileStore.content
      (FileStore.ofEntries [(operatorKey id, Operator.format.encode operator)])) other := by
  intro bytes there
  rw [content_ofEntries] at there
  split_ifs at there
  obtain rfl := Option.some.inj there
  exact ⟨operator, (Operator.faithful_format operator).decode_encode⟩

/-- What is stored about an operator after its address has been recorded: what was known if it
had that address. -/
def Operator.recorded (known : Option Operator) (id : OperatorId) (address : String) : Operator :=
  (known.filter fun operator => operator.address = address).getD (.ofAddress id address)

namespace Operator

variable {known : Option Operator} {operator : Operator} {id : OperatorId} {address : String}

theorem recorded_of_known (same : operator.address = address) :
    recorded (some operator) id address = operator := by
  simp [recorded, Option.filter, same]

theorem recorded_of_unknown (unknown : known.map Operator.address ≠ some address) :
    recorded known id address = .ofAddress id address := by
  cases known with
  | none => rfl
  | some operator =>
    have differ : operator.address ≠ address := by simpa using unknown
    simp [recorded, Option.filter, differ]

theorem address_recorded (known : Option Operator) (id : OperatorId) (address : String) :
    (recorded known id address).address = address := by
  by_cases there : known.map Operator.address = some address
  · obtain ⟨operator, rfl, same⟩ := Option.map_eq_some_iff.mp there
    rw [recorded_of_known same]
    exact same
  · rw [recorded_of_unknown there]
    rfl

/-- The id is that of the operator unless another's record with its address was known. -/
theorem id_recorded
    (own : ∀ operator ∈ known, operator.address = address → operator.id = id) :
    (recorded known id address).id = id := by
  by_cases there : known.map Operator.address = some address
  · obtain ⟨operator, rfl, same⟩ := Option.map_eq_some_iff.mp there
    rw [recorded_of_known same]
    exact own operator rfl same
  · rw [recorded_of_unknown there]
    rfl

end Operator

/-- Every record is stored under the key of the id that it bears. -/
def Filed (content : Bytes → Option Bytes) : Prop :=
  ∀ id, ∀ operator ∈ storedOperator content id, operator.id = id

/-- What is stored about an operator after the addresses of a session have been recorded. -/
def Session.recorded (session : Session) (content : Bytes → Option Bytes) (id : OperatorId) :
    Option Operator :=
  match session.addressOf id with
  | some address => some (.recorded (storedOperator content id) id address)
  | none => storedOperator content id

/-- What is put under the key of an operator when the addresses of a session are recorded, if
anything is. -/
def Session.renewal? (session : Session) (content : Bytes → Option Bytes) (id : OperatorId) :
    Option Bytes :=
  (session.addressOf id).bind fun address =>
    if (storedOperator content id).map Operator.address = some address then none
    else some (Operator.format.encode (.ofAddress id address))

namespace Session

variable {session : Session} {before middle after : Bytes → Option Bytes}
  {ids rest : List OperatorId} {id : OperatorId}

theorem renewal?_congr (same : before (operatorKey id) = after (operatorKey id)) :
    session.renewal? before id = session.renewal? after id := by
  rw [renewal?, renewal?, storedOperator_congr same]

/-- Under the keys of some operators is what recording has put there, and nothing else has
changed. -/
structure Renews (session : Session) (ids : List OperatorId) (before after : Bytes → Option Bytes) :
    Prop where
  renewed : ∀ id ∈ ids,
    after (operatorKey id) = (session.renewal? before id).or (before (operatorKey id))
  untouched : ∀ key, (∀ id ∈ ids, key ≠ operatorKey id) → after key = before key

namespace Renews

theorem refl_of_none (nothing : session.renewal? before id = none) :
    session.Renews [id] before before where
  renewed other member := by
    obtain rfl := List.mem_singleton.mp member
    rw [nothing, Option.none_or]
  untouched _ _ := rfl

theorem untouched_of_foreign (renews : session.Renews ids before after) (foreign : id ∉ ids) :
    after (operatorKey id) = before (operatorKey id) :=
  renews.untouched _ fun _ member same => foreign (operatorKey_injective same ▸ member)

/-- What is under the keys of the operators behind the first is still what it was at the
beginning. -/
theorem cons (first : session.Renews [id] before middle) (fresh : id ∉ rest)
    (later : session.Renews rest middle after) : session.Renews (id :: rest) before after where
  renewed other member := by
    rcases List.mem_cons.mp member with rfl | behind
    · rw [later.untouched_of_foreign fresh, first.renewed other List.mem_cons_self]
    · have same : middle (operatorKey other) = before (operatorKey other) :=
        first.untouched_of_foreign fun own => fresh (List.mem_singleton.mp own ▸ behind)
      rw [later.renewed other behind, renewal?_congr same, same]
  untouched key foreign := by
    obtain ⟨own, others⟩ := List.forall_mem_cons.mp foreign
    rw [later.untouched key others, first.untouched key (by simpa using own)]

/-- What is stored then is what recording leaves. -/
theorem stored (renews : session.Renews ids before after) (member : id ∈ ids) :
    storedOperator after id = session.recorded before id := by
  have there := renews.renewed id member
  unfold recorded
  unfold renewal? at there
  cases named : session.addressOf id with
  | none =>
    rw [named, Option.bind_none, Option.none_or] at there
    exact storedOperator_congr there
  | some address =>
    rw [named, Option.bind_some] at there
    change storedOperator after id = some (.recorded (storedOperator before id) id address)
    split_ifs at there with same
    · obtain ⟨operator, known, had⟩ := Option.map_eq_some_iff.mp same
      rw [known, Operator.recorded_of_known had, storedOperator_congr there, known]
    · rw [Operator.recorded_of_unknown same]
      exact storedOperator_encode there

theorem stored_of_foreign (renews : session.Renews ids before after) (foreign : id ∉ ids) :
    storedOperator after id = storedOperator before id :=
  storedOperator_congr (renews.untouched_of_foreign foreign)

end Renews

end Session

namespace Store

variable {σ : Type} {store : Store σ} {sound clear : σ → Prop} {keys : Bytes → Prop}
  {content : σ → Bytes → Option Bytes} {state next : σ} {id : OperatorId} {address : String}
  {session : Session}

/-- Stores the address that a session says of an operator. -/
def recordNamed (store : Store σ) (session : Session) (id : OperatorId) : Effect σ Unit :=
  match session.addressOf id with
  | some address => store.recordAddress id address
  | none => return ()

theorem recordOperators_eq_forM :
    store.recordOperators session = session.allIds.forM (store.recordNamed session) := rfl

/-! ### What has been done -/

namespace Keeps

theorem getOperator_eq_ok {known : Option Operator} (keeps : store.Keeps sound content)
    (here : sound state) (got : (store.getOperator id).perform state = (.ok known, next)) :
    known = storedOperator (content state) id ∧ next = state := by
  obtain ⟨value, middle, read, rest⟩ := Effect.perform_bind_eq_ok got
  obtain ⟨rfl, rfl⟩ := keeps.get here read
  unfold storedOperator
  cases there : content middle (operatorKey id) with
  | none =>
    rw [there] at rest
    cases rest
    exact ⟨rfl, rfl⟩
  | some bytes =>
    rw [there] at rest
    cases decoded : Operator.format.decode bytes with
    | ok operator =>
      simp only [decoded] at rest
      cases rest
      exact ⟨by simp [decoded, Except.toOption], rfl⟩
    | error fault =>
      simp only [decoded] at rest
      cases rest

theorem recordAddress_eq_ok (keeps : store.Keeps sound content) (here : sound state)
    (named : session.addressOf id = some address)
    (done : (store.recordAddress id address).perform state = (.ok (), next)) :
    sound next ∧ session.Renews [id] (content state) (content next) := by
  obtain ⟨known, middle, got, rest⟩ := Effect.perform_bind_eq_ok done
  obtain ⟨rfl, rfl⟩ := keeps.getOperator_eq_ok here got
  split_ifs at rest with same
  · cases rest
    refine ⟨here, .refl_of_none ?_⟩
    rw [Session.renewal?, named, Option.bind_some, if_pos same]
  · obtain ⟨later, changed⟩ : sound next ∧ ∀ other, content next other =
        if other = operatorKey id then some (Operator.format.encode (.ofAddress id address))
        else content middle other := keeps.put here rest
    have renewal : session.renewal? (content middle) id =
        some (Operator.format.encode (.ofAddress id address)) := by
      rw [Session.renewal?, named, Option.bind_some, if_neg same]
    refine ⟨later, fun other member => ?_, fun key foreign => ?_⟩
    · obtain rfl := List.mem_singleton.mp member
      rw [changed, if_pos rfl, renewal, Option.some_or]
    · rw [changed, if_neg (foreign id List.mem_cons_self)]

theorem recordNamed_eq_ok (keeps : store.Keeps sound content) (here : sound state)
    (done : (store.recordNamed session id).perform state = (.ok (), next)) :
    sound next ∧ session.Renews [id] (content state) (content next) := by
  unfold recordNamed at done
  cases named : session.addressOf id with
  | some address =>
    rw [named] at done
    exact keeps.recordAddress_eq_ok here named done
  | none =>
    rw [named] at done
    cases done
    exact ⟨here, .refl_of_none (by simp [Session.renewal?, named])⟩

/-- The addresses of some operators have been recorded, each once. -/
theorem forM_recordNamed_eq_ok (keeps : store.Keeps sound content) {ids : List OperatorId}
    (once : ids.Nodup) (here : sound state)
    (done : Effect.perform (ids.forM (store.recordNamed session)) state = (.ok (), next)) :
    sound next ∧ session.Renews ids (content state) (content next) := by
  induction ids generalizing state with
  | nil =>
    cases done
    exact ⟨here, nofun, fun _ _ => rfl⟩
  | cons id rest ih =>
    obtain ⟨fresh, later⟩ := List.nodup_cons.mp once
    obtain ⟨⟨⟩, middle, first, others⟩ := Effect.perform_bind_eq_ok done
    obtain ⟨soundMiddle, step⟩ := keeps.recordNamed_eq_ok here first
    obtain ⟨soundNext, renews⟩ := ih later soundMiddle others
    exact ⟨soundNext, step.cons fresh renews⟩

/-- Recording the operators of a session renews what is under their keys. -/
theorem renews_of_recordOperators (keeps : store.Keeps sound content) (here : sound state)
    (done : (store.recordOperators session).perform state = (.ok (), next)) :
    sound next ∧ session.Renews session.allIds (content state) (content next) := by
  rw [recordOperators_eq_forM] at done
  exact keeps.forM_recordNamed_eq_ok session.nodup_allIds here done

/-- Recording the operators of a session stores each under its own key, and leaves what is stored
under the keys of others. -/
theorem recordOperators_eq_ok (keeps : store.Keeps sound content) (here : sound state)
    (done : (store.recordOperators session).perform state = (.ok (), next)) :
    sound next ∧ ∀ id, storedOperator (content next) id = session.recorded (content state) id := by
  obtain ⟨later, renews⟩ := keeps.renews_of_recordOperators here done
  refine ⟨later, fun id => ?_⟩
  by_cases named : id ∈ session.allIds
  · exact renews.stored named
  · rw [renews.stored_of_foreign named, Session.recorded,
      session.addressOf_eq_none_iff.mpr named]

/-- No record is misfiled by recording. -/
theorem filed_of_recordOperators (keeps : store.Keeps sound content) (here : sound state)
    (done : (store.recordOperators session).perform state = (.ok (), next))
    (filed : Filed (content state)) : Filed (content next) := by
  intro id operator there
  rw [(keeps.recordOperators_eq_ok here done).2, Session.recorded] at there
  cases named : session.addressOf id with
  | none =>
    rw [named] at there
    exact filed id operator there
  | some address =>
    rw [named] at there
    obtain rfl := Option.some.inj there
    exact Operator.id_recorded fun operator known _ => filed id operator known

/-- A lookup tells what is stored. -/
theorem lookup_eq_ok {fallback : Option (OperatorId → Except Error Operator)}
    {operator known : Operator} (keeps : store.Keeps sound content) (here : sound state)
    (there : storedOperator (content state) id = some known)
    (got : (store.lookup fallback id).perform state = (.ok operator, next)) :
    operator = known ∧ next = state := by
  obtain ⟨found, middle, first, rest⟩ := Effect.perform_bind_eq_ok got
  obtain ⟨rfl, rfl⟩ := keeps.getOperator_eq_ok here first
  rw [there] at rest
  cases rest
  exact ⟨rfl, rfl⟩

end Keeps

/-! ### What can be got -/

namespace Shows

variable (shows : store.Shows keys clear content) (among : keys (operatorKey id))
  (here : clear state)

include shows among here

theorem perform_getOperator {known : Operator}
    (there : storedOperator (content state) id = some known) :
    (store.getOperator id).perform state = (.ok (some known), state) := by
  obtain ⟨bytes, present, decoded⟩ := Option.bind_eq_some_iff.mp there
  refine (Effect.perform_bind_ok (shows.get among here present)).trans ?_
  cases read : Operator.format.decode bytes with
  | ok operator =>
    rw [read] at decoded
    cases decoded
    simp only [read]
    rfl
  | error fault =>
    rw [read] at decoded
    cases decoded

/-- What is stored is looked up without asking anybody. -/
theorem perform_lookup {fallback : Option (OperatorId → Except Error Operator)} {known : Operator}
    (there : storedOperator (content state) id = some known) :
    (store.lookup fallback id).perform state = (.ok known, state) :=
  Effect.perform_bind_ok (shows.perform_getOperator among here there)

/-- An address that is known is not recorded again. -/
theorem perform_recordNamed
    (known : (storedOperator (content state) id).map Operator.address = session.addressOf id) :
    (store.recordNamed session id).perform state = (.ok (), state) := by
  unfold recordNamed
  cases named : session.addressOf id with
  | none => rfl
  | some address =>
    rw [named] at known
    obtain ⟨operator, there, had⟩ := Option.map_eq_some_iff.mp known
    refine (Effect.perform_bind_ok (shows.perform_getOperator among here there)).trans ?_
    rw [if_pos (by rw [Option.map_some, had])]
    rfl

end Shows

/-- Addresses that are known are not recorded again. -/
theorem Shows.perform_recordOperators (shows : store.Shows keys clear content)
    (among : ∀ id ∈ session.allIds, keys (operatorKey id)) (here : clear state)
    (known : ∀ id ∈ session.allIds,
      (storedOperator (content state) id).map Operator.address = session.addressOf id) :
    (store.recordOperators session).perform state = (.ok (), state) := by
  rw [recordOperators_eq_forM]
  exact Effect.perform_forM_of_idle fun id member =>
    shows.perform_recordNamed (among id member) here (known id member)

/-! ### Where nothing is in the way -/

namespace Serves

variable (serves : store.Serves keys clear) (keeps : store.Keeps sound content)
  (sounds : ∀ {state}, clear state → sound state)

include serves keeps sounds

theorem perform_getOperator (among : keys (operatorKey id)) (here : clear state)
    (readable : Readable (content state) id) :
    (store.getOperator id).perform state = (.ok (storedOperator (content state) id), state) := by
  obtain ⟨value, got⟩ := serves.get among here
  obtain ⟨rfl, -⟩ := keeps.get (sounds here) got
  refine (Effect.perform_bind_ok got).trans ?_
  unfold storedOperator
  cases there : content state (operatorKey id) with
  | none => rfl
  | some bytes =>
    obtain ⟨operator, decoded⟩ := readable bytes there
    simp only [Option.bind_some, decoded]
    rfl

/-- An address can be recorded, after which everything can be read that could be read before. -/
theorem exists_recordAddress (address : String) (among : keys (operatorKey id)) (here : clear state)
    (readable : Readable (content state) id) :
    ∃ next, (store.recordAddress id address).perform state = (.ok (), next) ∧ clear next ∧
      ∀ other, Readable (content state) other → Readable (content next) other := by
  have got := perform_getOperator serves keeps sounds among here readable
  by_cases same : (storedOperator (content state) id).map Operator.address = some address
  · refine ⟨state, (Effect.perform_bind_ok got).trans ?_, here, fun _ legible => legible⟩
    rw [if_pos same]
    rfl
  · obtain ⟨next, done, later⟩ :=
      serves.put (Operator.format.encode (.ofAddress id address)) among here
    refine ⟨next, (Effect.perform_bind_ok got).trans ?_, later, fun other legible bytes there => ?_⟩
    · rw [if_neg same]
      exact done
    · rw [(keeps.put (sounds here) done).2] at there
      split_ifs at there with own
      · obtain rfl := Option.some.inj there
        exact ⟨_, (Operator.faithful_format _).decode_encode⟩
      · exact legible bytes there

theorem exists_recordNamed (session : Session) (among : keys (operatorKey id)) (here : clear state)
    (readable : Readable (content state) id) :
    ∃ next, (store.recordNamed session id).perform state = (.ok (), next) ∧ clear next ∧
      ∀ other, Readable (content state) other → Readable (content next) other := by
  unfold recordNamed
  cases session.addressOf id with
  | some address => exact exists_recordAddress serves keeps sounds address among here readable
  | none => exact ⟨state, rfl, here, fun _ same => same⟩

theorem exists_forM_recordNamed (session : Session) {ids : List OperatorId}
    (among : ∀ id ∈ ids, keys (operatorKey id)) (here : clear state)
    (readable : ∀ id ∈ ids, Readable (content state) id) :
    ∃ next, Effect.perform (ids.forM (store.recordNamed session)) state = (.ok (), next) ∧
      clear next := by
  induction ids generalizing state with
  | nil => exact ⟨state, rfl, here⟩
  | cons id rest ih =>
    obtain ⟨amongFirst, amongRest⟩ := List.forall_mem_cons.mp among
    obtain ⟨first, others⟩ := List.forall_mem_cons.mp readable
    obtain ⟨middle, recorded, clearMiddle, legible⟩ :=
      exists_recordNamed serves keeps sounds session amongFirst here first
    obtain ⟨next, done, later⟩ :=
      ih amongRest clearMiddle fun other member => legible other (others other member)
    exact ⟨next, (Effect.perform_bind_ok recorded).trans done, later⟩

/-- If what is stored about the operators of a session can be read, their addresses can be
recorded. -/
theorem exists_recordOperators (among : ∀ id ∈ session.allIds, keys (operatorKey id))
    (here : clear state) (readable : ∀ id ∈ session.allIds, Readable (content state) id) :
    ∃ next, (store.recordOperators session).perform state = (.ok (), next) ∧ clear next := by
  rw [recordOperators_eq_forM]
  exact exists_forM_recordNamed serves keeps sounds session among here readable

end Serves

end Store

end Resharing
