import Mathlib.Data.List.Induction
import Resharing.Proofs.Directory.Recording
import Resharing.Proofs.Store.Keeping
import Resharing.Proofs.Text.Hex

/-!
# What a store tells of operators and validators

Operators and key generations lie in one store, each under a key made of its id or of its validator
key. No two of these keys are the same, so what is told about one of them is the last record that
was put for it. Lookups put records too: what a fallback has answered is put, and from then on it
is told without the fallback.

## Main definitions

* `Subject`: an operator or a validator
* `Store.Act`, `Store.Runs`: what is done with the records in a store, and the state then
* `Store.lastOperator`, `Store.lastOutput`: the records that were put last
* `Store.Recalls`: what is under the keys is what was put last

## Main results

* `Subject.key_injective`: all keys differ
* `Store.Does.leaves_or_puts`: what one act can do to the state
* `Store.Runs.recalls`: what a whole run has left
* `Store.lookup_again`: what a lookup has told is told again
* `Store.answers_last`: every question is answered with the record that was put last
-/

namespace Resharing

/-! ### Keys -/

theorem keyGenerationKey_eq (key : Bytes) :
    keyGenerationKey key = Bytes.ofText "keygen/" ++ Hex.digits key := by
  rw [← Hex.ofText_encode]
  simp [keyGenerationKey, Bytes.ofText]

/-- What a record in a store is about. -/
inductive Subject where
  | operator (id : OperatorId)
  | validator (key : Bytes)
  deriving DecidableEq

def Subject.key : Subject → Bytes
  | .operator id => operatorKey id
  | .validator key => keyGenerationKey key

/-- The key of an operator and that of a validator differ in their first sign. -/
theorem operatorKey_ne_keyGenerationKey (id : OperatorId) (key : Bytes) :
    operatorKey id ≠ keyGenerationKey key := by
  intro same
  rw [operatorKey_eq, keyGenerationKey_eq] at same
  have operators : Bytes.ofText "operator/" = 111 :: Bytes.ofText "perator/" := by decide
  have validators : Bytes.ofText "keygen/" = 107 :: Bytes.ofText "eygen/" := by decide
  rw [operators, validators] at same
  exact absurd (List.head_eq_of_cons_eq same) (by decide)

theorem keyGenerationKey_injective : Function.Injective keyGenerationKey := by
  intro left right same
  rw [keyGenerationKey_eq, keyGenerationKey_eq] at same
  have digits := List.append_cancel_left same
  rw [← Hex.ofText_encode, ← Hex.ofText_encode] at digits
  exact Hex.encode_injective (Bytes.ofText_injective digits)

/-- Each operator and each validator has a key of its own. -/
theorem Subject.key_injective : Function.Injective Subject.key := by
  intro left right same
  cases left with
  | operator id =>
    cases right with
    | operator other => exact congrArg Subject.operator (operatorKey_injective same)
    | validator key => exact absurd same (operatorKey_ne_keyGenerationKey id key)
  | validator key =>
    cases right with
    | operator id => exact absurd same.symm (operatorKey_ne_keyGenerationKey id key)
    | validator other => exact congrArg Subject.validator (keyGenerationKey_injective same)

namespace Store

/-- Whoever is asked about what is not stored, if anybody is. -/
abbrev Fallback := Option (OperatorId → Except Error Operator)

/-- What is answered about an operator is a record with its id. -/
def Honest (fallback : Fallback) (id : OperatorId) : Prop :=
  ∀ ask ∈ fallback, ∀ operator, ask id = .ok operator → operator.id = id

theorem honest_none (id : OperatorId) : Honest none id :=
  fun _ nobody => absurd nobody (Option.not_mem_none _)

/-- Something that is done with the records in a store, and what comes of it. -/
inductive Act where
  | putOperator (operator : Operator) (result : Except Error Unit)
  | lookup (fallback : Fallback) (id : OperatorId) (answer : Except Error Operator)
  | save (output : KeyGeneration) (result : Except Error Unit)
  | getOperator (id : OperatorId) (answer : Except Error (Option Operator))
  | getKeyGeneration (key : Bytes) (answer : Except Error (Option KeyGeneration))

namespace Act

def subject : Act → Subject
  | .putOperator operator _ => .operator operator.id
  | .lookup _ id _ | .getOperator id _ => .operator id
  | .save output _ => .validator output.validatorKey
  | .getKeyGeneration key _ => .validator key

/-- The record that is under the key of its subject because of an act. A lookup puts what the
fallback has answered, and leaves what it has found. -/
def record? : Act → Option Bytes
  | .putOperator operator (.ok ()) => some (Operator.format.encode operator)
  | .lookup _ _ (.ok operator) => some (Operator.format.encode operator)
  | .save output (.ok ()) => some (KeyGeneration.format.encode output)
  | _ => none

def Fails : Act → Prop
  | .putOperator _ result => ∃ error, result = .error error
  | .lookup _ _ answer => ∃ error, answer = .error error
  | .save _ result => ∃ error, result = .error error
  | .getOperator _ answer => ∃ error, answer = .error error
  | .getKeyGeneration _ answer => ∃ error, answer = .error error

theorem Fails.record?_eq_none {act : Act} (fails : act.Fails) : act.record? = none := by
  cases act <;> obtain ⟨error, rfl⟩ := fails <;> rfl

/-- Whoever is asked is honest. -/
def Honest : Act → Prop
  | .lookup fallback id _ => Store.Honest fallback id
  | _ => True

/-- The record of an operator that is put, or told by a lookup. -/
def operator? (id : OperatorId) : Act → Option Operator
  | .putOperator operator (.ok ()) => if operator.id = id then some operator else none
  | .lookup _ asked (.ok operator) => if asked = id then some operator else none
  | _ => none

/-- The key generation that is saved for a validator. -/
def output? (key : Bytes) : Act → Option KeyGeneration
  | .save output (.ok ()) => if output.validatorKey = key then some output else none
  | _ => none

/-- What is put for a subject. -/
def recordOf? (subject : Subject) (act : Act) : Option Bytes :=
  if act.subject = subject then act.record? else none

theorem operator?_eq_some {act : Act} {id : OperatorId} {operator : Operator} :
    act.operator? id = some operator ↔
      (act = .putOperator operator (.ok ()) ∧ operator.id = id) ∨
        ∃ fallback, act = .lookup fallback id (.ok operator) := by
  unfold operator?
  grind

theorem recordOf?_operator (id : OperatorId) (act : Act) :
    act.recordOf? (.operator id) = (act.operator? id).map Operator.format.encode := by
  unfold recordOf? operator? record? subject
  grind

theorem recordOf?_validator (key : Bytes) (act : Act) :
    act.recordOf? (.validator key) = (act.output? key).map KeyGeneration.format.encode := by
  unfold recordOf? output? record? subject
  grind

end Act

variable {σ : Type}

/-- What an act makes of a state. -/
def Does (store : Store σ) (state : σ) : Act → σ → Prop
  | .putOperator operator result, next =>
    (store.putOperator operator).perform state = (result, next)
  | .lookup fallback id answer, next => (store.lookup fallback id).perform state = (answer, next)
  | .save output result, next => (store.saveKeyGeneration output).perform state = (result, next)
  | .getOperator id answer, next => (store.getOperator id).perform state = (answer, next)
  | .getKeyGeneration key answer, next =>
    (store.getKeyGeneration key).perform state = (answer, next)

/-- One act after another. -/
inductive Runs (store : Store σ) (start : σ) : List Act → σ → Prop
  | start : Runs store start [] start
  | act {acts : List Act} {act : Act} {state next : σ} (runs : Runs store start acts state)
      (does : store.Does state act next) : Runs store start (acts ++ [act]) next

/-- The record of an operator that was put last, or told by a lookup last. -/
def lastOperator (acts : List Act) (id : OperatorId) : Option Operator :=
  (acts.filterMap (Act.operator? id)).getLast?

/-- The key generation that was saved last for a validator. -/
def lastOutput (acts : List Act) (key : Bytes) : Option KeyGeneration :=
  (acts.filterMap (Act.output? key)).getLast?

/-- What was put last for a subject. -/
def lastRecord (acts : List Act) (subject : Subject) : Option Bytes :=
  (acts.filterMap (Act.recordOf? subject)).getLast?

variable {acts : List Act} {act : Act} {id : OperatorId} {key : Bytes}

theorem lastOperator_concat :
    lastOperator (acts ++ [act]) id = (act.operator? id).or (lastOperator acts id) := by
  cases told : act.operator? id <;> simp [lastOperator, told]

theorem lastOutput_concat :
    lastOutput (acts ++ [act]) key = (act.output? key).or (lastOutput acts key) := by
  cases told : act.output? key <;> simp [lastOutput, told]

theorem lastRecord_concat (subject : Subject) :
    lastRecord (acts ++ [act]) subject = (act.recordOf? subject).or (lastRecord acts subject) := by
  cases told : act.recordOf? subject <;> simp [lastRecord, told]

theorem lastRecord_operator (acts : List Act) (id : OperatorId) :
    lastRecord acts (.operator id) = (lastOperator acts id).map Operator.format.encode := by
  rw [lastRecord, funext (Act.recordOf?_operator id), ← List.map_filterMap, List.getLast?_map]
  rfl

theorem lastRecord_validator (acts : List Act) (key : Bytes) :
    lastRecord acts (.validator key) = (lastOutput acts key).map KeyGeneration.format.encode := by
  rw [lastRecord, funext (Act.recordOf?_validator key), ← List.map_filterMap, List.getLast?_map]
  rfl

/-- What is done about others leaves the last record of an operator the last one. -/
theorem lastOperator_of_apart (apart : act.subject ≠ .operator id) :
    lastOperator (acts ++ [act]) id = lastOperator acts id := by
  have nothing := (act.recordOf?_operator id).symm.trans (if_neg apart)
  rw [lastOperator_concat, Option.map_eq_none_iff.mp nothing, Option.none_or]

theorem lastOutput_of_apart (apart : act.subject ≠ .validator key) :
    lastOutput (acts ++ [act]) key = lastOutput acts key := by
  have nothing := (act.recordOf?_validator key).symm.trans (if_neg apart)
  rw [lastOutput_concat, Option.map_eq_none_iff.mp nothing, Option.none_or]

/-- Under every key is what was put last for its subject. -/
structure Recalls (content : Bytes → Option Bytes) (acts : List Act) : Prop where
  same : ∀ subject : Subject, content subject.key = lastRecord acts subject
  filed : ∀ id, ∀ operator ∈ lastOperator acts id, operator.id = id

namespace Recalls

variable {content : Bytes → Option Bytes}

theorem operator (recalls : Recalls content acts) (id : OperatorId) :
    content (operatorKey id) = (lastOperator acts id).map Operator.format.encode :=
  (recalls.same (.operator id)).trans (lastRecord_operator acts id)

theorem output (recalls : Recalls content acts) (key : Bytes) :
    content (keyGenerationKey key) = (lastOutput acts key).map KeyGeneration.format.encode :=
  (recalls.same (.validator key)).trans (lastRecord_validator acts key)

theorem storedOperator_eq (recalls : Recalls content acts) (id : OperatorId) :
    storedOperator content id = lastOperator acts id := by
  have there := recalls.operator id
  cases last : lastOperator acts id with
  | none => simp [storedOperator, there, last]
  | some operator => exact storedOperator_encode (by rw [there, last]; rfl)

theorem readable (recalls : Recalls content acts) (id : OperatorId) : Readable content id := by
  intro bytes there
  rw [recalls.operator] at there
  obtain ⟨operator, -, rfl⟩ := Option.map_eq_some_iff.mp there
  exact ⟨operator, (Operator.faithful_format operator).decode_encode⟩

end Recalls

/-- What a lookup tells, given what is stored. -/
def told (stored : Option Operator) (fallback : Fallback) (id : OperatorId) :
    Except Error Operator :=
  match stored, fallback with
  | some operator, _ => .ok operator
  | none, none => .error (.operatorNotFound id)
  | none, some ask => ask id

variable {store : Store σ} {keys : Bytes → Prop} {sound clear : σ → Prop}
  {content : σ → Bytes → Option Bytes} {start state next : σ} {fallback : Fallback}

section Steps

variable (serves : store.Serves keys clear) (keeps : store.Keeps sound content)
  (sounds : ∀ {state}, clear state → sound state) (here : clear state)
  (recalls : Recalls (content state) acts)

include serves keeps sounds here

/-- A value is put. -/
theorem exists_put (value : Bytes) (among : keys key) :
    ∃ next, (store.put key value).perform state = (.ok (), next) ∧ clear next ∧
      ∀ other, content next other = if other = key then some value else content state other := by
  obtain ⟨next, done, later⟩ := serves.put value among here
  exact ⟨next, done, later, (keeps.put (sounds here) done).2⟩

include recalls

theorem perform_getOperator (among : keys (operatorKey id)) :
    (store.getOperator id).perform state = (.ok (lastOperator acts id), state) := by
  rw [serves.perform_getOperator keeps sounds among here (recalls.readable id),
    recalls.storedOperator_eq]

theorem perform_getKeyGeneration (among : keys (keyGenerationKey key)) :
    (store.getKeyGeneration key).perform state = (.ok (lastOutput acts key), state) := by
  obtain ⟨value, got⟩ := serves.get among here
  obtain ⟨rfl, -⟩ := keeps.get (sounds here) got
  refine (Effect.perform_bind_ok got).trans ?_
  rw [recalls.output]
  cases lastOutput acts key with
  | none => rfl
  | some output =>
    have read := (KeyGeneration.faithful_format output).decode_encode
    simp only [Option.map_some, read]
    rfl

/-- What is stored is told, and the fallback makes no difference. -/
theorem perform_lookup_of_last {operator : Operator} (among : keys (operatorKey id))
    (last : lastOperator acts id = some operator) :
    (store.lookup fallback id).perform state = (.ok operator, state) :=
  (serves.shows keeps sounds).perform_lookup among here ((recalls.storedOperator_eq id).trans last)

/-- What a lookup tells, and the state then: a record that is told is under the key of the
operator, and a refusal leaves everything as it was. -/
theorem exists_lookup (among : keys (operatorKey id))
    (honest : Honest fallback id) :
    ∃ next, (store.lookup fallback id).perform state =
        (told (lastOperator acts id) fallback id, next) ∧ clear next ∧
      match told (lastOperator acts id) fallback id with
      | .ok operator => operator.id = id ∧ ∀ other, content next other =
          if other = operatorKey id then some (Operator.format.encode operator)
          else content state other
      | .error _ => next = state := by
  cases last : lastOperator acts id with
  | some operator =>
    have there := recalls.operator id
    refine ⟨state, perform_lookup_of_last serves keeps sounds here recalls among last, here,
      recalls.filed id operator last, fun other => ?_⟩
    rw [last] at there
    split_ifs with same
    · rw [same, there, Option.map_some]
    · rfl
  | none =>
    have got := perform_getOperator serves keeps sounds here recalls among
    rw [last] at got
    cases fallback with
    | none => exact ⟨state, Effect.perform_bind_ok got, here, rfl⟩
    | some ask =>
      cases asked : ask id with
      | error error =>
        have refused : (Effect.ofResult (ask id)).perform state = (.error error, state) := by
          rw [asked]
          rfl
        simp only [told, asked]
        exact ⟨state, (Effect.perform_bind_ok got).trans (Effect.perform_bind_error refused), here,
          rfl⟩
      | ok operator =>
        -- The answer is put under the key of its own id, which is the one that was asked about.
        have own := honest ask rfl operator asked
        have answered : (Effect.ofResult (ask id)).perform state = (.ok operator, state) := by
          rw [asked]
          rfl
        obtain ⟨next, done, later, changed⟩ := exists_put serves keeps sounds here
          (Operator.format.encode operator) among
        have put : (store.putOperator operator).perform state = (.ok (), next) := by
          rw [putOperator, own, done]
        simp only [told, asked]
        refine ⟨next, (Effect.perform_bind_ok got).trans ?_, later, own, changed⟩
        exact (Effect.perform_bind_ok answered).trans (Effect.perform_bind_ok put)

/-- What one act can do to the state: nothing, or put its record under the key of its subject. -/
theorem Does.leaves_or_puts (does : store.Does state act next) (among : keys act.subject.key)
    (honest : act.Honest) :
    (act.record? = none ∧ next = state) ∨ ∃ record, act.record? = some record ∧ clear next ∧
      ∀ key, content next key = if key = act.subject.key then some record
        else content state key := by
  cases act with
  | putOperator operator result =>
    obtain ⟨last, done, later, changed⟩ := exists_put serves keeps sounds here
      (Operator.format.encode operator) among
    obtain ⟨rfl, rfl⟩ := Prod.mk.inj (done.symm.trans does)
    exact .inr ⟨_, rfl, later, changed⟩
  | lookup fallback id answer =>
    obtain ⟨last, done, later, told⟩ :=
      exists_lookup serves keeps sounds here recalls among honest
    obtain ⟨rfl, rfl⟩ := Prod.mk.inj (done.symm.trans does)
    split at told
    case h_1 operator answered => exact .inr ⟨_, by rw [answered]; rfl, later, told.2⟩
    case h_2 error refused => exact .inl ⟨by rw [refused]; rfl, told⟩
  | save output result =>
    by_cases empty : output.validatorKey = []
    · have refused : (store.saveKeyGeneration output).perform state =
          (.error (.storage "key generation output without validator key"), state) := by
        rw [saveKeyGeneration, if_pos empty]
        rfl
      obtain ⟨rfl, rfl⟩ := Prod.mk.inj (refused.symm.trans does)
      exact .inl ⟨rfl, rfl⟩
    · obtain ⟨last, done, later, changed⟩ := exists_put serves keeps sounds here
        (KeyGeneration.format.encode output) among
      have saved : (store.saveKeyGeneration output).perform state = (.ok (), last) := by
        rw [saveKeyGeneration, if_neg empty, ← done]
        rfl
      obtain ⟨rfl, rfl⟩ := Prod.mk.inj (saved.symm.trans does)
      exact .inr ⟨_, rfl, later, changed⟩
  | getOperator id answer =>
    have got := perform_getOperator serves keeps sounds here recalls among
    obtain ⟨rfl, rfl⟩ := Prod.mk.inj (got.symm.trans does)
    exact .inl ⟨rfl, rfl⟩
  | getKeyGeneration key answer =>
    have got := perform_getKeyGeneration serves keeps sounds here recalls among
    obtain ⟨rfl, rfl⟩ := Prod.mk.inj (got.symm.trans does)
    exact .inl ⟨rfl, rfl⟩

/-- An act that puts or tells a record of an operator puts or tells one with its id. -/
theorem Does.filed (does : store.Does state act next) (among : keys act.subject.key)
    (honest : act.Honest) : ∀ operator ∈ act.operator? id, operator.id = id := by
  intro operator there
  obtain ⟨rfl, own⟩ | ⟨fallback, rfl⟩ := Act.operator?_eq_some.mp there
  · exact own
  · obtain ⟨last, done, -, told⟩ := exists_lookup serves keeps sounds here recalls among honest
    rw [(Prod.mk.inj (done.symm.trans does)).1] at told
    exact told.1

/-- An act goes on with what was put last. -/
theorem Does.recalled (does : store.Does state act next) (among : keys act.subject.key)
    (honest : act.Honest) : clear next ∧ Recalls (content next) (acts ++ [act]) := by
  have filed : ∀ id, ∀ operator ∈ lastOperator (acts ++ [act]) id, operator.id = id := by
    intro id operator there
    rw [lastOperator_concat, Option.mem_def, Option.or_eq_some_iff] at there
    obtain now | ⟨-, before⟩ := there
    · exact does.filed serves keeps sounds here recalls among honest operator now
    · exact recalls.filed id operator before
  obtain ⟨nothing, rfl⟩ | ⟨record, put, later, changed⟩ :=
    does.leaves_or_puts serves keeps sounds here recalls among honest
  · refine ⟨here, fun subject => ?_, filed⟩
    rw [lastRecord_concat, recalls.same, Act.recordOf?, nothing, ite_self, Option.none_or]
  · refine ⟨later, fun subject => ?_, filed⟩
    rw [lastRecord_concat, changed, recalls.same, Act.recordOf?, put]
    by_cases own : act.subject = subject
    · rw [if_pos own, if_pos (congrArg Subject.key own.symm), Option.some_or]
    · have apart : subject.key ≠ act.subject.key :=
        fun same => own (Subject.key_injective same.symm)
      rw [if_neg own, if_neg apart, Option.none_or]

end Steps

/-! ### What has been done -/

/-- The last act of a run is done from where the others have led. -/
theorem runs_concat : store.Runs start (acts ++ [act]) next ↔
    ∃ state, store.Runs start acts state ∧ store.Does state act next := by
  refine ⟨fun runs => ?_, fun ⟨state, runs, does⟩ => .act runs does⟩
  generalize whole : acts ++ [act] = all at runs
  cases runs with
  | start => exact absurd whole (by simp)
  | act runs does =>
    obtain ⟨rfl, last⟩ := List.append_inj' whole rfl
    obtain rfl := List.head_eq_of_cons_eq last
    exact ⟨_, runs, does⟩

/-- What is done in a run, with keys under which nothing is in the way, and with honest
fallbacks. -/
def Orderly (keys : Bytes → Prop) (acts : List Act) : Prop :=
  ∀ act ∈ acts, keys act.subject.key ∧ act.Honest

section Histories

variable (serves : store.Serves keys clear) (keeps : store.Keeps sound content)
  (sounds : ∀ {state}, clear state → sound state) (here : clear start)
  (empty : ∀ subject : Subject, content start subject.key = none)

include serves keeps sounds here empty

/-- A run leaves what was put last. -/
theorem Runs.recalled (runs : store.Runs start acts state) (orderly : Orderly keys acts) :
    clear state ∧ Recalls (content state) acts := by
  induction runs with
  | start => exact ⟨here, empty, nofun⟩
  | act runs does ih =>
    obtain ⟨earlier, last⟩ := List.forall_mem_append.mp orderly
    obtain ⟨among, honest⟩ := last _ List.mem_cons_self
    obtain ⟨clear, recalls⟩ := ih earlier
    exact does.recalled serves keeps sounds clear recalls among honest

/-- What a lookup has told of an operator is what was put last for it, as long as nobody puts
another record. -/
theorem Runs.lastOperator_of_told {before later : List Act} {operator : Operator}
    (runs : store.Runs start (before ++ .lookup fallback id (.ok operator) :: later) state)
    (orderly : Orderly keys (before ++ .lookup fallback id (.ok operator) :: later))
    (untouched : ∀ other result, .putOperator other result ∈ later → other.id ≠ id) :
    lastOperator (before ++ .lookup fallback id (.ok operator) :: later) id = some operator := by
  -- Later lookups tell what was put last, and nothing else is put for the operator.
  induction later using List.reverseRecOn generalizing state with
  | nil => simp [lastOperator_concat, Act.operator?]
  | append_singleton rest act ih =>
    rw [← List.cons_append, ← List.append_assoc] at runs orderly ⊢
    obtain ⟨middle, ran, does⟩ := runs_concat.mp runs
    obtain ⟨earlier, last⟩ := List.forall_mem_append.mp orderly
    obtain ⟨among, -⟩ := last _ List.mem_cons_self
    have known := ih ran earlier fun other result member =>
      untouched other result (List.mem_append_left _ member)
    rw [lastOperator_concat, known]
    cases told : act.operator? id with
    | none => rfl
    | some other =>
      obtain ⟨rfl, own⟩ | ⟨asked, rfl⟩ := Act.operator?_eq_some.mp told
      · exact absurd own (untouched other _ (List.mem_append_right _ List.mem_cons_self))
      · obtain ⟨clear, recalls⟩ := ran.recalled serves keeps sounds here empty earlier
        have again : (store.lookup asked id).perform middle = (.ok operator, middle) :=
          perform_lookup_of_last serves keeps sounds clear recalls among known
        exact congrArg some (Except.ok.inj (Prod.mk.inj (does.symm.trans again)).1)

/-- Over a store in which nothing was put before, every question is answered with the record that
was put last. A record of an operator bears its id. What is done about one operator or validator
changes no answer about another. A lookup asks the fallback only about what is not stored, so what
it has told is told again, by whatever fallback, until another record is put. What fails leaves
the state as it was. -/
theorem answers_last (runs : store.Runs start acts state) (orderly : Orderly keys acts) :
    (∀ id, keys (operatorKey id) →
      (store.getOperator id).perform state = (.ok (lastOperator acts id), state) ∧
        ∀ operator ∈ lastOperator acts id, operator.id = id) ∧
    (∀ key, keys (keyGenerationKey key) →
      (store.getKeyGeneration key).perform state = (.ok (lastOutput acts key), state)) ∧
    (∀ act next, store.Does state act next → keys act.subject.key → act.Honest →
      (∀ id, keys (operatorKey id) → act.subject ≠ .operator id →
        ((store.getOperator id).perform next).1 = ((store.getOperator id).perform state).1) ∧
      (∀ key, keys (keyGenerationKey key) → act.subject ≠ .validator key →
        ((store.getKeyGeneration key).perform next).1 =
          ((store.getKeyGeneration key).perform state).1) ∧
      (act.Fails → next = state)) ∧
    (∀ id, keys (operatorKey id) →
      (∀ operator, lastOperator acts id = some operator → ∀ fallback,
        (store.lookup fallback id).perform state = (.ok operator, state)) ∧
      (lastOperator acts id = none →
        (store.lookup none id).perform state = (.error (.operatorNotFound id), state) ∧
        ∀ ask, Honest (some ask) id → ((store.lookup (some ask) id).perform state).1 = ask id)) ∧
    ∀ before asked id operator later,
      acts = before ++ .lookup asked id (.ok operator) :: later →
      (∀ other result, .putOperator other result ∈ later → other.id ≠ id) →
      ∀ fallback, (store.lookup fallback id).perform state = (.ok operator, state) := by
  obtain ⟨clear, recalls⟩ := runs.recalled serves keeps sounds here empty orderly
  refine ⟨fun id among => ⟨?_, recalls.filed id⟩, ?_, ?_, fun id among => ⟨?_, fun last => ?_⟩, ?_⟩
  · exact perform_getOperator serves keeps sounds clear recalls among
  · exact fun key among => perform_getKeyGeneration serves keeps sounds clear recalls among
  · intro act next does among honest
    obtain ⟨later, again⟩ := does.recalled serves keeps sounds clear recalls among honest
    refine ⟨fun id among apart => ?_, fun key among apart => ?_, fun fails => ?_⟩
    · rw [perform_getOperator serves keeps sounds clear recalls among,
        perform_getOperator serves keeps sounds later again among, lastOperator_of_apart apart]
    · rw [perform_getKeyGeneration serves keeps sounds clear recalls among,
        perform_getKeyGeneration serves keeps sounds later again among, lastOutput_of_apart apart]
    · obtain ⟨-, same⟩ | ⟨record, put, -⟩ :=
        does.leaves_or_puts serves keeps sounds clear recalls among honest
      · exact same
      · cases put.symm.trans fails.record?_eq_none
  · exact fun operator last fallback =>
      perform_lookup_of_last serves keeps sounds clear recalls among last
  · have asks {fallback : Fallback} (honest : Honest fallback id) :=
      exists_lookup serves keeps sounds clear recalls among honest
    rw [last] at asks
    refine ⟨?_, fun ask honest => ?_⟩
    · obtain ⟨next, done, -, same⟩ := asks (honest_none id)
      rw [done, same]
      rfl
    · obtain ⟨next, done, -⟩ := asks honest
      rw [done]
      rfl
  · rintro before asked id operator later rfl untouched fallback
    have last := runs.lastOperator_of_told serves keeps sounds here empty orderly untouched
    obtain ⟨among, -⟩ := orderly _ (List.mem_append_right _ List.mem_cons_self)
    exact perform_lookup_of_last serves keeps sounds clear recalls among last

end Histories

/-- A fallback that knows one address. -/
def oneAddress : Fallback := some fun id => .ok (.ofAddress id "http://a")

/-- A fallback is asked about operator 7, and a key generation is saved. -/
def askedOnce : List Act :=
  [.lookup oneAddress 7 (.ok (.ofAddress 7 "http://a")),
    .save ⟨[1], .empty, [0xb0], 2⟩ (.ok ())]

theorem answers_last_askedOnce : Orderly (fun _ => True) askedOnce ∧
    ∃ state, ofTable.Runs .empty askedOnce state ∧
      (ofTable.getKeyGeneration [0xb0]).perform state =
        (.ok (some ⟨[1], .empty, [0xb0], 2⟩), state) ∧
      (ofTable.lookup none 7).perform state = (.ok (.ofAddress 7 "http://a"), state) := by
  have honest : Honest oneAddress 7 := by
    rintro ask ⟨⟩ operator ⟨⟩
    rfl
  have orderly : Orderly (fun _ => True) askedOnce := by
    simp [Orderly, askedOnce, Act.Honest, honest]
  let cached := ((ofTable.lookup oneAddress 7).perform .empty).2
  let saved := ((ofTable.saveKeyGeneration ⟨[1], .empty, [0xb0], 2⟩).perform cached).2
  have first : ofTable.Does .empty (.lookup oneAddress 7 (.ok (.ofAddress 7 "http://a"))) cached :=
    rfl
  have second : ofTable.Does cached (.save ⟨[1], .empty, [0xb0], 2⟩ (.ok ())) saved := rfl
  have runs : ofTable.Runs .empty askedOnce saved := .act (.act .start first) second
  obtain ⟨-, outputs, -, -, again⟩ := answers_last serves_ofTable keeps_ofTable
    (fun _ => trivial) trivial (fun _ => rfl) runs orderly
  exact ⟨orderly, saved, runs, outputs [0xb0] trivial,
    again [] oneAddress 7 _ _ rfl (by simp) none⟩

end Store

end Resharing
