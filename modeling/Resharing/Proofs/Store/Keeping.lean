import Resharing.Store.Basic

/-!
# Stores that keep what is put

A store keeps what is put if a value that was put is under its own key and what is under other
keys is left alone. It may fail, and nothing is said about what it leaves then. That it does not
fail is asked only of some keys and of some states: a store of files has no file for a key whose
name is too long, or where a directory is in the way.

## Main definitions

* `Effect.Spares`: a computation that leaves something as it is
* `Store.Keeps`: what a store that succeeds has done
* `Store.Serves`: a store that succeeds
* `Store.Shows`: a store in which what is there can be got
* `Store.BlamesStorage`: what is said of a store that fails
* `Part.Lawful`: a part that can be replaced without touching the rest

## Main results

* `Effect.perform_bind_eq_ok`, `Effect.perform_bind_eq_error`: one computation after another
* `Store.Serves.shows`: what is kept where nothing is in the way can be got
* `Store.Keeps.within`, `Store.Serves.within`, `Store.spares_within`: a store in a part of a state
-/

namespace Resharing

namespace Effect

variable {σ τ α β : Type} {effect : Effect σ α} {next : α → Effect σ β} {state after : σ} {a : α}
  {b : β}

theorem perform_within (part : Part σ τ) (inner : Effect τ α) :
    (inner.within part).perform state =
      ((inner.perform (part.of state)).1,
        part.replace state (inner.perform (part.of state)).2) := rfl

/-- What follows a computation that succeeds starts from the state that it leaves. -/
theorem perform_bind_ok (first : effect.perform state = (.ok a, after)) :
    (effect >>= next).perform state = (next a).perform after := by
  have ran : StateT.run effect.run state = (.ok a, after) := first
  simp only [perform, ExceptT.run_bind, StateT.run_bind, ran]
  rfl

theorem perform_bind_error {error : Error} (first : effect.perform state = (.error error, after)) :
    (effect >>= next).perform state = (.error error, after) := by
  have ran : StateT.run effect.run state = (.error error, after) := first
  simp only [perform, ExceptT.run_bind, StateT.run_bind, ran]
  rfl

/-- If two computations together succeed, both succeed. -/
theorem perform_bind_eq_ok (both : (effect >>= next).perform state = (.ok b, after)) :
    ∃ a middle, effect.perform state = (.ok a, middle) ∧
      (next a).perform middle = (.ok b, after) := by
  rcases first : effect.perform state with ⟨error | a, middle⟩
  · rw [perform_bind_error first] at both
    cases both
  · rw [perform_bind_ok first] at both
    exact ⟨a, middle, rfl, both⟩

/-- If two computations together fail, one of them fails. -/
theorem perform_bind_eq_error {error : Error}
    (both : (effect >>= next).perform state = (.error error, after)) :
    effect.perform state = (.error error, after) ∨
      ∃ a middle, effect.perform state = (.ok a, middle) ∧
        (next a).perform middle = (.error error, after) := by
  rcases first : effect.perform state with ⟨cause | a, middle⟩
  · rw [perform_bind_error first] at both
    cases both
    exact .inl rfl
  · rw [perform_bind_ok first] at both
    exact .inr ⟨a, middle, rfl, both⟩

/-- Computations that do nothing, one after the other, do nothing. -/
theorem perform_forM_of_idle {ι : Type} {visit : ι → Effect σ Unit} {list : List ι}
    (idle : ∀ i ∈ list, (visit i).perform state = (.ok (), state)) :
    Effect.perform (list.forM visit) state = (.ok (), state) := by
  induction list with
  | nil => rfl
  | cons i rest ih =>
    obtain ⟨first, later⟩ := List.forall_mem_cons.mp idle
    exact (perform_bind_ok first).trans (ih later)

/-- A computation leaves something as it is, whether it fails or not. -/
def Spares {ρ : Type} (seen : σ → ρ) (effect : Effect σ α) : Prop :=
  ∀ state, seen (effect.perform state).2 = seen state

namespace Spares

variable {ρ : Type} {seen : σ → ρ}

theorem pure (a : α) : Spares seen (Pure.pure a : Effect σ α) := fun _ => rfl

theorem throw (error : Error) : Spares seen (MonadExcept.throw error : Effect σ α) := fun _ => rfl

theorem bind (first : Spares seen effect) (later : ∀ a, Spares seen (next a)) :
    Spares seen (effect >>= next) := by
  intro state
  rcases performed : effect.perform state with ⟨error | a, middle⟩
  · rw [perform_bind_error performed, ← first state, performed]
  · rw [perform_bind_ok performed, later a middle, ← first state, performed]

theorem forM {ι : Type} {visit : ι → Effect σ Unit} {list : List ι}
    (each : ∀ i ∈ list, Spares seen (visit i)) : Spares seen (list.forM visit : Effect σ Unit) := by
  induction list with
  | nil => exact .pure ()
  | cons i rest ih =>
    obtain ⟨first, later⟩ := List.forall_mem_cons.mp each
    exact first.bind fun _ => ih later

end Spares

end Effect

/-- A part that is there as it was put there, while the rest stays as it is. -/
structure Part.Lawful {σ τ : Type} (part : Part σ τ) : Prop where
  of_replace : ∀ state inner, part.of (part.replace state inner) = inner
  replace_of : ∀ state, part.replace state (part.of state) = state

namespace Store

/-- What a store has done that did not fail, told by what is under each key. The states are those
that it may come to. -/
structure Keeps {σ : Type} (store : Store σ) (sound : σ → Prop)
    (content : σ → Bytes → Option Bytes) : Prop where
  /-- Getting tells what is there and changes nothing. -/
  get : ∀ {key state value next}, sound state →
    (store.get key).perform state = (.ok value, next) → value = content state key ∧ next = state
  /-- Putting changes what is under its key and nothing else. -/
  put : ∀ {key value state next}, sound state →
    (store.put key value).perform state = (.ok (), next) → sound next ∧
      ∀ other, content next other = if other = key then some value else content state other

/-- Nothing is in the way of a store under some keys. -/
structure Serves {σ : Type} (store : Store σ) (keys : Bytes → Prop) (clear : σ → Prop) :
    Prop where
  get : ∀ {key state}, keys key → clear state →
    ∃ value, (store.get key).perform state = (.ok value, state)
  put : ∀ {key state} value, keys key → clear state →
    ∃ next, (store.put key value).perform state = (.ok (), next) ∧ clear next

/-- What is under some keys can be got. -/
structure Shows {σ : Type} (store : Store σ) (keys : Bytes → Prop) (clear : σ → Prop)
    (content : σ → Bytes → Option Bytes) : Prop where
  get : ∀ {key state bytes}, keys key → clear state → content state key = some bytes →
    (store.get key).perform state = (.ok (some bytes), state)

/-- Whatever fails in a store is said to be a failure of the store. -/
structure BlamesStorage {σ : Type} (store : Store σ) : Prop where
  get : ∀ {key state error next}, (store.get key).perform state = (.error error, next) →
    ∃ reason, error = .storage reason
  put : ∀ {key value state error next}, (store.put key value).perform state = (.error error, next) →
    ∃ reason, error = .storage reason

/-- A store leaves something as it is. -/
structure Spares {σ ρ : Type} (store : Store σ) (seen : σ → ρ) : Prop where
  get : ∀ key, (store.get key).Spares seen
  put : ∀ key value, (store.put key value).Spares seen

/-- A store that keeps what is put shows it where nothing is in the way. -/
theorem Serves.shows {σ : Type} {store : Store σ} {keys : Bytes → Prop} {sound clear : σ → Prop}
    {content : σ → Bytes → Option Bytes} (serves : store.Serves keys clear)
    (keeps : store.Keeps sound content) (sounds : ∀ {state}, clear state → sound state) :
    store.Shows keys clear content where
  get among here there := by
    obtain ⟨value, got⟩ := serves.get among here
    obtain ⟨told, -⟩ := keeps.get (sounds here) got
    rw [got, told, there]

/-- What is there can be got although nothing can be put. -/
theorem Shows.refusing {σ : Type} {store : Store σ} {keys : Bytes → Prop} {clear : σ → Prop}
    {content : σ → Bytes → Option Bytes} (shows : store.Shows keys clear content)
    (putFault : Option String) : (store.refusing none putFault).Shows keys clear content :=
  ⟨shows.get⟩

theorem keeps_ofTable : ofTable.Keeps (fun _ => True) Table.find? where
  get {key state value next} _ got := by
    cases got
    exact ⟨rfl, rfl⟩
  put {key value state next} _ done := by
    cases done
    refine ⟨trivial, fun other => ?_⟩
    rw [Table.find?_insert]
    simp only [beq_iff_eq]

/-- Nothing is in the way of a store in memory. -/
theorem serves_ofTable : ofTable.Serves (fun _ => True) (fun _ => True) where
  get _ _ := ⟨_, rfl⟩
  put _ _ _ := ⟨_, rfl, trivial⟩

variable {σ τ : Type} {store : Store τ} {keys : Bytes → Prop} {sound : τ → Prop}
  {content : τ → Bytes → Option Bytes} {part : Part σ τ}

theorem Keeps.within (keeps : store.Keeps sound content) (lawful : part.Lawful) :
    (store.within part).Keeps (fun state => sound (part.of state))
      (fun state => content (part.of state)) where
  get {key state value next} here got := by
    obtain ⟨result, replaced⟩ := Prod.mk.inj got
    obtain ⟨told, same⟩ := keeps.get here (Prod.ext result rfl)
    refine ⟨told, replaced.symm.trans ?_⟩
    exact (congrArg (part.replace state) same).trans (lawful.replace_of state)
  put {key value state next} here done := by
    obtain ⟨result, rfl⟩ := Prod.mk.inj done
    rw [lawful.of_replace]
    exact keeps.put here (Prod.ext result rfl)

theorem Serves.within (serves : store.Serves keys sound) (lawful : part.Lawful) :
    (store.within part).Serves keys (fun state => sound (part.of state)) where
  get {key state} among here := by
    obtain ⟨value, got⟩ := serves.get among here
    refine ⟨value, (Effect.perform_within part (store.get key)).trans ?_⟩
    rw [got, lawful.replace_of]
  put {key state} value among here := by
    obtain ⟨inner, done, later⟩ := serves.put value among here
    refine ⟨part.replace state inner, (Effect.perform_within part (store.put key value)).trans ?_,
      ?_⟩
    · rw [done]
    · rwa [lawful.of_replace]

theorem Shows.within {clear : τ → Prop} (shows : store.Shows keys clear content)
    (lawful : part.Lawful) : (store.within part).Shows keys (fun state => clear (part.of state))
      (fun state => content (part.of state)) where
  get {key state bytes} among here there := by
    refine (Effect.perform_within part (store.get key)).trans ?_
    rw [shows.get among here there, lawful.replace_of]

theorem BlamesStorage.within (blames : store.BlamesStorage) :
    (store.within part).BlamesStorage where
  get failed := blames.get (Prod.ext (Prod.mk.inj failed).1 rfl)
  put failed := blames.put (Prod.ext (Prod.mk.inj failed).1 rfl)

/-- A store in a part of a state leaves alone what replacing the part leaves alone. -/
theorem spares_within {ρ : Type} {seen : σ → ρ}
    (apart : ∀ state inner, seen (part.replace state inner) = seen state) :
    (store.within part).Spares seen where
  get _ state := apart state _
  put _ _ state := apart state _

end Store

end Resharing
