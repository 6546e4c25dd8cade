import Resharing.Proofs.Cancellation.Observer

/-!
# A wait for the cancellation

A wait looks at the switch of its token when it begins, when something has changed and when its
time is up. As long as time stands still whenever it has something to look at, it is over at the
instant of the first cancellation, or at once if it begins later. The owner may be gone by the
time the wait looks. Nothing else ends a wait but its own limit.

## Main definitions

* `Cancellation.Watch`: a wait, and what has become of it
* `Cancellation.Watch.begin`, `Cancellation.Watch.poll`: its first look and the later ones
* `Cancellation.Watch.IdleUntil`: a wait has nothing to look at
* `Cancellation.Watch.Sound`: a wait is what the first cancellation makes of it

## Main results

* `Cancellation.Watch.sound_begin`, `Cancellation.Watch.Sound.poll`,
  `Cancellation.Watch.Sound.cancel`, `Cancellation.Watch.Sound.leave`,
  `Cancellation.Watch.Sound.pass`: and stays so, whatever happens
* `Cancellation.Watch.idleUntil_poll`: a look is not taken twice
-/

namespace Resharing.Cancellation

/-- What has become of a wait. -/
inductive Fate where
  /-- It goes on, and remembers what it saw last. -/
  | pending (memory : Wait)
  | resolved (time : Nat)
  | expired (time : Nat)

/-- A wait for the cancellation. -/
structure Watch where
  token : Nat
  since : Nat
  /-- How long it may take, if it may not take forever. -/
  limit : Option Nat
  fate : Fate

namespace Watch

/-- What a look does to a wait. The cancellation comes before the limit. -/
def judge (watch : Watch) (now : Nat) (seen : Wait) : Watch where
  token := watch.token
  since := watch.since
  limit := watch.limit
  fate :=
    if seen = .resolved then .resolved now
    else if watch.limit.any (watch.since + · ≤ now) then .expired now
    else .pending seen

theorem judge_eq_resolved_iff {watch : Watch} {now : Nat} {seen : Wait} :
    (watch.judge now seen).fate = .resolved now ↔ seen = .resolved := by
  unfold judge
  split_ifs with cancelled late <;> simp [cancelled]

/-- A wait begins with a look. -/
def begin (state : Cancellation) (now token : Nat) (limit : Option Nat) : Watch :=
  let seen := (state.watched token).look
  judge ⟨token, now, limit, .pending seen⟩ now seen

/-- A wait that goes on looks again. -/
def poll (state : Cancellation) (now : Nat) (watch : Watch) : Watch :=
  match watch.fate with
  | .pending memory => watch.judge now ((state.watched watch.token).wake memory)
  | _ => watch

/-- Until some time a wait has no reason to look again. -/
def IdleUntil (state : Cancellation) (time : Nat) (watch : Watch) : Prop :=
  ∀ memory, watch.fate = .pending memory →
    (state.watched watch.token).wake memory = memory ∧
      ∀ limit, watch.limit = some limit → time ≤ watch.since + limit

end Watch

/-- When a switch was cancelled, on a clock that shows `now`. -/
structure Dated (switch : Switch) (now : Nat) (seenAt : Option Nat) : Prop where
  cancelled : switch.cancelled = true ↔ seenAt.isSome = true
  past : ∀ time ∈ seenAt, time ≤ now

variable {time now token : Nat} {state : Cancellation} {watch : Watch} {switch : Switch}
  {seenAt : Option Nat}

theorem Dated.cancel (dated : Dated switch now seenAt) :
    Dated switch.cancel now (seenAt.or (some now)) := by
  obtain ⟨-, past⟩ := dated
  cases seenAt with
  | none => exact ⟨by simp, by simp⟩
  | some time => exact ⟨by simp, past⟩

namespace Watch

/-- A wait is what the first cancellation of its switch makes of it. -/
structure Sound (switch : Switch) (now : Nat) (seenAt : Option Nat) (watch : Watch) : Prop where
  begun : watch.since ≤ now
  pending : ∀ memory, watch.fate = .pending memory →
    switch.Remembers memory ∧ memory ≠ .resolved ∧
      (∀ limit ∈ watch.limit, now ≤ watch.since + limit) ∧
      ∀ time ∈ seenAt, watch.since ≤ time ∧ time = now
  resolved : ∀ time, watch.fate = .resolved time →
    ∃ cancelled ∈ seenAt, time = max watch.since cancelled
  expired : ∀ time, watch.fate = .expired time → time ≤ now ∧
    (∃ limit ∈ watch.limit, time = watch.since + limit) ∧ ∀ cancelled ∈ seenAt, time ≤ cancelled

/-- A look changes nothing of a wait but what has become of it. -/
theorem frame_poll (watch : Watch) :
    watch.poll state now = { watch with fate := (watch.poll state now).fate } := by
  unfold poll
  cases watch.fate <;> rfl

/-- A look that is taken in time leaves a wait as the first cancellation makes it. -/
theorem sound_judge {seen : Wait} (dated : Dated switch now seenAt) (begun : watch.since ≤ now)
    (remembers : switch.Remembers seen) (sees : seen = .resolved ↔ switch.cancelled = true)
    (within : ∀ limit ∈ watch.limit, now ≤ watch.since + limit)
    (prompt : ∀ time ∈ seenAt, now = max watch.since time) :
    (watch.judge now seen).Sound switch now seenAt := by
  rw [dated.cancelled] at sees
  by_cases cancelled : seen = .resolved
  · obtain ⟨time, first⟩ := Option.isSome_iff_exists.mp (sees.mp cancelled)
    have fate : (watch.judge now seen).fate = .resolved now := if_pos cancelled
    refine ⟨begun, ?_, ?_, ?_⟩
    · simp [fate]
    · rw [fate]
      rintro _ ⟨⟩
      exact ⟨time, first, prompt time first⟩
    · simp [fate]
  · -- Nobody has cancelled, so all that is said of a cancellation holds.
    have nobody : seenAt = none := by simpa using mt sees.mpr cancelled
    subst nobody
    by_cases late : watch.limit.any (watch.since + · ≤ now) = true
    · have fate : (watch.judge now seen).fate = .expired now :=
        (if_neg cancelled).trans (if_pos late)
      obtain ⟨limit, limited, reached⟩ := (Option.any_eq_true _ _).mp late
      have least := within limit limited
      refine ⟨begun, ?_, ?_, ?_⟩
      · simp [fate]
      · simp [fate]
      · rw [fate]
        rintro _ ⟨⟩
        refine ⟨Nat.le_refl _, ⟨limit, limited, ?_⟩, by simp⟩
        simp only [decide_eq_true_eq] at reached
        exact Nat.le_antisymm least reached
    · have fate : (watch.judge now seen).fate = .pending seen :=
        (if_neg cancelled).trans (if_neg late)
      refine ⟨begun, ?_, ?_, ?_⟩
      · rw [fate]
        rintro _ ⟨⟩
        exact ⟨remembers, cancelled, within, by simp⟩
      · simp [fate]
      · simp [fate]

theorem sound_begin (dated : Dated (state.watched token) now seenAt) (limit : Option Nat) :
    (begin state now token limit).Sound (state.watched token) now seenAt := by
  apply sound_judge dated (Nat.le_refl now) (Switch.remembers_look _) Switch.look_eq_resolved_iff
  · exact fun limit _ => Nat.le_add_right now limit
  · exact fun time first => (Nat.max_eq_left (dated.past time first)).symm

theorem Sound.poll (dated : Dated (state.watched watch.token) now seenAt)
    (sound : watch.Sound (state.watched watch.token) now seenAt) :
    (watch.poll state now).Sound (state.watched watch.token) now seenAt := by
  unfold Watch.poll
  cases fate : watch.fate with
  | resolved time => exact sound
  | expired time => exact sound
  | pending memory =>
    obtain ⟨remembers, -, within, awake⟩ := sound.pending memory fate
    apply sound_judge dated sound.begun remembers.wake remembers.wake_eq_resolved_iff within
    intro time first
    obtain ⟨before, same⟩ := awake time first
    omega

theorem Sound.cancel (sound : watch.Sound switch now seenAt) (owned : switch.owned = true) :
    watch.Sound switch.cancel now (seenAt.or (some now)) := by
  obtain ⟨begun, pending, resolved, expired⟩ := sound
  -- A cancellation that is not the first changes nothing; the first comes now.
  have first : ∀ {motive : Nat → Prop}, (∀ time ∈ seenAt, motive time) → motive now →
      ∀ time ∈ seenAt.or (some now), motive time := by
    intro motive old new
    cases seenAt with
    | none => simpa using new
    | some time => simpa using old
  refine ⟨begun, fun memory fate => ?_, fun time fate => ?_, fun time fate => ?_⟩
  · obtain ⟨remembers, unresolved, within, awake⟩ := pending memory fate
    exact ⟨remembers.cancel owned, unresolved, within, first awake ⟨begun, rfl⟩⟩
  · obtain ⟨cancelled, seen, same⟩ := resolved time fate
    refine ⟨cancelled, ?_, same⟩
    rw [Option.mem_def.mp seen]
    rfl
  · obtain ⟨past, limited, before⟩ := expired time fate
    exact ⟨past, limited, first before past⟩

theorem Sound.leave (sound : watch.Sound switch now seenAt) :
    watch.Sound switch.leave now seenAt := by
  obtain ⟨begun, pending, resolved, expired⟩ := sound
  refine ⟨begun, fun memory fate => ?_, resolved, expired⟩
  obtain ⟨remembers, rest⟩ := pending memory fate
  exact ⟨remembers.leave, rest⟩

/-- Where time passes, nobody has cancelled since the last look, because a wait would have had
to look again. -/
theorem Sound.pass (sound : watch.Sound (state.watched watch.token) now seenAt)
    (dated : Dated (state.watched watch.token) now seenAt) (later : now ≤ time)
    (idle : watch.IdleUntil state time) :
    watch.Sound (state.watched watch.token) time seenAt := by
  obtain ⟨begun, pending, resolved, expired⟩ := sound
  refine ⟨Nat.le_trans begun later, fun memory fate => ?_, resolved, fun ended fate => ?_⟩
  · obtain ⟨remembers, unresolved, -, -⟩ := pending memory fate
    obtain ⟨still, within⟩ := idle memory fate
    have sees := remembers.wake_eq_resolved_iff
    rw [still, dated.cancelled] at sees
    have nobody : seenAt = none := by simpa using mt sees.mpr unresolved
    exact ⟨remembers, unresolved, within, by simp [nobody]⟩
  · obtain ⟨past, rest⟩ := expired ended fate
    exact ⟨Nat.le_trans past later, rest⟩

/-- A wait that has just looked has no reason to look again before its limit. -/
theorem idleUntil_poll (watch : Watch) (state : Cancellation) (now : Nat) :
    (watch.poll state now).IdleUntil state (now + 1) := by
  intro memory fate
  rw [watch.frame_poll]
  unfold Watch.poll at fate
  cases before : watch.fate with
  | resolved time => simp [before] at fate
  | expired time => simp [before] at fate
  | pending seen =>
    simp only [before, judge] at fate
    split_ifs at fate with cancelled late
    cases fate
    refine ⟨Switch.wake_wake _ seen, fun limit limited => ?_⟩
    change watch.limit = some limit at limited
    rw [limited] at late
    exact Nat.not_le.mp (by simpa using late)

end Watch

end Resharing.Cancellation
