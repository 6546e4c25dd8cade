import Mathlib.Tactic.SplitIfs
import Resharing.Cancellation.Token

/-!
# What observers see of a switch

An observer looks at a switch now and then and remembers what it saw. Whatever the owner has
done between its looks, and whether the owner is still there, it sees the cancellation exactly
if the switch is cancelled.

## Main definitions

* `Switch.glance`: an observer's next look, its first one included
* `Switch.Remembers`: what an observer may remember of a switch

## Main results

* `Switch.glance_eq_resolved_iff`: an observer sees exactly the cancellation
* `Switch.Remembers.cancel`, `Switch.Remembers.leave`: the owner's doings spoil no memory
* `Switch.wake_wake`: a second look shows nothing that the first has not shown
-/

namespace Resharing.Switch

variable {switch : Switch} {wait : Wait}

/-- An observer's next look; one that has not looked yet remembers nothing. -/
def glance (switch : Switch) : Option Wait → Wait
  | none => switch.look
  | some wait => switch.wake wait

/-- What an observer may remember of a switch: a cancellation that has happened, a number of
changes that the cancellation exceeds, or an owner that left without cancelling. -/
def Remembers (switch : Switch) : Wait → Prop
  | .resolved => switch.cancelled = true
  | .asleep seen =>
    seen ≤ switch.changes ∧ (switch.cancelled = true → seen < switch.changes)
  | .stranded => switch.cancelled = false ∧ switch.owned = false

theorem remembers_look (switch : Switch) : switch.Remembers switch.look := by
  unfold look
  split_ifs with cancelled owned
  · exact cancelled
  · exact ⟨Nat.le_refl _, fun seen => absurd seen cancelled⟩
  · exact ⟨by simpa using cancelled, by simpa using owned⟩

theorem look_eq_resolved_iff : switch.look = .resolved ↔ switch.cancelled = true := by
  unfold look
  split_ifs with cancelled owned <;> simp [cancelled]

theorem Remembers.wake (remembers : switch.Remembers wait) :
    switch.Remembers (switch.wake wait) := by
  cases wait with
  | resolved => exact remembers
  | stranded => exact remembers
  | asleep seen =>
    by_cases changed : switch.changes = seen
    · have quiet : switch.cancelled = false := Bool.eq_false_iff.mpr fun cancelled =>
        absurd (remembers.2 cancelled) (by omega)
      by_cases owned : switch.owned = true
      · simpa [Switch.wake, changed, owned] using remembers
      · simpa [Switch.wake, changed, owned] using ⟨quiet, Bool.eq_false_iff.mpr owned⟩
    · simpa [Switch.wake, changed] using switch.remembers_look

/-- Looking again at once shows nothing new. -/
theorem wake_wake (switch : Switch) (wait : Wait) :
    switch.wake (switch.wake wait) = switch.wake wait := by
  have settled : switch.wake switch.look = switch.look := by
    unfold look
    split_ifs with cancelled owned
    · rfl
    · simp [Switch.wake, owned]
    · rfl
  cases wait with
  | resolved => rfl
  | stranded => rfl
  | asleep seen =>
    by_cases changed : switch.changes = seen
    · by_cases owned : switch.owned = true <;> simp [Switch.wake, changed, owned]
    · simpa [Switch.wake, changed] using settled

theorem Remembers.glance {memory : Option Wait}
    (remembers : ∀ wait, memory = some wait → switch.Remembers wait) :
    switch.Remembers (switch.glance memory) := by
  cases memory with
  | none => exact switch.remembers_look
  | some wait => exact (remembers wait rfl).wake

/-- An observer with a sound memory sees the cancellation exactly if there was one. -/
theorem glance_eq_resolved_iff {memory : Option Wait}
    (remembers : ∀ wait, memory = some wait → switch.Remembers wait) :
    switch.glance memory = .resolved ↔ switch.cancelled = true := by
  cases memory with
  | none => exact look_eq_resolved_iff
  | some wait =>
    have sound := remembers wait rfl
    cases wait with
    | resolved => exact iff_of_true rfl sound
    | stranded => simpa [Switch.glance, Switch.wake] using sound.1
    | asleep seen =>
      by_cases changed : switch.changes = seen
      · have quiet : ¬ switch.cancelled = true := fun cancelled =>
          absurd (sound.2 cancelled) (by omega)
        by_cases owned : switch.owned = true <;>
          simp [Switch.glance, Switch.wake, changed, owned, quiet]
      · simpa [Switch.glance, Switch.wake, changed] using look_eq_resolved_iff

theorem Remembers.wake_eq_resolved_iff (remembers : switch.Remembers wait) :
    switch.wake wait = .resolved ↔ switch.cancelled = true := by
  have sound : ∀ other, some wait = some other → switch.Remembers other := by
    rintro other ⟨⟩
    exact remembers
  exact glance_eq_resolved_iff sound

theorem Remembers.cancel (remembers : switch.Remembers wait) (owned : switch.owned = true) :
    switch.cancel.Remembers wait := by
  cases wait with
  | resolved => rfl
  | stranded => exact absurd owned (by simp [remembers.2])
  | asleep seen => exact ⟨Nat.le_succ_of_le remembers.1, fun _ => Nat.lt_succ_of_le remembers.1⟩

theorem Remembers.leave (remembers : switch.Remembers wait) : switch.leave.Remembers wait := by
  cases wait with
  | resolved => exact remembers
  | stranded => exact ⟨remembers.1, rfl⟩
  | asleep seen => exact remembers

@[simp] theorem cancelled_cancel (switch : Switch) : switch.cancel.cancelled = true := rfl

end Resharing.Switch
