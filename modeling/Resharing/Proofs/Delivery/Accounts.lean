import Mathlib.Data.List.Perm.Basic
import Resharing.Delivery.Permits

/-!
# Where the permits are

Every permit is free, or granted and not picked up, or in the hands of a call. The accounts of
a fan-out say how many calls there are and who waits; every operation on the permits keeps
them, and none leaves a permit free while somebody is in the queue.

## Main definitions

* `Permits.spare`, `Permits.waiting`: permits not in use, and who waits for one
* `Permits.Balanced`: the accounts

## Main results

* `Permits.Balanced.ask`, `Permits.Balanced.claim`, `Permits.Balanced.release`,
  `Permits.Balanced.withdraw`: what each operation does to the accounts
-/

namespace Resharing.Permits

/-- How many permits no call holds: the free ones and the grants not picked up. -/
def spare (permits : Permits) : Nat := permits.free + permits.granted.length

/-- Who waits for a permit, first come first; those with a grant come first. -/
def waiting (permits : Permits) : List OperatorId := permits.granted ++ permits.queue

/-- The accounts of some permits: how many there are in all, how many calls hold one, and who
waits. -/
structure Balanced (total calls : Nat) (waiters : List OperatorId) (permits : Permits) : Prop where
  /-- No permit is lost and none is made up. -/
  spare_add : permits.spare + calls = total
  /-- Those who wait are those who have asked. -/
  waiting_perm : permits.waiting.Perm waiters
  /-- Nobody is in the queue while a permit is free. -/
  thrifty : permits.queue ≠ [] → permits.free = 0

variable {total calls : Nat} {waiters others : List OperatorId} {permits next : Permits}
  {id : OperatorId}

theorem balanced_start (total : Nat) : (start total).Balanced total 0 [] :=
  ⟨rfl, .refl _, fun busy => absurd rfl busy⟩

theorem Balanced.perm (balanced : permits.Balanced total calls waiters)
    (same : waiters.Perm others) : permits.Balanced total calls others :=
  ⟨balanced.spare_add, balanced.waiting_perm.trans same, balanced.thrifty⟩

/-- Who asks gets a permit if one is free, and waits if none is. -/
theorem Balanced.ask (balanced : permits.Balanced total calls waiters) (id : OperatorId) :
    (∃ free, permits.free = free + 1 ∧ permits.ask id = (true, { permits with free }) ∧
      Balanced total (calls + 1) waiters { permits with free }) ∨
    (permits.free = 0 ∧
      permits.ask id = (false, { permits with queue := permits.queue ++ [id] }) ∧
      Balanced total calls (waiters ++ [id]) { permits with queue := permits.queue ++ [id] }) := by
  obtain ⟨sum, same, thrifty⟩ := balanced
  obtain ⟨free, queue, granted⟩ := permits
  simp only [spare, waiting] at sum same
  cases free with
  | zero =>
    refine .inr ⟨rfl, rfl, ⟨sum, ?_, fun _ => rfl⟩⟩
    simpa [waiting, ← List.append_assoc] using same.append_right [id]
  | succ free =>
    refine .inl ⟨free, rfl, rfl, ⟨?_, same, fun busy => ?_⟩⟩
    · simp only [spare]
      omega
    · -- Somebody in the queue would mean that no permit had been free.
      exact absurd (thrifty busy) (Nat.succ_ne_zero free)

/-- Who picks up a grant waits no longer and holds a permit. -/
theorem Balanced.claim (balanced : permits.Balanced total calls (others ++ [id]))
    (claimed : permits.claim id = some next) : next.Balanced total (calls + 1) others := by
  obtain ⟨sum, same, thrifty⟩ := balanced
  unfold Permits.claim at claimed
  split_ifs at claimed with granted
  obtain rfl := Option.some.inj claimed
  have fewer := List.length_erase_of_mem granted
  have some : 0 < permits.granted.length := List.length_pos_of_mem granted
  refine ⟨?_, ?_, thrifty⟩
  · simp only [spare] at sum ⊢
    omega
  · have rest := same.erase id
    rw [waiting, List.erase_append_left _ granted] at rest
    refine rest.trans ?_
    simpa using (List.perm_append_singleton id others).erase id

/-- A permit that comes back goes to the first in the queue, or is free. -/
theorem Balanced.release (balanced : permits.Balanced total (calls + 1) waiters) :
    permits.release.Balanced total calls waiters := by
  obtain ⟨sum, same, thrifty⟩ := balanced
  unfold Permits.release
  cases queue : permits.queue with
  | nil =>
    refine ⟨?_, by simpa [waiting, queue] using same, fun busy => absurd rfl busy⟩
    simp only [spare] at sum ⊢
    omega
  | cons first rest =>
    -- The permit becomes a grant: who waits stays the same, from queue to grant.
    refine ⟨?_, by simpa [waiting, queue] using same, fun _ => thrifty (by simp [queue])⟩
    simp only [spare, List.length_append, List.length_singleton] at sum ⊢
    omega

/-- Who waits no longer holds nothing afterwards: a grant is passed on. -/
theorem Balanced.withdraw (balanced : permits.Balanced total calls (others ++ [id])) :
    (permits.withdraw id).Balanced total calls others := by
  unfold Permits.withdraw
  cases claimed : permits.claim id with
  | some next => exact (balanced.claim claimed).release
  | none =>
    obtain ⟨sum, same, thrifty⟩ := balanced
    have absent : id ∉ permits.granted := by
      intro granted
      simp [Permits.claim, granted] at claimed
    refine ⟨sum, ?_, fun busy => thrifty fun empty => busy (by simp [empty])⟩
    have rest := same.erase id
    rw [waiting, List.erase_append_right _ absent] at rest
    refine rest.trans ?_
    simpa using (List.perm_append_singleton id others).erase id

/-- If no call holds a permit and nobody has a grant, nobody waits. -/
theorem Balanced.waiters_eq_nil (balanced : permits.Balanced total 0 waiters)
    (positive : 0 < total) (ungranted : permits.granted = []) : waiters = [] := by
  have free : permits.free ≠ 0 := by
    have sum := balanced.spare_add
    simp only [spare, ungranted, List.length_nil] at sum
    omega
  have idle : permits.queue = [] := not_not.mp fun busy => free (balanced.thrifty busy)
  have nobody : permits.waiting = [] := by rw [waiting, ungranted, idle, List.append_nil]
  exact List.nil_perm.mp (nobody ▸ balanced.waiting_perm)

end Resharing.Permits
