import Resharing.Proofs.Orchestration.Stages

/-!
# What has been found

Looking operators up leaves no choice: the operators that are found and the state that is left
are determined by the ids and the state before. So if all lookups of a session can succeed,
every one that it comes to does, and what is carried out finds the same.

## Main results

* `Orchestrator.Found.unique`, `Orchestrator.Begun.unique`: there is one result
* `Orchestrator.Found.exists_lookup`: if all operators can be found, the next one can
* `Orchestrator.Found.resolve_eq`, `Orchestrator.Found.of_resolve`: lookups that succeed are those
  that are carried out
-/

namespace Resharing

namespace Orchestrator

variable {σ : Type} {orchestrator : Orchestrator σ} {session : Session} {origin state next : σ}
  {ids done left : List OperatorId} {id : OperatorId} {operators others : List Operator}

theorem Found.of_concat (found : orchestrator.Found origin (ids ++ [id]) operators state) :
    ∃ earlier operator before, operators = earlier ++ [operator] ∧
      orchestrator.Found origin ids earlier before ∧
      (orchestrator.directory.lookup id).perform before = (.ok operator, state) := by
  generalize whole : ids ++ [id] = all at found
  cases found with
  | nil => simp at whole
  | snoc before result =>
    obtain ⟨rfl, same⟩ := List.append_inj' whole rfl
    obtain rfl := List.singleton_inj.mp same
    exact ⟨_, _, _, rfl, before, result⟩

/-- Lookups come to one result. -/
theorem Found.unique (found : orchestrator.Found origin ids operators state)
    (too : orchestrator.Found origin ids others next) : operators = others ∧ state = next := by
  induction found generalizing others next with
  | nil =>
    generalize none : [] = ids at too
    cases too with
    | nil => exact ⟨rfl, rfl⟩
    | snoc => simp at none
  | snoc before result ih =>
    obtain ⟨earlier, operator, middle, rfl, first, second⟩ := too.of_concat
    obtain ⟨rfl, rfl⟩ := ih first
    obtain ⟨same, rfl⟩ := Prod.mk.inj (result.symm.trans second)
    obtain rfl := Except.ok.inj same
    exact ⟨rfl, rfl⟩

theorem Found.of_prefix (found : orchestrator.Found origin ids operators state)
    (first : done <+: ids) : ∃ earlier before, orchestrator.Found origin done earlier before := by
  induction found with
  | nil =>
    obtain rfl := List.prefix_nil.mp first
    exact ⟨[], _, .nil⟩
  | snoc before result ih =>
    rcases List.prefix_concat_iff.mp first with rfl | within
    · exact ⟨_, _, before.snoc result⟩
    · exact ih within

/-- If all operators can be found, the next one can. -/
theorem Found.exists_lookup (found : orchestrator.Found origin ids operators state)
    (split : ids = done ++ id :: left) {earlier : List Operator} {before : σ}
    (first : orchestrator.Found origin done earlier before) :
    ∃ operator after,
      (orchestrator.directory.lookup id).perform before = (.ok operator, after) := by
  have further : done ++ [id] <+: ids := ⟨left, by simp [split]⟩
  obtain ⟨_, after, more⟩ := found.of_prefix further
  obtain ⟨_, operator, middle, -, again, result⟩ := more.of_concat
  obtain ⟨-, rfl⟩ := first.unique again
  exact ⟨operator, after, result⟩

theorem Found.lookup_ne_error (found : orchestrator.Found origin ids operators state)
    (split : ids = done ++ id :: left) {earlier : List Operator} {before after : σ} {error : Error}
    (first : orchestrator.Found origin done earlier before) :
    (orchestrator.directory.lookup id).perform before ≠ (.error error, after) := by
  obtain ⟨operator, later, succeeds⟩ := found.exists_lookup split first
  simp [succeeds]

/-- The creation of the topic is determined by what has been found. -/
theorem Begun.unique {recipients : List Operator} {creation other : TopicCreation σ}
    (begun : orchestrator.Begun session origin recipients creation state)
    (too : orchestrator.Begun session origin others other next) :
    recipients = others ∧ creation = other ∧ state = next := by
  obtain ⟨-, before, found, begins⟩ := begun
  obtain ⟨-, after, again, beginsToo⟩ := too
  obtain ⟨rfl, rfl⟩ := found.unique again
  obtain ⟨rfl, rfl⟩ := Prod.mk.inj (begins.symm.trans beginsToo)
  exact ⟨rfl, rfl, rfl⟩

private theorem resolve_concat {operator : Operator}
    (first : orchestrator.resolve ids origin = (.ok operators, ids.length, state))
    (last : (orchestrator.directory.lookup id).perform state = (.ok operator, next)) :
    orchestrator.resolve (ids ++ [id]) origin =
      (.ok (operators ++ [operator]), (ids ++ [id]).length, next) := by
  induction ids generalizing operators origin with
  | nil =>
    simp only [resolve, Prod.mk.injEq, Except.ok.injEq] at first
    obtain ⟨rfl, -, rfl⟩ := first
    simp [resolve, last]
  | cons head tail ih =>
    rw [resolve] at first
    rcases looked : (orchestrator.directory.lookup head).perform origin with
      ⟨error | found, middle⟩
    · simp [looked] at first
    rcases rest : orchestrator.resolve tail middle with ⟨error | others, made, after⟩
    · simp [looked, rest] at first
    simp only [looked, rest, Prod.mk.injEq, Except.ok.injEq, List.length_cons,
      Nat.add_right_cancel_iff] at first
    obtain ⟨rfl, rfl, rfl⟩ := first
    simp [resolve, looked, ih rest]

/-- Lookups that succeed are carried out. -/
theorem Found.resolve_eq (found : orchestrator.Found origin ids operators state) :
    orchestrator.resolve ids origin = (.ok operators, ids.length, state) := by
  -- A list of lookups grows at its end, while they are carried out from its head.
  induction found with
  | nil => rfl
  | snoc before result ih => exact resolve_concat ih result

/-- Lookups that are carried out and succeed go on from what has been found. -/
theorem Found.of_resolve {middle : σ} {earlier : List Operator} {made : Nat}
    (found : orchestrator.Found origin done earlier middle)
    (resolved : orchestrator.resolve left middle = (.ok operators, made, state)) :
    orchestrator.Found origin (done ++ left) (earlier ++ operators) state := by
  induction left generalizing done earlier middle operators made with
  | nil =>
    simp only [resolve, Prod.mk.injEq, Except.ok.injEq] at resolved
    obtain ⟨rfl, -, rfl⟩ := resolved
    simpa using found
  | cons id rest ih =>
    rw [resolve] at resolved
    rcases looked : (orchestrator.directory.lookup id).perform middle with ⟨error | operator, next⟩
    · simp [looked] at resolved
    rcases others : orchestrator.resolve rest next with ⟨error | later, count, last⟩
    · simp [looked, others] at resolved
    simp only [looked, others, Prod.mk.injEq, Except.ok.injEq] at resolved
    obtain ⟨rfl, -, rfl⟩ := resolved
    have whole := ih (found.snoc looked) others
    rwa [List.append_assoc, List.append_assoc] at whole

end Orchestrator

end Resharing
