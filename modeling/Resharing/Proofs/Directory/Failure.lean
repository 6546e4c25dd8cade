import Resharing.Proofs.Directory.Recording

/-!
# Why operators cannot be recorded

Recording the operators of a session gets and puts, and nothing else. So it fails only if the store
does, or if what the store holds under the key of an operator is not the written form of a record.
What was recorded before the failure is under other keys, so the operator's record was in that state
from the beginning. Whatever the store leaves alone, recording leaves alone.

## Main definitions

* `RecordingFault`: why operators cannot be recorded

## Main results

* `Store.Keeps.fault_of_recordOperators`: a failure is one of these
* `Store.Spares.recordOperators`: what recording leaves alone
-/

namespace Resharing

/-- Why some operators cannot be recorded. -/
inductive RecordingFault (content : Bytes → Option Bytes) (ids : List OperatorId) : Error → Prop
  /-- The store fails. -/
  | storage (reason : String) : RecordingFault content ids (.storage reason)
  /-- What is stored about one of the operators cannot be read. -/
  | unreadable {id : OperatorId} {bytes : Bytes} {fault : Json.Fault} (member : id ∈ ids)
      (there : content (operatorKey id) = some bytes)
      (garbled : Operator.format.decode bytes = .error fault) :
      RecordingFault content ids (.unreadable (.json fault))

theorem RecordingFault.mono {content other : Bytes → Option Bytes} {ids all : List OperatorId}
    {error : Error} (fault : RecordingFault content ids error) (among : ids ⊆ all)
    (same : ∀ id ∈ ids, content (operatorKey id) = other (operatorKey id)) :
    RecordingFault other all error := by
  cases fault with
  | storage reason => exact .storage reason
  | unreadable member there garbled =>
    exact .unreadable (among member) ((same _ member).symm.trans there) garbled

namespace Store

variable {σ : Type} {store : Store σ} {sound : σ → Prop} {content : σ → Bytes → Option Bytes}
  {state next : σ} {id : OperatorId} {address : String} {session : Session} {error : Error}

namespace Keeps

variable (keeps : store.Keeps sound content) (blames : store.BlamesStorage) (here : sound state)

include keeps blames here

theorem fault_of_getOperator
    (failed : (store.getOperator id).perform state = (.error error, next)) :
    RecordingFault (content state) [id] error := by
  obtain unread | ⟨value, middle, got, rest⟩ := Effect.perform_bind_eq_error failed
  · obtain ⟨reason, rfl⟩ := blames.get unread
    exact .storage reason
  · obtain ⟨rfl, rfl⟩ := keeps.get here got
    cases there : content middle (operatorKey id) with
    | none =>
      rw [there] at rest
      cases rest
    | some bytes =>
      rw [there] at rest
      cases decoded : Operator.format.decode bytes with
      | ok operator =>
        simp only [decoded] at rest
        cases rest
      | error fault =>
        simp only [decoded] at rest
        cases rest
        exact .unreadable List.mem_cons_self there decoded

theorem fault_of_recordNamed
    (failed : (store.recordNamed session id).perform state = (.error error, next)) :
    RecordingFault (content state) [id] error := by
  unfold recordNamed at failed
  cases named : session.addressOf id with
  | none =>
    rw [named] at failed
    cases failed
  | some address =>
    rw [named] at failed
    obtain unread | ⟨known, middle, -, rest⟩ := Effect.perform_bind_eq_error failed
    · exact keeps.fault_of_getOperator blames here unread
    · split_ifs at rest
      · cases rest
      · obtain ⟨reason, rfl⟩ := blames.put rest
        exact .storage reason

theorem fault_of_forM_recordNamed {ids : List OperatorId} (once : ids.Nodup)
    (failed : Effect.perform (ids.forM (store.recordNamed session)) state = (.error error, next)) :
    RecordingFault (content state) ids error := by
  induction ids generalizing state with
  | nil => cases failed
  | cons id rest ih =>
    obtain ⟨fresh, later⟩ := List.nodup_cons.mp once
    obtain first | ⟨⟨⟩, middle, recorded, others⟩ := Effect.perform_bind_eq_error failed
    · refine (keeps.fault_of_recordNamed blames here first).mono ?_ fun _ _ => rfl
      exact List.cons_subset_cons id (List.nil_subset rest)
    · obtain ⟨soundMiddle, renews⟩ := keeps.recordNamed_eq_ok here recorded
      refine (ih soundMiddle later others).mono (List.subset_cons_self id rest) ?_
      intro other member
      exact renews.untouched_of_foreign fun own => fresh (List.mem_singleton.mp own ▸ member)

/-- Recording fails because of the store or of what it holds. -/
theorem fault_of_recordOperators
    (failed : (store.recordOperators session).perform state = (.error error, next)) :
    RecordingFault (content state) session.allIds error := by
  rw [recordOperators_eq_forM] at failed
  exact keeps.fault_of_forM_recordNamed blames here session.nodup_allIds failed

end Keeps

namespace Spares

variable {ρ : Type} {seen : σ → ρ} (spares : store.Spares seen)

include spares

theorem getOperator (id : OperatorId) : (store.getOperator id).Spares seen := by
  refine (spares.get _).bind fun value => ?_
  cases value with
  | none => exact .pure none
  | some bytes =>
    cases decoded : Operator.format.decode bytes with
    | ok operator =>
      simp only [decoded]
      exact .pure (some operator)
    | error fault =>
      simp only [decoded]
      exact .throw _

theorem recordNamed (session : Session) (id : OperatorId) :
    (store.recordNamed session id).Spares seen := by
  unfold Store.recordNamed
  cases session.addressOf id with
  | none => exact .pure ()
  | some address =>
    refine (spares.getOperator id).bind fun known => ?_
    split_ifs
    · exact .pure ()
    · exact spares.put _ _

/-- What the store leaves alone is as it was, whether the operators could be recorded or not. -/
theorem recordOperators (session : Session) : (store.recordOperators session).Spares seen := by
  rw [recordOperators_eq_forM]
  exact .forM fun id _ => spares.recordNamed session id

end Spares

end Store

end Resharing
