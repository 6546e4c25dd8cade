import Resharing.Proofs.Text.Hex
import Resharing.Session.Basic

/-!
# Accepted requests

A session that was accepted tells what its request said: the specifications have been parsed,
the key has been read, and the threshold can be met. Of the key's text nothing is lost but its
case and the blanks around it.

## Main results

* `Session.accept_eq_ok`, `Session.Accepted.accept_eq`: what acceptance has found
* `Session.encode_validatorKey`: the key in base sixteen is the text that was given
-/

namespace Resharing.Session

variable {name : SessionId} {request : Request} {session : Session}

/-- What was found of a request that was accepted. -/
structure Accepted (name : SessionId) (request : Request) (session : Session) : Prop where
  id : session.id = name
  operators : Operator.Spec.parseAll request.operators = .ok session.operators
  oldOperators : Operator.Spec.parseAll request.oldOperators = .ok session.oldOperators
  validatorKey : readKey request.validatorKey = .ok session.validatorKey
  inhabited : session.operators.size ≠ 0
  fits : thresholdFits request.threshold.toNat session.operators.size = true
  threshold : session.threshold = UInt16.ofNat request.threshold.toNat

theorem accept_eq_ok (accepted : accept name request = .ok session) :
    Accepted name request session := by
  unfold accept at accepted
  cases operators : Operator.Spec.parseAll request.operators with
  | error error => simp [operators, bind, Except.bind] at accepted
  | ok operators =>
    cases oldOperators : Operator.Spec.parseAll request.oldOperators with
    | error error => simp [*, bind, Except.bind] at accepted
    | ok oldOperators =>
      cases key : readKey request.validatorKey with
      | error fault =>
        have refused : (readKey request.validatorKey).mapError Error.badValidatorKey =
            .error (.badValidatorKey fault) := by rw [key]; rfl
        simp [operators, oldOperators, refused, bind, Except.bind] at accepted
      | ok validatorKey =>
        have read : (readKey request.validatorKey).mapError Error.badValidatorKey =
            .ok validatorKey := by rw [key]; rfl
        simp only [operators, oldOperators, read, bind, Except.bind] at accepted
        split at accepted
        · cases accepted
        · next inhabited =>
          split at accepted
          · next fits =>
            obtain rfl := Except.ok.inj accepted
            exact ⟨rfl, operators, oldOperators, key, inhabited, fits, rfl⟩
          · cases accepted

/-- What was found is enough. -/
theorem Accepted.accept_eq (accepted : Accepted name request session) :
    accept name request = .ok session := by
  obtain ⟨rfl, operators, oldOperators, key, inhabited, fits, threshold⟩ := accepted
  have read : (readKey request.validatorKey).mapError Error.badValidatorKey =
      .ok session.validatorKey := by rw [key]; rfl
  simp only [accept, operators, oldOperators, read, bind, Except.bind]
  rw [if_neg inhabited, if_pos fits, ← threshold]

theorem readKey_eq_ok {text : String} {key : Bytes} (read : readKey text = .ok key) :
    Hex.decode (Text.trim text) = .ok key ∧ key ≠ [] := by
  unfold readKey at read
  split at read
  · cases read
  · cases read
  · next key some decoded =>
    obtain rfl := Except.ok.inj read
    exact ⟨decoded, some⟩

/-- The key in base sixteen is the text that was given for it, trimmed and in lower case. -/
theorem Accepted.encode_validatorKey (accepted : Accepted name request session) :
    Hex.encode session.validatorKey = (Text.trim request.validatorKey).toLower :=
  Hex.encode_of_decode (readKey_eq_ok accepted.validatorKey).1

end Resharing.Session
