import Resharing.Program.Initiator
import Resharing.Proofs.Registration.Attempts

/-!
# How many attempts there is room for

The failures of all attempts get their room before the first attempt is made, also if none of
them is going to fail. So what decides whether a registration returns is the number of attempts
that are asked for, and not the number that are needed. A messenger that accepts the node at once
makes no difference: it is not called if there is no room. With room, a greater number of attempts
than needed changes nothing.

## Main definitions

* `Registration.mostAttempts`: how many attempts there is room for

## Main results

* `Registration.run_eq_error_iff`, `Registration.run_eq_ok`: when a registration crashes, and what
  it returns otherwise
* `Registration.attempts_eq_of_first`: attempts that succeed do not depend on their bound
* `Initiator.register_crashes_iff`, `Initiator.registers_iff`: the same of the program
* `Registration.room_decides`: what the room decides
* `Registration.accepted_registration_crashes`: a node that would be accepted at once
-/

namespace Resharing

/-- A policy that is made for at least one attempt is bounded as if it was made for any number. -/
theorem Retry.bound_of_max (attempts : UInt64) (baseDelay : Duration) :
    (Retry.mk (max attempts 1) baseDelay).bound = max attempts.toNat 1 := by
  change max (if attempts ≤ 1 then 1 else attempts).toNat 1 = max attempts.toNat 1
  split_ifs with few
  · exact (max_eq_right (UInt64.le_iff_toNat_le.mp few)).symm
  · rfl

namespace Registration

variable {σ : Type} {messenger : Messenger σ} {id : OperatorId} {address topic : String}
  {call : Effect σ Unit} {retry : Retry} {state : σ} {crash : Crash} {k : Nat}

/-! ### Room for failures -/

/-- The most attempts for whose failures there is room. -/
def mostAttempts : Nat := (UInt64.size / 2 - 1) / failureSize

theorem hasRoom_iff {bound : Nat} : hasRoom bound = true ↔ bound ≤ mostAttempts := by
  rw [mostAttempts, Nat.le_div_iff_mul_le (by decide), hasRoom, decide_eq_true_eq]
  exact Nat.lt_iff_le_pred (by decide)

/-- A single attempt never wants for room. -/
theorem mostAttempts_lt_max_iff {asked : Nat} :
    mostAttempts < max asked 1 ↔ mostAttempts < asked := by
  rw [lt_max_iff, or_iff_left (by decide)]

theorem run_eq_ok (room : retry.bound ≤ mostAttempts) :
    run messenger id address topic retry state =
      .ok (attempts retry (messenger.registerNode (node id address) topic) (retry.bound - 1) 1 []
        state) :=
  run_eq_ok_iff.mpr ⟨hasRoom_iff.mpr room, rfl⟩

/-- A registration crashes only for want of room. -/
theorem run_eq_error_iff :
    run messenger id address topic retry state = .error crash ↔
      crash = .noRoomForFailures ∧ mostAttempts < retry.bound := by
  rw [run, ← Nat.not_le, ← hasRoom_iff]
  split_ifs with room
  · simp only [room, not_true_eq_false, and_false]
  · rw [Except.error.injEq, and_iff_left room, eq_comm]

/-- Whatever the attempts come to, a registration comes to it exactly if there is room. -/
theorem exists_run_iff {Ends : Registration σ → Prop}
    (ends : Ends (attempts retry (messenger.registerNode (node id address) topic)
      (retry.bound - 1) 1 [] state)) :
    (∃ registration, run messenger id address topic retry state = .ok registration ∧
      Ends registration) ↔ retry.bound ≤ mostAttempts := by
  constructor
  · rintro ⟨registration, returned, -⟩
    exact hasRoom_iff.mp (run_eq_ok_iff.mp returned).1
  · intro room
    exact ⟨_, run_eq_ok room, ends⟩

/-! ### More attempts than needed -/

/-- Attempts that come to a call that succeeds are the same under every bound that lets them. -/
theorem attempts_eq_of_first {other : Retry} (first : FirstSuccess call state k)
    (within : k ≤ retry.bound) (also : k ≤ other.bound)
    (delays : other.baseDelay = retry.baseDelay) :
    attempts other call (other.bound - 1) 1 [] state =
      attempts retry call (retry.bound - 1) 1 [] state := by
  have same : other.delayAfter = retry.delayAfter := by
    ext failures
    rw [Retry.delayAfter, Retry.delayAfter, delays]
  obtain ⟨errors, rejected, accepted, rfl, fails, succeeds⟩ := first.exists_fails
  rw [attempts_of_success fails succeeds (Nat.le_sub_one_of_lt within),
    attempts_of_success fails succeeds (Nat.le_sub_one_of_lt also), same]

end Registration

/-! ### The program -/

namespace Initiator

open Registration

variable {ν : Type} (machine : Machine ν) (invocation : Invocation) (id : OperatorId)
  (address topic : String) (attempts : UInt64) (network : ν)

/-- The call by which the program of an initiator registers a node. -/
def registering : Effect ν Unit :=
  ((RemoteMessenger.atAddress invocation.messenger).messenger machine.network).registerNode
    (node id address) topic

variable {machine invocation id address topic attempts network}

/-- The program crashes for want of room. It has sent nothing then, and says nothing else. -/
theorem register_crashes_iff {crash : Crash} :
    (register machine invocation id address topic attempts network).complaint =
        some (.crashed crash) ↔
      register machine invocation id address topic attempts network =
          ⟨[], some (.crashed crash), none, network⟩ ∧
        crash = .noRoomForFailures ∧ mostAttempts < attempts.toNat := by
  rw [← mostAttempts_lt_max_iff, ← Retry.bound_of_max attempts Retry.standard.baseDelay]
  refine ⟨fun complains => ?_, fun crashes => congrArg Done.complaint crashes.1⟩
  cases ran : Registration.run ((RemoteMessenger.atAddress invocation.messenger).messenger
      machine.network) id address topic ⟨max attempts 1, Retry.standard.baseDelay⟩ network with
  | error other =>
    have done : register machine invocation id address topic attempts network =
      ⟨[], some (.crashed other), none, network⟩ := by rw [register, ran]
    rw [done] at complains ⊢
    cases complains
    exact ⟨rfl, run_eq_error_iff.mp ran⟩
  | ok registration =>
    simp only [register, ran] at complains
    cases result : registration.result <;> simp [result] at complains

/-- When one of the calls that may be made is the first to succeed, the program registers the node
with that call exactly if there is room for all that may be made. -/
theorem registers_iff {k : Nat}
    (first : FirstSuccess (registering machine invocation id address topic) network k)
    (within : k ≤ max attempts.toNat 1) :
    register machine invocation id address topic attempts network =
        ⟨["Operator " ++ id.text ++ " registered on " ++ topic], none, none,
          after (registering machine invocation id address topic) network k⟩ ↔
      attempts.toNat ≤ mostAttempts := by
  rw [← Nat.not_lt, ← mostAttempts_lt_max_iff, Nat.not_lt]
  rw [← Retry.bound_of_max attempts Retry.standard.baseDelay] at within ⊢
  have ends := attempts_of_first first within
  refine Iff.trans ⟨fun registers => ?_, ?_⟩ (exists_run_iff ends)
  · cases ran : Registration.run ((RemoteMessenger.atAddress invocation.messenger).messenger
        machine.network) id address topic ⟨max attempts 1, Retry.standard.baseDelay⟩ network with
    | error crash =>
      rw [register, ran] at registers
      cases congrArg Done.complaint registers
    | ok registration =>
      obtain ⟨-, rfl⟩ := run_eq_ok_iff.mp ran
      exact ⟨_, rfl, ends⟩
  · rintro ⟨registration, returned, ends⟩
    rw [register, returned]
    simp only [ends.result, ends.left]

end Initiator

namespace Registration

/-- How many attempts are asked for decides whether a registration returns. Up to the greatest
number there is room for, it ends with the first call that succeeds if it may be made, and
otherwise gives up; more attempts than needed change nothing. Beyond that number it crashes without
a call, and nothing else crashes it. So it is with the program of an initiator. -/
theorem room_decides {σ ν : Type} (messenger : Messenger σ) (id : OperatorId)
    (address topic : String) (retry : Retry) (state : σ) (machine : Machine ν)
    (invocation : Invocation) (attempts : UInt64) (network : ν) :
    let call := messenger.registerNode ⟨id.text, address⟩ topic
    let request := Initiator.registering machine invocation id address topic
    let done := Initiator.register machine invocation id address topic attempts network
    ((∀ crash, run messenger id address topic retry state = .error crash ↔
        crash = .noRoomForFailures ∧ mostAttempts < retry.bound) ∧
      (∀ k, FirstSuccess call state k → k ≤ retry.bound →
        ((∃ registration, run messenger id address topic retry state = .ok registration ∧
          EndsWith call retry state k registration) ↔ retry.bound ≤ mostAttempts) ∧
        ∀ other : Retry, other.baseDelay = retry.baseDelay → k ≤ other.bound →
          retry.bound ≤ mostAttempts → other.bound ≤ mostAttempts →
          run messenger id address topic other state =
            run messenger id address topic retry state) ∧
      ((∀ k, FirstSuccess call state k → retry.bound < k) →
        ((∃ registration, run messenger id address topic retry state = .ok registration ∧
          GivesUp call retry state registration) ↔ retry.bound ≤ mostAttempts))) ∧
    (∀ crash, done.complaint = some (.crashed crash) ↔
      done = ⟨[], some (.crashed crash), none, network⟩ ∧
        crash = .noRoomForFailures ∧ mostAttempts < attempts.toNat) ∧
    ∀ k, FirstSuccess request network k → k ≤ max attempts.toNat 1 →
      (done = ⟨["Operator " ++ id.text ++ " registered on " ++ topic], none, none,
        after request network k⟩ ↔ attempts.toNat ≤ mostAttempts) := by
  refine ⟨⟨fun crash => run_eq_error_iff,
      fun k first within => ⟨exists_run_iff (attempts_of_first first within), ?_⟩,
      fun none => exists_run_iff (attempts_of_none none)⟩,
    fun crash => Initiator.register_crashes_iff,
    fun k first within => Initiator.registers_iff first within⟩
  intro other delays also room roomy
  rw [run_eq_ok room, run_eq_ok roomy]
  exact congrArg _ (attempts_eq_of_first first within also delays)

/-- A messenger that refuses nothing would accept the node at the first call. It does so when there
is just room for the attempts that may be made, but if one more may be made it is not called. -/
theorem accepted_registration_crashes :
    let register (attempts : UInt64) := run InMemory.messenger 7 "http://op7" "default"
      (Retry.immediate attempts) (InMemory.start false 0)
    FirstSuccess (InMemory.messenger.registerNode ⟨(7 : OperatorId).text, "http://op7"⟩ "default")
      (InMemory.start false 0) 1 ∧
    (∃ registration, register 384307168202282325 = .ok registration ∧
      registration.result = .ok () ∧ registration.calls = 1) ∧
    register 384307168202282326 = .error .noRoomForFailures ∧
    register 18446744073709551615 = .error .noRoomForFailures := by
  intro register
  have first : FirstSuccess
      (InMemory.messenger.registerNode ⟨(7 : OperatorId).text, "http://op7"⟩ "default")
      (InMemory.start false 0) 1 :=
    ⟨Nat.one_pos, rfl, fun i above below => absurd below (Nat.not_lt.mpr above)⟩
  have within : 1 ≤ (Retry.immediate 384307168202282325).bound := by decide
  have ends := attempts_of_first first within
  refine ⟨first, ⟨_, run_eq_ok (by decide), ends.result, ends.calls⟩, ?_, ?_⟩
  · exact run_eq_error_iff.mpr ⟨rfl, by decide⟩
  · exact run_eq_error_iff.mpr ⟨rfl, by decide⟩

end Registration

end Resharing
