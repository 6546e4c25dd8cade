import Mathlib.Algebra.BigOperators.Group.Finset.Basic
import Mathlib.Algebra.GroupWithZero.Nat
import Mathlib.Logic.Function.Iterate
import Mathlib.Order.Interval.Finset.Nat
import Resharing.Messenger.InMemory
import Resharing.Messenger.Scripted
import Resharing.Proofs.Messenger.Logged
import Resharing.Registration.Basic

/-!
# How a registration ends

A registration makes the same call again and again. It ends with the first call that succeeds,
or when as many have failed as there may be. All that it brings about is told by the results of
the calls: how it ends, how many calls there are, what is waited for between them, and what is
reported of each failure. A policy that asks for no attempt gets one.

That it is the same call each time can be seen by the messenger, which is asked to write down all
that it is asked for.

## Main definitions

* `Registration.outcome`, `Registration.after`: the result of each call, and what it leaves
* `Registration.FirstSuccess`: the first call that succeeds
* `Registration.EndsWith`, `Registration.GivesUp`: the two ends of a registration

## Main results

* `Registration.attempts_of_first`, `Registration.attempts_of_none`: the two ends of the attempts
* `Registration.run_exact`: how a registration ends
-/

namespace Resharing

namespace Registration

variable {σ : Type} {call : Effect σ Unit} {retry : Retry} {state rejected accepted : σ}
  {errors : List Error} {failures : List String} {remaining attempt k bound : Nat}
  {registration : Registration σ}

/-! ### Calls in a row -/

/-- What a number of calls leave. -/
def after (call : Effect σ Unit) (state : σ) (calls : Nat) : σ :=
  (fun state => (call.perform state).2)^[calls] state

/-- The result of a call by its number. The first call has number one. -/
def outcome (call : Effect σ Unit) (state : σ) (number : Nat) : Except Error Unit :=
  (call.perform (after call state (number - 1))).1

/-- The first call that succeeds has a number. -/
structure FirstSuccess (call : Effect σ Unit) (state : σ) (number : Nat) : Prop where
  positive : 0 < number
  succeeds : outcome call state number = .ok ()
  earlier : ∀ i, 0 < i → i < number → outcome call state i ≠ .ok ()

/-- Calls in a row fail with errors and leave a state. -/
inductive Fails (call : Effect σ Unit) : σ → List Error → σ → Prop
  | none (state : σ) : Fails call state [] state
  | more {state next left : σ} {error : Error} {errors : List Error}
      (failed : call.perform state = (.error error, next)) (later : Fails call next errors left) :
      Fails call state (error :: errors) left

/-- Either a call succeeds while there may be more, or as many fail as there may be. -/
theorem success_or_failures (call : Effect σ Unit) (bound : Nat) (state : σ) :
    (∃ errors rejected accepted, errors.length < bound ∧ Fails call state errors rejected ∧
      call.perform rejected = (.ok (), accepted)) ∨
    ∃ errors rejected, errors.length = bound ∧ Fails call state errors rejected := by
  induction bound generalizing state with
  | zero => exact .inr ⟨[], state, rfl, .none state⟩
  | succ bound ih =>
    cases performed : call.perform state with
    | mk result next =>
      cases result with
      | ok _ => exact .inl ⟨[], state, next, bound.succ_pos, .none state, performed⟩
      | error error =>
        rcases ih next with ⟨errors, rejected, accepted, fewer, fails, succeeds⟩ |
          ⟨errors, rejected, all, fails⟩
        · exact .inl ⟨error :: errors, rejected, accepted, Nat.succ_lt_succ fewer,
            .more performed fails, succeeds⟩
        · exact .inr ⟨error :: errors, rejected, congrArg _ all, .more performed fails⟩

theorem Fails.after_eq (fails : Fails call state errors rejected) :
    after call state errors.length = rejected := by
  induction fails with
  | none state => rfl
  | more failed later ih =>
    rw [after, List.length_cons, Function.iterate_succ_apply, failed]
    exact ih

theorem Fails.outcome_eq (fails : Fails call state errors rejected) (i : Nat)
    (member : i < errors.length) : outcome call state (i + 1) = .error errors[i] := by
  induction fails generalizing i with
  | none state => simp at member
  | more failed later ih =>
    cases i with
    | zero => simp [outcome, after, failed]
    | succ i =>
      have next := ih i (Nat.lt_of_succ_lt_succ member)
      simpa [outcome, after, failed] using next

/-! ### The attempts -/

/-- What is reported of failures, the first of which has the given number. -/
def failureTexts : (first : Nat) → List Error → List String
  | _, [] => []
  | first, error :: errors => failureText first error :: failureTexts (first + 1) errors

theorem length_failureTexts (first : Nat) (errors : List Error) :
    (failureTexts first errors).length = errors.length := by
  induction errors generalizing first with
  | nil => rfl
  | cons error errors ih => exact congrArg _ (ih (first + 1))

theorem getElem?_failureTexts (first : Nat) (errors : List Error) (i : Nat) :
    (failureTexts first errors)[i]? = errors[i]?.map (failureText (first + i)) := by
  induction errors generalizing first i with
  | nil => rfl
  | cons error errors ih =>
    cases i with
    | zero => rfl
    | succ i =>
      rw [failureTexts, List.getElem?_cons_succ, List.getElem?_cons_succ, ih,
        Nat.add_right_comm, Nat.add_assoc]

theorem attempts_of_success (fails : Fails call state errors rejected)
    (succeeds : call.perform rejected = (.ok (), accepted)) (room : errors.length ≤ remaining) :
    attempts retry call remaining attempt failures state =
      ⟨.ok (), attempt + errors.length,
        (List.range' attempt errors.length).map retry.delayAfter, accepted⟩ := by
  induction fails generalizing remaining attempt failures with
  | none state =>
    rw [attempts.eq_def]
    simp [succeeds]
  | @more state next _ error errors failed later ih =>
    obtain ⟨remaining, rfl⟩ := Nat.exists_eq_add_of_le' (Nat.succ_le_of_lt room)
    rw [attempts, failed]
    simp only
    rw [ih succeeds (Nat.le_of_succ_le_succ room), List.length_cons, List.range'_succ,
      List.map_cons, Nat.add_right_comm, Nat.add_assoc]

/-- No delay follows the last failure. -/
theorem attempts_of_failures (fails : Fails call state errors rejected)
    (all : errors.length = remaining + 1) :
    attempts retry call remaining attempt failures state =
      ⟨.error (.notRegistered (attempt + remaining)
          (failures.reverse ++ failureTexts attempt errors)),
        attempt + remaining, (List.range' attempt remaining).map retry.delayAfter, rejected⟩ := by
  induction fails generalizing remaining attempt failures with
  | none state => simp at all
  | @more state next _ error errors failed later ih =>
    have fewer : errors.length = remaining := Nat.succ.inj all
    cases remaining with
    | zero =>
      rw [List.length_eq_zero_iff] at fewer
      subst fewer
      cases later
      rw [attempts, failed]
      simp [failureTexts]
    | succ remaining =>
      rw [attempts, failed]
      simp only
      rw [ih fewer, List.reverse_cons, List.append_assoc, List.singleton_append, failureTexts,
        List.range'_succ, List.map_cons, Nat.add_right_comm, Nat.add_assoc]

theorem run_eq_ok_iff {messenger : Messenger σ} {id : OperatorId} {address topic : String} :
    run messenger id address topic retry state = .ok registration ↔
      hasRoom retry.bound = true ∧
        attempts retry (messenger.registerNode (node id address) topic) (retry.bound - 1) 1 [] state
          = registration := by
  rw [run]
  split_ifs with room <;> simp [room]

/-! ### The calls that are written down -/

theorem Fails.noting {β : Type} (fails : Fails call state errors rejected) (entry : β)
    (log : List β) : Fails (call.noting entry) (state, log) errors
      (rejected, log ++ List.replicate errors.length entry) := by
  induction fails generalizing log with
  | none state =>
    rw [List.length_nil, List.replicate_zero, List.append_nil]
    exact .none _
  | more failed later ih =>
    have noted := ih (log ++ [entry])
    rw [List.append_assoc, List.singleton_append, ← List.replicate_succ] at noted
    refine .more ?_ noted
    rw [Effect.perform_noting, failed]

/-! ### The two ends -/

/-- The nanoseconds that were waited for altogether. -/
def waited (registration : Registration σ) : Nat := (registration.delays.map Duration.total).sum

/-- A registration ends with a call that succeeds. -/
structure EndsWith (call : Effect σ Unit) (retry : Retry) (state : σ) (number : Nat)
    (registration : Registration σ) : Prop where
  result : registration.result = .ok ()
  calls : registration.calls = number
  delays : registration.delays = (List.range' 1 (number - 1)).map retry.delayAfter
  waited : registration.waited = ∑ i ∈ Finset.Icc 1 (number - 1), (retry.delayAfter i).total
  left : registration.state = after call state number

/-- A registration ends when as many calls have failed as there may be. -/
structure GivesUp (call : Effect σ Unit) (retry : Retry) (state : σ)
    (registration : Registration σ) : Prop where
  /-- Each failure is told by its number and its error. -/
  result : ∃ failures, registration.result = .error (.notRegistered retry.bound failures) ∧
    failures.length = retry.bound ∧
    ∀ i, 0 < i → i ≤ retry.bound → ∃ error, outcome call state i = .error error ∧
      failures[i - 1]? = some ("attempt " ++ Decimal.text i ++ ": " ++ error.message)
  calls : registration.calls = retry.bound
  delays : registration.delays = (List.range' 1 (retry.bound - 1)).map retry.delayAfter
  waited : registration.waited = ∑ i ∈ Finset.Icc 1 (retry.bound - 1), (retry.delayAfter i).total
  left : registration.state = after call state retry.bound

theorem sum_delays (retry : Retry) (count : Nat) :
    (((List.range' 1 count).map retry.delayAfter).map Duration.total).sum =
      ∑ i ∈ Finset.Icc 1 count, (retry.delayAfter i).total := by
  rw [List.map_map, Nat.Icc_eq_range']
  rfl

/-- The call behind those that fail is the first that succeeds. -/
theorem Fails.firstSuccess_iff (fails : Fails call state errors rejected)
    (succeeds : call.perform rejected = (.ok (), accepted)) :
    FirstSuccess call state k ↔ k = errors.length + 1 := by
  have last : outcome call state (errors.length + 1) = .ok () := by
    rw [outcome, Nat.add_sub_cancel, fails.after_eq, succeeds]
  have before : ∀ i, 0 < i → i < errors.length + 1 → outcome call state i ≠ .ok () := by
    intro i positive small
    obtain ⟨i, rfl⟩ := Nat.exists_eq_add_of_le' positive
    rw [fails.outcome_eq i (Nat.lt_of_succ_lt_succ small)]
    exact nofun
  constructor
  · intro first
    rcases Nat.lt_trichotomy k (errors.length + 1) with sooner | same | later
    · exact absurd first.succeeds (before k first.positive sooner)
    · exact same
    · exact absurd last (first.earlier _ errors.length.succ_pos later)
  · rintro rfl
    exact ⟨errors.length.succ_pos, last, before⟩

theorem Fails.not_firstSuccess (fails : Fails call state errors rejected)
    (small : k ≤ errors.length) : ¬ FirstSuccess call state k := by
  intro first
  obtain ⟨i, rfl⟩ := Nat.exists_eq_add_of_le' first.positive
  have failed := fails.outcome_eq i small
  rw [first.succeeds] at failed
  simp at failed

theorem attempts_endsWith (fails : Fails call state errors rejected)
    (succeeds : call.perform rejected = (.ok (), accepted)) (room : errors.length ≤ remaining) :
    EndsWith call retry state (errors.length + 1)
      (attempts retry call remaining 1 failures state) := by
  rw [attempts_of_success fails succeeds room]
  refine ⟨rfl, Nat.add_comm _ _, rfl, sum_delays retry _, ?_⟩
  rw [after, Function.iterate_succ_apply', ← after, fails.after_eq, succeeds]

theorem attempts_givesUp (fails : Fails call state errors rejected)
    (all : errors.length = retry.bound) :
    GivesUp call retry state (attempts retry call (retry.bound - 1) 1 [] state) := by
  have positive : 0 < retry.bound := Nat.lt_of_lt_of_le Nat.zero_lt_one (Nat.le_max_right _ _)
  have whole : retry.bound - 1 + 1 = retry.bound := Nat.sub_add_cancel positive
  rw [attempts_of_failures fails (all.trans whole.symm), Nat.add_comm, whole]
  refine ⟨⟨failureTexts 1 errors, rfl, ?_, fun i above within => ?_⟩, rfl, rfl,
    sum_delays retry _, ?_⟩
  · rw [length_failureTexts, all]
  · obtain ⟨i, rfl⟩ := Nat.exists_eq_add_of_le' above
    have member : i < errors.length := all ▸ within
    refine ⟨errors[i], fails.outcome_eq i member, ?_⟩
    rw [Nat.add_sub_cancel, getElem?_failureTexts, List.getElem?_eq_getElem member,
      Option.map_some, failureText, Nat.add_comm]
  · rw [← all]
    exact fails.after_eq.symm

/-- All calls before the first one that succeeds fail. -/
theorem FirstSuccess.exists_fails (first : FirstSuccess call state k) :
    ∃ errors rejected accepted, k = errors.length + 1 ∧ Fails call state errors rejected ∧
      call.perform rejected = (.ok (), accepted) := by
  rcases success_or_failures call k state with
    ⟨errors, rejected, accepted, -, fails, succeeds⟩ | ⟨errors, rejected, all, fails⟩
  · exact ⟨errors, rejected, accepted, (fails.firstSuccess_iff succeeds).mp first, fails, succeeds⟩
  · exact absurd first (fails.not_firstSuccess all.ge)

/-- The attempts come to the first call that succeeds if the bound lets them. -/
theorem attempts_of_first (first : FirstSuccess call state k) (within : k ≤ retry.bound) :
    EndsWith call retry state k (attempts retry call (retry.bound - 1) 1 [] state) := by
  obtain ⟨errors, rejected, accepted, rfl, fails, succeeds⟩ := first.exists_fails
  exact attempts_endsWith fails succeeds (Nat.le_sub_one_of_lt within)

/-- If the bound lets no call succeed, the attempts are given up. -/
theorem attempts_of_none (none : ∀ k, FirstSuccess call state k → retry.bound < k) :
    GivesUp call retry state (attempts retry call (retry.bound - 1) 1 [] state) := by
  rcases success_or_failures call retry.bound state with
    ⟨errors, rejected, accepted, fewer, fails, succeeds⟩ | ⟨errors, rejected, all, fails⟩
  · have first := (fails.firstSuccess_iff succeeds).mpr rfl
    exact absurd (none _ first) (Nat.not_lt.mpr fewer)
  · exact attempts_givesUp fails all

/-- Writing the calls down changes nothing else. -/
theorem attempts_noting {β : Type} (call : Effect σ Unit) (entry : β) (retry : Retry)
    (remaining : Nat) (state : σ) :
    let registration := attempts retry call remaining 1 [] state
    attempts retry (call.noting entry) remaining 1 [] (state, []) =
      ⟨registration.result, registration.calls, registration.delays, registration.state,
        List.replicate registration.calls entry⟩ := by
  intro registration
  rcases success_or_failures call (remaining + 1) state with
    ⟨errors, rejected, accepted, fewer, fails, succeeds⟩ | ⟨errors, rejected, all, fails⟩
  · have room : errors.length ≤ remaining := Nat.le_of_lt_succ fewer
    have noted : (call.noting entry).perform (rejected, [] ++ List.replicate errors.length entry) =
        (.ok (), accepted, List.replicate (errors.length + 1) entry) := by
      rw [Effect.perform_noting, succeeds, List.nil_append, List.replicate_succ']
    rw [attempts_of_success (fails.noting entry []) noted room,
      show registration = _ from attempts_of_success fails succeeds room, Nat.add_comm]
  · rw [attempts_of_failures (fails.noting entry []) all,
      show registration = _ from attempts_of_failures fails all, List.nil_append, all,
      Nat.add_comm]

theorem run_logged {messenger : Messenger σ} {id : OperatorId} {address topic : String}
    (returned : run messenger id address topic retry state = .ok registration) :
    run messenger.logged id address topic retry (state, []) =
      .ok ⟨registration.result, registration.calls, registration.delays, registration.state,
        List.replicate registration.calls (.registerNode ⟨id.text, address⟩ topic)⟩ := by
  obtain ⟨room, rfl⟩ := run_eq_ok_iff.mp returned
  apply run_eq_ok_iff.mpr
  have noted := attempts_noting (messenger.registerNode (node id address) topic)
    (Messenger.Request.registerNode (node id address) topic) retry (retry.bound - 1) state
  exact ⟨room, noted⟩

/-- A registration that does not crash ends with the first call that succeeds, and if none does
within the bound it gives up. All its calls are for the same node and the same topic. -/
theorem run_exact (messenger : Messenger σ) (id : OperatorId) (address topic : String)
    (retry : Retry) (state : σ) (registration : Registration σ)
    (returned : run messenger id address topic retry state = .ok registration) :
    let call := messenger.registerNode ⟨id.text, address⟩ topic
    (∀ k, FirstSuccess call state k → k ≤ retry.bound → EndsWith call retry state k registration) ∧
    ((∀ k, FirstSuccess call state k → retry.bound < k) →
      GivesUp call retry state registration) ∧
    run messenger.logged id address topic retry (state, []) =
      .ok ⟨registration.result, registration.calls, registration.delays, registration.state,
        List.replicate registration.calls (.registerNode ⟨id.text, address⟩ topic)⟩ := by
  intro call
  have written := run_logged returned
  obtain ⟨-, rfl⟩ := run_eq_ok_iff.mp returned
  exact ⟨fun k first within => attempts_of_first first within, attempts_of_none, written⟩

/-- A messenger that is busy once registers the node at the second call. -/
theorem run_exact_busy_once :
    let messenger := Scripted.messenger InMemory.messenger
    let state : Scripted InMemory := ⟨[some (.messenger "busy")], .start false 0⟩
    let retry := Retry.backoff 3 (.ofMillis 200)
    ∃ registration, run messenger 7 "http://op7" "default" retry state = .ok registration ∧
      EndsWith (messenger.registerNode ⟨(7 : OperatorId).text, "http://op7"⟩ "default") retry
        state 2 registration := by
  intro messenger state retry
  have room : hasRoom retry.bound = true := by decide
  obtain ⟨registration, returned⟩ : ∃ registration,
    run messenger 7 "http://op7" "default" retry state = .ok registration := ⟨_, if_pos room⟩
  have exact := run_exact messenger 7 "http://op7" "default" retry state _ returned
  refine ⟨registration, returned, exact.1 2 ⟨by decide, rfl, fun i positive small => ?_⟩
    (by decide)⟩
  obtain rfl : i = 1 := by omega
  exact nofun

/-- A policy that asks for no attempt gets one. -/
example : (Retry.mk 0 .zero).bound = 1 := rfl

end Registration

end Resharing
