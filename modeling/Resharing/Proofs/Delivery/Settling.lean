import Mathlib.Data.List.Count
import Resharing.Proofs.Delivery.Progress

/-!
# One pass over the tasks

At each instant every task has one turn, in the order of the recipients. One pass is enough:
the tasks that have begun stand before those that wait, which stand in the order of the queue,
so a permit that comes back is granted to a task whose turn is still to come.

## Main definitions

* `Fanout.Lined`: those that wait stand behind, in the order of the queue
* `Fanout.unfinished`: how many tasks are not over

## Main results

* `Fanout.lined_pollAll`, `Fanout.lined_pollAll_fresh`: a pass leaves the tasks lined up
* `Fanout.Lined.idle`: after a pass no task is ready
* `Fanout.unfinished_pollAll_lt`: a pass ends the calls that are due
* `Fanout.pollAll_cancelled`: a cancelled pass ends everything
-/

namespace Resharing

/-- A permit that comes back leaves the order of those who wait as it is. -/
theorem Permits.waiting_release (permits : Permits) :
    permits.release.waiting = permits.waiting := by
  unfold release waiting
  cases queue : permits.queue <;> simp

namespace Task

variable {τ : Type} {mission : Mission τ} {now : Nat} {task : Task} {shared : Shared τ}

theorem waiting_proceed (call : Call) :
    (task.proceed mission now call shared).2.permits.waiting = shared.permits.waiting := by
  rw [proceed_eq]
  cases call.verdict now with
  | none => rfl
  | some status => exact Permits.waiting_release _

/-- A task that has begun neither waits nor makes others wait. -/
theorem waiting_poll_begun (mission : Mission τ) (now : Nat) (shared : Shared τ)
    (begun : task.hasBegun = true) :
    (task.poll mission now false shared).1.hasBegun = true ∧
      (task.poll mission now false shared).2.permits.waiting = shared.permits.waiting := by
  cases phase : task.phase with
  | calling call =>
    simpa [poll, phase] using ⟨hasBegun_proceed mission now, waiting_proceed call⟩
  | ended status => simpa [poll, phase] using begun
  | fresh => simp [hasBegun, phase] at begun
  | queued => simp [hasBegun, phase] at begun

/-- After its turn no call is due. -/
theorem lt_due_poll {call : Call}
    (calls : (task.poll mission now false shared).1.phase = .calling call) : now < call.due := by
  have proceeding : ∀ (old : Call) (shared : Shared τ),
      (task.proceed mission now old shared).1.phase = .calling call → now < call.due := by
    intro old shared calls
    rw [proceed_eq] at calls
    cases judged : old.verdict now with
    | none =>
      simp only [judged, Phase.calling.injEq] at calls
      exact calls ▸ (old.verdict_eq_none_iff now).mp judged
    | some status => simp [judged, ended] at calls
  rcases task.poll_cases mission now shared with
    ⟨turn, complete | ⟨queued, -⟩⟩ | ⟨-, permits, turn⟩ | ⟨-, permits, turn⟩ | ⟨old, -, turn⟩
  · obtain ⟨status, phase⟩ := isEnded_iff.mp complete
    simp [turn, phase] at calls
  · simp [turn, queued] at calls
  · simp [turn] at calls
  · rw [turn, start_eq] at calls
    exact proceeding _ _ calls
  · rw [turn] at calls
    exact proceeding _ _ calls

/-- What is over stays over. -/
theorem isEnded_poll (cancelled : Bool) (complete : task.isEnded = true) :
    (task.poll mission now cancelled shared).1.isEnded = true := by
  rw [poll_ended mission now cancelled complete]
  exact complete

/-- A call that is due ends when its task has its turn. -/
theorem isEnded_poll_due (mission : Mission τ) (shared : Shared τ) {call : Call}
    (phase : task.phase = .calling call) (due : call.due ≤ now) :
    (task.poll mission now false shared).1.isEnded = true := by
  have judged : call.verdict now ≠ none := fun none =>
    absurd ((call.verdict_eq_none_iff now).mp none) (Nat.not_lt.mpr due)
  obtain ⟨status, verdict⟩ := Option.ne_none_iff_exists'.mp judged
  simp [poll, phase, proceed_eq, verdict]

/-- A task that has had a turn is not fresh. -/
theorem phase_poll_ne_fresh {cancelled : Bool} :
    (task.poll mission now cancelled shared).1.phase ≠ .fresh := by
  have begun : ∀ turn : Task, turn.hasBegun = true → turn.phase ≠ .fresh := by
    intro turn begins fresh
    simp [hasBegun, fresh] at begins
  cases cancelled with
  | true =>
    unfold poll abandon
    cases phase : task.phase <;> simp [phase, ended]
  | false =>
    rcases task.poll_cases mission now shared with
      ⟨turn, complete | ⟨queued, -⟩⟩ | ⟨-, permits, turn⟩ | ⟨-, permits, turn⟩ | ⟨call, -, turn⟩
    · obtain ⟨status, phase⟩ := isEnded_iff.mp complete
      simp [turn, phase]
    · simp [turn, queued]
    · simp [turn]
    · rw [turn, start_eq]
      exact begun _ (hasBegun_proceed mission now)
    · rw [turn]
      exact begun _ (hasBegun_proceed mission now)

end Task

namespace Fanout

variable {τ : Type} {mission : Mission τ} {now : Nat} {tasks front back : List Task} {task : Task}
  {shared : Shared τ} {permits : Permits}

theorem pollAll_cons (cancelled : Bool) (task : Task) (rest : List Task) (shared : Shared τ) :
    pollAll mission now cancelled (task :: rest) shared =
      let turn := task.poll mission now cancelled shared
      let others := pollAll mission now cancelled rest turn.2
      (turn.1 :: others.1, others.2) := rfl

theorem pollAll_append (cancelled : Bool) (front back : List Task) (shared : Shared τ) :
    pollAll mission now cancelled (front ++ back) shared =
      let first := pollAll mission now cancelled front shared
      let others := pollAll mission now cancelled back first.2
      (first.1 ++ others.1, others.2) := by
  induction front generalizing shared with
  | nil => rfl
  | cons task rest ih => simp only [List.cons_append, pollAll_cons, ih]

/-! ### Who waits stands behind -/

/-- The tasks that have begun stand before those that wait. Those are in the queue, in their
order, and no grant is to be picked up. -/
structure Lined (tasks : List Task) (permits : Permits) : Prop where
  ungranted : permits.granted = []
  /-- Those that have begun, and then the queue. -/
  split : ∃ front back, tasks = front ++ back ∧ (∀ task ∈ front, task.hasBegun = true) ∧
    (∀ task ∈ back, task.phase = .queued) ∧ permits.queue = back.map (·.id)

theorem Lined.append (lined : Lined tasks permits)
    (begun : ∀ task ∈ front, task.hasBegun = true) : Lined (front ++ tasks) permits := by
  obtain ⟨ungranted, middle, back, rfl, begunToo, queued, queue⟩ := lined
  refine ⟨ungranted, front ++ middle, back, by rw [List.append_assoc], ?_, queued, queue⟩
  intro task member
  rcases List.mem_append.mp member with first | later
  · exact begun task first
  · exact begunToo task later

theorem Lined.cons (lined : Lined tasks permits) (begun : task.hasBegun = true) :
    Lined (task :: tasks) permits := by
  have first : ∀ only ∈ [task], only.hasBegun = true := by simpa using begun
  exact lined.append first

theorem lined_queued (ungranted : permits.granted = [])
    (queued : ∀ task ∈ tasks, task.phase = .queued) (queue : permits.queue = tasks.map (·.id)) :
    Lined tasks permits :=
  ⟨ungranted, [], tasks, rfl, by simp, queued, queue⟩

theorem pollAll_begun (mission : Mission τ) (now : Nat)
    (begun : ∀ task ∈ tasks, task.hasBegun = true) (shared : Shared τ) :
    (∀ task ∈ (pollAll mission now false tasks shared).1, task.hasBegun = true) ∧
      (pollAll mission now false tasks shared).2.permits.waiting = shared.permits.waiting := by
  induction tasks generalizing shared with
  | nil => exact ⟨by simp [pollAll], rfl⟩
  | cons task rest ih =>
    obtain ⟨begins, waiting⟩ := Task.waiting_poll_begun mission now shared
      (begun task List.mem_cons_self)
    obtain ⟨others, same⟩ := ih (fun task member => begun task (List.mem_cons_of_mem _ member))
      (task.poll mission now false shared).2
    rw [pollAll_cons]
    exact ⟨by simpa using ⟨begins, others⟩, same.trans waiting⟩

/-- Without a grant those that wait go on waiting. -/
theorem pollAll_queued (queued : ∀ task ∈ tasks, task.phase = .queued)
    (ungranted : shared.permits.granted = []) :
    pollAll mission now false tasks shared = (tasks, shared) := by
  induction tasks with
  | nil => rfl
  | cons task rest ih =>
    have still : task.poll mission now false shared = (task, shared) := by
      simp [Task.poll, queued task List.mem_cons_self, Permits.claim, ungranted]
    rw [pollAll_cons, still]
    simp only [ih fun task member => queued task (List.mem_cons_of_mem _ member)]

/-- Those that wait in the order of the grants and the queue are lined up by their turns. -/
theorem lined_pollAll_queued (queued : ∀ task ∈ tasks, task.phase = .queued)
    (waiting : shared.permits.waiting = tasks.map (·.id)) :
    Lined (pollAll mission now false tasks shared).1
      (pollAll mission now false tasks shared).2.permits := by
  induction tasks generalizing shared with
  | nil =>
    have none := List.append_eq_nil_iff.mp waiting
    exact lined_queued none.1 (by simp [pollAll]) none.2
  | cons task rest ih =>
    have others : ∀ task ∈ rest, task.phase = .queued := fun task member =>
      queued task (List.mem_cons_of_mem _ member)
    cases granted : shared.permits.granted with
    | nil =>
      rw [pollAll_queued queued granted]
      refine lined_queued granted queued ?_
      rwa [Permits.waiting, granted, List.nil_append] at waiting
    | cons first grants =>
      rw [Permits.waiting, granted, List.cons_append, List.map_cons, List.cons.injEq] at waiting
      obtain ⟨rfl, waiting⟩ := waiting
      have claimed : shared.permits.claim task.id =
          some { shared.permits with granted := grants } := by
        simp [Permits.claim, granted]
      have turn : task.poll mission now false shared = task.start mission now
          { shared with permits := { shared.permits with granted := grants } } := by
        simp [Task.poll, queued task List.mem_cons_self, claimed]
      rw [pollAll_cons, turn, Task.start_eq]
      refine (ih others ?_).cons (Task.hasBegun_proceed mission now)
      rw [Task.waiting_proceed]
      exact waiting

theorem lined_pollAll (lined : Lined tasks shared.permits) :
    Lined (pollAll mission now false tasks shared).1
      (pollAll mission now false tasks shared).2.permits := by
  obtain ⟨ungranted, front, back, rfl, begun, queued, queue⟩ := lined
  obtain ⟨begins, waiting⟩ := pollAll_begun mission now begun shared
  rw [pollAll_append]
  refine (lined_pollAll_queued queued ?_).append begins
  rw [waiting, Permits.waiting, ungranted, queue, List.nil_append]

/-! ### The first pass -/

/-- When no permit is free, all tasks join the queue. -/
theorem pollAll_fresh_full (mission : Mission τ) (now : Nat)
    (fresh : ∀ task ∈ tasks, task.phase = .fresh) (full : shared.permits.free = 0)
    (ungranted : shared.permits.granted = []) :
    (∀ task ∈ (pollAll mission now false tasks shared).1, task.phase = .queued) ∧
      (pollAll mission now false tasks shared).2.permits.granted = [] ∧
      (pollAll mission now false tasks shared).2.permits.queue =
        shared.permits.queue ++ (pollAll mission now false tasks shared).1.map (·.id) := by
  induction tasks generalizing shared with
  | nil => exact ⟨by simp [pollAll], ungranted, by simp [pollAll]⟩
  | cons task rest ih =>
    have turn : task.poll mission now false shared = ({ task with phase := .queued },
        { shared with
          permits := { shared.permits with queue := shared.permits.queue ++ [task.id] } }) := by
      simp [Task.poll, fresh task List.mem_cons_self, Permits.ask, full]
    rw [pollAll_cons, turn]
    obtain ⟨queued, none, queue⟩ := @ih { shared with
      permits := { shared.permits with queue := shared.permits.queue ++ [task.id] } }
      (fun task member => fresh task (List.mem_cons_of_mem _ member)) full ungranted
    exact ⟨by simpa using queued, none, by simp [queue]⟩

/-- The first pass lines the tasks up. -/
theorem lined_pollAll_fresh (fresh : ∀ task ∈ tasks, task.phase = .fresh)
    (nobody : shared.permits.waiting = []) :
    Lined (pollAll mission now false tasks shared).1
      (pollAll mission now false tasks shared).2.permits := by
  induction tasks generalizing shared with
  | nil => exact lined_pollAll_queued (by simp) nobody
  | cons task rest ih =>
    obtain ⟨ungranted, idle⟩ := List.append_eq_nil_iff.mp nobody
    cases free : shared.permits.free with
    | zero =>
      -- From here on nobody gets a permit in this pass.
      obtain ⟨queued, none, queue⟩ := pollAll_fresh_full mission now fresh free ungranted
      exact lined_queued none queued (by rw [queue, idle, List.nil_append])
    | succ spare =>
      have turn : task.poll mission now false shared = task.start mission now
          { shared with permits := { shared.permits with free := spare } } := by
        simp [Task.poll, fresh task List.mem_cons_self, Permits.ask, free]
      rw [pollAll_cons, turn, Task.start_eq]
      refine (ih (fun task member => fresh task (List.mem_cons_of_mem _ member)) ?_).cons
        (Task.hasBegun_proceed mission now)
      rw [Task.waiting_proceed]
      exact nobody

/-! ### After a pass -/

theorem lt_due_pollAll {call : Call} (shared : Shared τ)
    (member : task ∈ (pollAll mission now false tasks shared).1)
    (calls : task.phase = .calling call) : now < call.due := by
  induction tasks generalizing shared with
  | nil => simp [pollAll] at member
  | cons first rest ih =>
    rw [pollAll_cons] at member
    rcases List.mem_cons.mp member with rfl | later
    · exact Task.lt_due_poll calls
    · exact ih _ later

/-- In a line without a call that is due no task is ready. -/
theorem Lined.idle (lined : Lined tasks permits)
    (quiet : ∀ task ∈ tasks, ∀ call, task.phase = .calling call → now < call.due) :
    ∀ task ∈ tasks, ¬ task.Ready now false permits.granted := by
  intro task member ready
  obtain ⟨ungranted, front, back, rfl, begun, queued, -⟩ := lined
  cases phase : task.phase with
  | fresh =>
    rcases List.mem_append.mp member with first | later
    · simpa [Task.hasBegun, phase] using begun task first
    · simp [queued task later] at phase
  | queued => simp [Task.Ready, phase, ungranted] at ready
  | calling call =>
    simp only [Task.Ready, phase, Bool.false_eq_true, false_or] at ready
    exact Nat.not_lt.mpr ready (quiet task member call phase)
  | ended status => simp [Task.Ready, phase] at ready

/-- How many tasks are not over. -/
def unfinished (tasks : List Task) : Nat := tasks.countP fun task => !task.isEnded

theorem unfinished_eq_zero_iff : unfinished tasks = 0 ↔ tasks.all Task.isEnded = true := by
  simp [unfinished, List.countP_eq_zero]

theorem unfinished_cons_le {other : Task}
    (keeps : task.isEnded = true → other.isEnded = true) {rest others : List Task}
    (le : unfinished others ≤ unfinished rest) :
    unfinished (other :: others) ≤ unfinished (task :: rest) := by
  unfold unfinished at *
  rw [List.countP_cons, List.countP_cons]
  cases ended : task.isEnded with
  | true => simpa [keeps ended] using le
  | false =>
    simp only [Bool.not_false, if_true]
    split_ifs <;> omega

theorem unfinished_pollAll_le (mission : Mission τ) (now : Nat) (cancelled : Bool)
    (tasks : List Task) (shared : Shared τ) :
    unfinished (pollAll mission now cancelled tasks shared).1 ≤ unfinished tasks := by
  induction tasks generalizing shared with
  | nil => exact Nat.le_refl _
  | cons task rest ih =>
    rw [pollAll_cons]
    exact unfinished_cons_le (Task.isEnded_poll cancelled) (ih _)

/-- A pass ends a call that is due. -/
theorem unfinished_pollAll_lt {call : Call} (member : task ∈ tasks)
    (calls : task.phase = .calling call) (due : call.due ≤ now) (shared : Shared τ) :
    unfinished (pollAll mission now false tasks shared).1 < unfinished tasks := by
  induction tasks generalizing shared with
  | nil => simp at member
  | cons first rest ih =>
    rw [pollAll_cons]
    rcases List.mem_cons.mp member with rfl | later
    · have complete := Task.isEnded_poll_due mission shared calls due
      have unended : task.isEnded = false := by simp [Task.isEnded, calls]
      have others := unfinished_pollAll_le mission now false rest
        (task.poll mission now false shared).2
      simp only [unfinished, List.countP_cons, complete, unended] at others ⊢
      simpa using Nat.lt_succ_of_le others
    · have others := ih later (first.poll mission now false shared).2
      simp only [unfinished, List.countP_cons] at others ⊢
      cases complete : first.isEnded with
      | true =>
        simp only [Task.isEnded_poll false complete]
        omega
      | false =>
        simp only [Bool.not_false, if_true]
        split_ifs <;> omega

/-- What a cancellation makes of a task. -/
def cut (task : Task) : Task := if task.isEnded then task else task.ended .cancelled

/-- A pass after the cancellation ends everything that is not over, as cancelled. -/
theorem pollAll_cancelled (tasks : List Task) (shared : Shared τ) :
    (pollAll mission now true tasks shared).1 = tasks.map cut := by
  induction tasks generalizing shared with
  | nil => rfl
  | cons task rest ih =>
    rw [pollAll_cons, List.map_cons]
    simp only [ih, List.cons.injEq, and_true]
    unfold cut
    cases complete : task.isEnded with
    | true => simp [Task.poll_ended mission now true complete]
    | false => simp [Task.poll_cancelled mission now complete]

end Fanout

end Resharing
