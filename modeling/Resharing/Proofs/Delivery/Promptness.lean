import Mathlib.Order.Bounds.Defs
import Resharing.Proofs.Delivery.Line

/-!
# When calls begin

Let time pass only when no task is ready, and let nobody be overtaken on the first turn. While
nobody cancels, the calls then begin as early as the permits allow: that of a recipient at the
first instant at which fewer of those with lower numbers are unfinished than there are permits.
So they begin in the order of the numbers, and time passes only if all permits are in use or
nobody waits.

## Main definitions

* `Round.Prompt`: a step in turn that wastes no time
* `Round.Begins`: the call to a recipient begins

## Main results

* `Round.InLine.calls_eq`: time passes only while all permits are in use, if somebody waits
* `Round.isLeast_begins`: a call begins at the first instant at which it may
* `Round.now_eq_of_higher`: no call overtakes that to a lower number
* `Round.exists_begins`: every call begins
-/

namespace Resharing

/-- A call that has been started stays so, whatever the turn finds. -/
theorem Task.hasBegun_poll {τ : Type} {mission : Mission τ} {now : Nat} {task : Task}
    {shared : Shared τ} (cancelled : Bool) (begun : task.hasBegun = true) :
    (task.poll mission now cancelled shared).1.hasBegun = true := by
  cases cancelled with
  | false => exact (waiting_poll_begun mission now shared begun).1
  | true =>
    by_cases complete : task.isEnded = true
    · rw [poll_ended mission now true complete]
      exact begun
    · rw [poll_cancelled mission now (Bool.eq_false_iff.mpr complete)]
      rfl

namespace Round

variable {τ : Type} {mission : Mission τ} {recipients : List Operator}
  {round next moment finished : Round τ} {task : Task} {id lower : OperatorId}

/-! ### What lasts -/

theorem Step.begun_mono (step : Step mission round next) (begun : round.Begun id) :
    next.Begun id := by
  cases step with
  | @poll before after task place unfinished =>
    obtain ⟨other, member, same, begins⟩ := begun
    rw [place] at member
    rcases List.mem_append.mp member with earlier | here
    · exact ⟨other, List.mem_append_left _ earlier, same, begins⟩
    · rcases List.mem_cons.mp here with rfl | later
      · refine ⟨_, List.mem_append_right _ List.mem_cons_self, ?_, ?_⟩
        · rw [Task.id_poll, same]
        · exact Task.hasBegun_poll _ begins
      · exact ⟨other, List.mem_append_right _ (List.mem_cons_of_mem _ later), same, begins⟩
  | collect | lose | cancel | leave | pass => exact begun

theorem Runs.begun_mono (run : Runs mission round next) (begun : round.Begun id) :
    next.Begun id := by
  induction run with
  | refl => exact begun
  | tail _ step ih => exact step.begun_mono ih

theorem Step.unfinishedBelow_le (step : Step mission round next) (id : OperatorId) :
    next.unfinishedBelow id ≤ round.unfinishedBelow id := by
  cases step with
  | @poll before after task place unfinished =>
    simp only [unfinishedBelow, polled, place, List.countP_append, List.countP_cons, Task.id_poll,
      unfinished]
    split_ifs with counts old
    · exact Nat.le_refl _
    · simp_all
    · omega
    · omega
  | collect | lose | cancel | leave | pass => exact Nat.le_refl _

/-- Those below end one after the other. -/
theorem Runs.unfinishedBelow_le (run : Runs mission round next) (id : OperatorId) :
    next.unfinishedBelow id ≤ round.unfinishedBelow id := by
  induction run with
  | refl => exact Nat.le_refl _
  | tail _ step ih => exact Nat.le_trans (step.unfinishedBelow_le id) ih

/-! ### Time that passes -/

/-- A step in turn, by which time passes only if no task is ready. -/
def Prompt (mission : Mission τ) (round next : Round τ) : Prop :=
  Turn mission round next ∧ (round.fanout.now ≠ next.fanout.now →
    ∀ task ∈ round.fanout.tasks,
      ¬ task.Ready round.fanout.now round.isCancelled round.permits.granted)

/-- One thing after the other, in turn and without wasting time. -/
abbrev Prompts (mission : Mission τ) : Round τ → Round τ → Prop :=
  Relation.ReflTransGen (Prompt mission)

theorem Prompts.turns (prompts : Prompts mission round next) : Turns mission round next :=
  Relation.ReflTransGen.mono (fun _ _ prompt => prompt.1) _ _ prompts

theorem Prompts.runs (prompts : Prompts mission round next) : Runs mission round next :=
  prompts.turns.runs

/-- Who waits while no task is ready is in the queue. -/
theorem queued_of_idle {granted : List OperatorId} {now : Nat} {cancelled : Bool}
    (idle : ¬ task.Ready now cancelled granted) (waits : task.hasBegun = false) :
    task.phase = .queued ∧ task.id ∉ granted := by
  unfold Task.Ready at idle
  cases phase : task.phase with
  | fresh => simp [phase] at idle
  | queued =>
    simp only [phase, not_or] at idle
    exact ⟨rfl, idle.2⟩
  | calling call => simp [Task.hasBegun, phase] at waits
  | ended status => simp [Task.hasBegun, phase] at waits

/-- If somebody waits while no task is ready, all permits are in use. -/
theorem Orderly.calls_eq (orderly : round.Orderly mission recipients)
    (idle : ∀ task ∈ round.fanout.tasks,
      ¬ task.Ready round.fanout.now round.isCancelled round.permits.granted)
    (member : task ∈ round.fanout.tasks) (waits : task.hasBegun = false) :
    round.calls = mission.settings.permits := by
  obtain ⟨queued, ungranted⟩ := queued_of_idle (idle task member) waits
  have full := orderly.free_eq_zero member queued ungranted
  have none : round.permits.granted = [] := orderly.granted_eq_nil idle
  have sum := orderly.permits_add
  rw [full, none] at sum
  simpa using sum

/-- A recipient has a task throughout. -/
theorem Orderly.exists_task (orderly : round.Orderly mission recipients)
    (recipient : id ∈ (Fanout.targets recipients).ids) :
    ∃ task ∈ round.fanout.tasks, task.id = id := by
  rw [OperatorMap.ids, ← orderly.names, List.map_map] at recipient
  exact List.mem_map.mp recipient

theorem hasBegun_eq_false (waits : ¬ round.Begun task.id) (member : task ∈ round.fanout.tasks) :
    task.hasBegun = false :=
  Bool.eq_false_iff.mpr fun begun => waits ⟨task, member, rfl, begun⟩

/-- While a recipient that may begin has not begun, no time passes. -/
theorem Prompt.now_eq (prompt : Prompt mission round next)
    (orderly : round.Orderly mission recipients) (line : round.InLine)
    (recipient : id ∈ (Fanout.targets recipients).ids) (waits : ¬ round.Begun id)
    (few : round.unfinishedBelow id < mission.settings.permits) :
    round.fanout.now = next.fanout.now := by
  by_contra passes
  have idle := prompt.2 passes
  obtain ⟨task, member, rfl⟩ := orderly.exists_task recipient
  -- Nothing but a missing permit keeps it from beginning, and it has one.
  obtain ⟨queued, ungranted⟩ :=
    queued_of_idle (idle task member) (hasBegun_eq_false waits member)
  rcases (line.served_iff orderly member (by simp [Task.isEnded, queued])
    (by simp [queued])).mpr few with begun | ⟨-, granted⟩
  · exact waits ⟨task, member, rfl, begun⟩
  · exact ungranted granted

theorem Prompts.now_eq (prompts : Prompts mission moment round)
    (orderly : moment.Orderly mission recipients) (line : moment.InLine)
    (undisturbed : round.isCancelled = false)
    (recipient : id ∈ (Fanout.targets recipients).ids) (waits : ¬ round.Begun id)
    (few : moment.unfinishedBelow id < mission.settings.permits) :
    moment.fanout.now = round.fanout.now := by
  induction prompts with
  | refl => rfl
  | tail before prompt ih =>
    have still := Runs.undisturbed (.single prompt.1.1) undisturbed
    have waited := fun begun => waits (prompt.1.1.begun_mono begun)
    have run := Prompts.runs before
    have fewer := Nat.lt_of_le_of_lt (run.unfinishedBelow_le id) few
    rw [ih still waited]
    exact prompt.now_eq (run.orderly orderly)
      ((Prompts.turns before).inLine orderly line still) recipient waited fewer

/-! ### Calls that begin -/

/-- The call to a recipient begins. -/
def Begins (round next : Round τ) (id : OperatorId) : Prop := ¬ round.Begun id ∧ next.Begun id

theorem mem_targets_of_begun (orderly : round.Orderly mission recipients)
    (begun : round.Begun id) : id ∈ (Fanout.targets recipients).ids := by
  obtain ⟨task, member, rfl, -⟩ := begun
  rw [OperatorMap.ids, ← orderly.names, List.map_map]
  exact List.mem_map_of_mem (f := fun task : Task => task.id) member

/-- The call to a recipient begins at the first instant at which fewer of those with lower
numbers are unfinished than there are permits. -/
theorem isLeast_begins {start : Round τ} (orderly : start.Orderly mission recipients)
    (line : start.InLine) (prompts : Prompts mission start round)
    (prompt : Prompt mission round next) (undisturbed : next.isCancelled = false)
    (begins : Begins round next id) :
    IsLeast {instant | ∃ moment, Prompts mission start moment ∧ Prompts mission moment round ∧
      moment.unfinishedBelow id < mission.settings.permits ∧ moment.fanout.now = instant}
      round.fanout.now := by
  obtain ⟨waits, begun⟩ := begins
  have still := Runs.undisturbed (.single prompt.1.1) undisturbed
  have here := prompts.runs.orderly orderly
  have recipient := mem_targets_of_begun (here.step prompt.1.1) begun
  constructor
  · refine ⟨round, prompts, .refl, ?_, rfl⟩
    exact (prompts.turns.inLine orderly line still).unfinishedBelow_lt here prompt.1 undisturbed
      waits begun
  · rintro _ ⟨moment, before, rest, few, rfl⟩
    have quiet := rest.runs.undisturbed still
    exact Nat.le_of_eq (rest.now_eq (before.runs.orderly orderly)
      (before.turns.inLine orderly line quiet) still recipient waits few).symm

/-- When a call begins, no call to a higher number has begun at an earlier instant. -/
theorem now_eq_of_higher (orderly : moment.Orderly mission recipients) (line : moment.InLine)
    (prompts : Prompts mission moment round) (undisturbed : round.isCancelled = false)
    (recipient : lower ∈ (Fanout.targets recipients).ids) (waits : ¬ round.Begun lower)
    (less : lower < id) (begun : moment.Begun id) : moment.fanout.now = round.fanout.now := by
  obtain ⟨higher, inside, rfl, begins⟩ := begun
  obtain ⟨task, member, rfl⟩ := orderly.exists_task recipient
  have waited : ¬ moment.Begun task.id := fun already => waits (prompts.runs.begun_mono already)
  rcases line.served_of_lower orderly inside member less (.inl begins) with
    already | ⟨queued, granted⟩
  · exact absurd ⟨task, member, rfl, already⟩ waited
  · refine prompts.now_eq orderly line undisturbed recipient waits ?_
    exact (line.served_iff orderly member (by simp [Task.isEnded, queued]) (by simp [queued])).mp
      (.inr ⟨queued, granted⟩)

/-- What is not so in the beginning and is so in the end comes about by some step. -/
private theorem exists_change {α : Type} {r : α → α → Prop} {p : α → Prop} {a b : α}
    (run : Relation.ReflTransGen r a b) (first : ¬ p a) (last : p b) :
    ∃ c d, Relation.ReflTransGen r a c ∧ r c d ∧ Relation.ReflTransGen r d b ∧ ¬ p c ∧ p d := by
  induction run with
  | refl => exact absurd last first
  | @tail c d before step ih =>
    by_cases already : p c
    · obtain ⟨e, f, here, change, rest, no, yes⟩ := ih already
      exact ⟨e, f, here, change, rest.tail step, no, yes⟩
    · exact ⟨c, d, before, step, .refl, already, last⟩

/-- In a round that is over the calls to all recipients have begun. -/
theorem exists_begins {start : Round τ} (orderly : start.Orderly mission recipients)
    (idle : ¬ start.Begun id) (prompts : Prompts mission start finished)
    (complete : finished.IsOver) (recipient : id ∈ (Fanout.targets recipients).ids) :
    ∃ round next, Prompts mission start round ∧ Prompt mission round next ∧
      Prompts mission next finished ∧ Begins round next id := by
  have later := prompts.runs.orderly orderly
  have begun : finished.Begun id := by
    obtain ⟨task, member, rfl⟩ := later.exists_task recipient
    obtain ⟨status, phase⟩ := Task.isEnded_iff.mp (later.known.isEnded complete member)
    exact ⟨task, member, rfl, by rw [Task.hasBegun, phase]⟩
  obtain ⟨round, next, before, prompt, rest, waits, begins⟩ :=
    exists_change (p := fun round => round.Begun id) prompts idle begun
  exact ⟨round, next, before, prompt, rest, waits, begins⟩

end Round

end Resharing
