import Resharing.Proofs.Delivery.Usage

/-!
# First come, first served

The queue for permits is as long as nobody is overtaken on the first turn: the tasks that have a
permit, or have had one, come first, then those in the queue, in its order, and then those that
have not had a turn. So the permits go to the recipients in the order of their numbers, and
whether a recipient has its permit can be told from those before it: it has one as soon as
fewer of them are unfinished than there are permits.

## Main definitions

* `Round.Turn`: a step that keeps the first turns in their order
* `Task.Served`: a task that has its permit, or has had it
* `Fanout.InLine`: those served, the queue, and those without a turn
* `Round.unfinishedBelow`: how many recipients with lower numbers are unfinished

## Main results

* `Fanout.InLine.poll`, `Round.Turns.inLine`: the line is kept
* `Round.InLine.served_of_lower`: permits go out in the order of the numbers
* `Round.InLine.served_iff`: who has its permit is told from the numbers below
* `Round.InLine.unfinishedBelow_lt`: so is who may begin
-/

namespace Resharing

/-! ### One place in a list of two parts -/

section

variable {α : Type} {front back before after : List α} {a : α}

/-- What is not in the second part stands in the first. -/
private theorem exists_of_not_mem_right (place : front ++ back = before ++ a :: after)
    (absent : a ∉ back) : ∃ rest, front = before ++ a :: rest ∧ after = rest ++ back := by
  rcases List.append_eq_append_iff.mp place with ⟨middle, -, rfl⟩ | ⟨middle, rfl, split⟩
  · exact absurd (List.mem_append_right _ List.mem_cons_self) absent
  · cases middle with
    | nil => exact absurd (List.nil_append back ▸ split ▸ List.mem_cons_self) absent
    | cons head rest =>
      obtain ⟨rfl, rfl⟩ := List.cons.inj split
      exact ⟨rest, rfl, rfl⟩

/-- What is not in the first part stands in the second. -/
private theorem exists_of_not_mem_left (place : front ++ back = before ++ a :: after)
    (absent : a ∉ front) : ∃ middle, before = front ++ middle ∧ back = middle ++ a :: after := by
  rcases List.append_eq_append_iff.mp place with ⟨middle, rfl, rfl⟩ | ⟨middle, rfl, split⟩
  · exact ⟨middle, rfl, rfl⟩
  · cases middle with
    | nil => exact ⟨[], by simp, by simpa using split.symm⟩
    | cons head rest =>
      obtain ⟨rfl, -⟩ := List.cons.inj split
      exact absurd (by simp) absent

end

/-! ### The line -/

/-- The task has its permit, or has had it, or has a grant that it may pick up. -/
def Task.Served (granted : List OperatorId) (task : Task) : Prop :=
  task.hasBegun = true ∨ task.phase = .queued ∧ task.id ∈ granted

/-- Who is served and not over has one permit, in use or granted. -/
theorem Task.Served.permits_eq {task : Task} {granted : List OperatorId}
    (served : task.Served granted) :
    (if (!task.isEnded) = true then 1 else 0) = task.calls + task.waiters.length := by
  cases phase : task.phase with
  | fresh =>
    rcases served with begun | ⟨queued, -⟩
    · simp [Task.hasBegun, phase] at begun
    · simp [phase] at queued
  | queued => simp [Task.isEnded, Task.calls, Task.waiters, phase]
  | calling call => simp [Task.isEnded, Task.calls, Task.waiters, phase]
  | ended status => simp [Task.isEnded, Task.calls, Task.waiters, phase]

/-- A look at a call leaves the permits as they are, or gives one back. -/
theorem Task.permits_proceed {τ : Type} (mission : Mission τ) (now : Nat) (task : Task)
    (call : Call) (shared : Shared τ) :
    (task.proceed mission now call shared).2.permits = shared.permits ∨
      (task.proceed mission now call shared).2.permits = shared.permits.release := by
  rw [proceed_eq]
  cases call.verdict now with
  | none => exact .inl rfl
  | some status => exact .inr rfl

namespace Fanout

variable {τ : Type} {mission : Mission τ} {now total : Nat} {shared : Shared τ}
  {permits : Permits} {tasks front waiting fresh before after rest : List Task}
  {task other : Task}

/-- A line in three parts. -/
structure Line (front waiting fresh : List Task) (permits : Permits) : Prop where
  served : ∀ task ∈ front, task.Served permits.granted
  queued : ∀ task ∈ waiting, task.phase = .queued
  queue : permits.queue = waiting.map (·.id)
  untouched : ∀ task ∈ fresh, task.phase = .fresh

/-- Those that are served stand first, then those in the queue, in its order, then those that
have not had a turn. -/
def InLine (tasks : List Task) (permits : Permits) : Prop :=
  ∃ front waiting fresh, tasks = front ++ waiting ++ fresh ∧ Line front waiting fresh permits

namespace Line

variable (line : Line front waiting fresh permits)

include line

/-- Who is in the queue has no grant. -/
theorem not_served_of_mem_waiting (nodup : permits.waiting.Nodup) (member : task ∈ waiting) :
    ¬ task.Served permits.granted := by
  have phase := line.queued task member
  have inQueue : task.id ∈ permits.queue := by
    rw [line.queue]
    exact List.mem_map_of_mem member
  rintro (begun | ⟨-, granted⟩)
  · simp [Task.hasBegun, phase] at begun
  · exact (List.disjoint_of_nodup_append nodup) granted inQueue

theorem not_served_of_mem_fresh (member : task ∈ fresh) : ¬ task.Served permits.granted := by
  have phase := line.untouched task member
  rintro (begun | ⟨queued, -⟩)
  · simp [Task.hasBegun, phase] at begun
  · simp [phase] at queued

/-- Who is served stands in the front. -/
theorem exists_front (nodup : permits.waiting.Nodup)
    (place : front ++ waiting ++ fresh = before ++ task :: after)
    (served : task.Served permits.granted) :
    ∃ rest, front = before ++ task :: rest ∧ after = rest ++ (waiting ++ fresh) := by
  rw [List.append_assoc] at place
  refine exists_of_not_mem_right place fun member => ?_
  rcases List.mem_append.mp member with queued | untouched
  · exact line.not_served_of_mem_waiting nodup queued served
  · exact line.not_served_of_mem_fresh untouched served

/-- Who is not served stands behind the front. -/
theorem exists_back (place : front ++ waiting ++ fresh = before ++ task :: after)
    (unserved : ¬ task.Served permits.granted) :
    ∃ middle, before = front ++ middle ∧ waiting ++ fresh = middle ++ task :: after := by
  rw [List.append_assoc] at place
  exact exists_of_not_mem_left place fun member => unserved (line.served task member)

/-- The first of those without a turn stands right behind the queue. -/
theorem eq_of_first (place : front ++ waiting ++ fresh = before ++ task :: after)
    (phase : task.phase = .fresh) (first : ∀ earlier ∈ before, earlier.phase ≠ .fresh) :
    before = front ++ waiting ∧ fresh = task :: after := by
  have absent : task ∉ front ++ waiting := by
    intro member
    rcases List.mem_append.mp member with served | queued
    · rcases line.served task served with begun | ⟨queued, -⟩
      · simp [Task.hasBegun, phase] at begun
      · simp [phase] at queued
    · simp [line.queued task queued] at phase
  obtain ⟨middle, rfl, rfl⟩ := exists_of_not_mem_left place absent
  -- Whoever stood between would be fresh, and so not before the first of the fresh ones.
  have none : middle = [] := by
    refine List.eq_nil_iff_forall_not_mem.mpr fun earlier member => ?_
    exact first earlier (by simp [member]) (line.untouched earlier (by simp [member]))
  exact ⟨by simp [none], by simp [none]⟩

/-- A permit that comes back serves the first in the queue. -/
theorem release : InLine (front ++ waiting ++ fresh) permits.release := by
  obtain ⟨served, queued, queue, untouched⟩ := line
  unfold Permits.release
  cases waiting with
  | nil =>
    rw [List.map_nil] at queue
    refine ⟨front, [], fresh, rfl, ?_⟩
    rw [queue]
    exact ⟨served, queued, rfl, untouched⟩
  | cons next others =>
    rw [List.map_cons] at queue
    refine ⟨front ++ [next], others, fresh, by simp, ?_⟩
    rw [queue]
    refine ⟨?_, fun task member => queued task (List.mem_cons_of_mem _ member), rfl, untouched⟩
    intro task member
    rcases List.mem_append.mp member with old | new
    · exact (served task old).imp_right fun ⟨phase, granted⟩ =>
        ⟨phase, List.mem_append_left _ granted⟩
    · obtain rfl := List.mem_singleton.mp new
      exact .inr ⟨queued task List.mem_cons_self, by simp⟩

/-- One of those served begins, and the others keep their grants. -/
theorem serve {granted : List OperatorId} (split : front = before ++ task :: rest)
    (begun : other.hasBegun = true)
    (kept : ∀ another ∈ before ++ rest, another.id ∈ permits.granted → another.id ∈ granted) :
    InLine (before ++ other :: (rest ++ (waiting ++ fresh))) { permits with granted } := by
  obtain ⟨served, queued, queue, untouched⟩ := line
  subst split
  refine ⟨before ++ other :: rest, waiting, fresh, by simp, ?_, queued, queue, untouched⟩
  intro some member
  rcases List.mem_append.mp member with earlier | here
  · exact (served some (by simp [earlier])).imp_right fun ⟨phase, has⟩ =>
      ⟨phase, kept some (by simp [earlier]) has⟩
  · rcases List.mem_cons.mp here with rfl | later
    · exact .inl begun
    · exact (served some (by simp [later])).imp_right fun ⟨phase, has⟩ =>
        ⟨phase, kept some (by simp [later]) has⟩

end Line

/-! ### Turns keep the line -/

/-- A look at a call serves at most another one. -/
theorem InLine.proceed (call : Call) (line : InLine tasks shared.permits) :
    InLine tasks (task.proceed mission now call shared).2.permits := by
  rcases task.permits_proceed mission now call shared with same | released
  · rwa [same]
  · obtain ⟨front, waiting, fresh, split, line⟩ := line
    rw [released, split]
    exact line.release

theorem InLine.poll (line : InLine (before ++ task :: after) shared.permits)
    (names : ((before ++ task :: after).map (·.id)).Nodup) (nodup : shared.permits.waiting.Nodup)
    (thrifty : shared.permits.queue ≠ [] → shared.permits.free = 0)
    (first : task.phase = .fresh → ∀ earlier ∈ before, earlier.phase ≠ .fresh) :
    InLine (before ++ (task.poll mission now false shared).1 :: after)
      (task.poll mission now false shared).2.permits := by
  obtain ⟨front, waiting, fresh, place, line⟩ := line
  cases phase : task.phase with
  | ended status =>
    simp only [Task.poll, phase, Bool.false_eq_true, if_false]
    exact ⟨front, waiting, fresh, place, line⟩
  | calling call =>
    have served : task.Served shared.permits.granted := .inl (by simp [Task.hasBegun, phase])
    obtain ⟨rest, split, rfl⟩ := line.exists_front nodup place.symm served
    simp only [Task.poll, phase, Bool.false_eq_true, if_false]
    refine InLine.proceed call (line.serve split (Task.hasBegun_proceed mission now) ?_)
    exact fun _ _ granted => granted
  | queued =>
    cases claimed : shared.permits.claim task.id with
    | none =>
      simp only [Task.poll, phase, claimed, Bool.false_eq_true, if_false]
      exact ⟨front, waiting, fresh, place, line⟩
    | some permits =>
      unfold Permits.claim at claimed
      split_ifs at claimed with granted
      obtain rfl := Option.some.inj claimed
      obtain ⟨rest, split, rfl⟩ := line.exists_front nodup place.symm (.inr ⟨phase, granted⟩)
      simp only [Task.poll, phase, Permits.claim, if_pos granted, Bool.false_eq_true, if_false,
        Task.start_eq]
      refine InLine.proceed _ (line.serve split (Task.hasBegun_proceed mission now) ?_)
      intro another member has
      -- Its grant is its own: nobody else has this number.
      have elsewhere : another ∈ before ++ (rest ++ (waiting ++ fresh)) := by
        rw [← List.append_assoc]
        exact List.mem_append_left _ member
      rw [List.map_append, List.map_cons, List.nodup_middle, List.nodup_cons,
        ← List.map_append] at names
      have different : another.id ≠ task.id := fun same =>
        names.1 (same ▸ List.mem_map_of_mem elsewhere)
      exact (List.mem_erase_of_ne different).mpr has
  | fresh =>
    obtain ⟨rfl, rfl⟩ := line.eq_of_first place.symm phase (first phase)
    obtain ⟨served, queued, queue, untouched⟩ := line
    have others : ∀ task ∈ after, task.phase = .fresh := fun task member =>
      untouched task (List.mem_cons_of_mem _ member)
    cases free : shared.permits.free with
    | zero =>
      simp only [Task.poll, phase, Permits.ask, free, Bool.false_eq_true, if_false]
      refine ⟨front, waiting ++ [{ task with phase := .queued }], after, by simp, served, ?_,
        by simp [queue], others⟩
      intro some member
      rcases List.mem_append.mp member with old | new
      · exact queued some old
      · obtain rfl := List.mem_singleton.mp new
        rfl
    | succ spare =>
      -- A permit is free, so nobody is in the queue and the task is served at once.
      have idle : shared.permits.queue = [] := not_not.mp fun busy => by
        simp [thrifty busy] at free
      obtain rfl : waiting = [] := List.map_eq_nil_iff.mp (queue ▸ idle)
      simp only [Task.poll, phase, Permits.ask, free, Bool.false_eq_true, if_false, Task.start_eq]
      refine InLine.proceed _ ⟨front ++ [_], [], after, by simp; rfl, ?_, by simp, queue, others⟩
      intro some member
      rcases List.mem_append.mp member with old | new
      · exact served some old
      · obtain rfl := List.mem_singleton.mp new
        exact .inl (Task.hasBegun_proceed mission now)

/-! ### How many are served -/

/-- Those that are served and not over have a permit or a grant each. -/
theorem unfinished_served {granted : List OperatorId}
    (served : ∀ task ∈ tasks, task.Served granted) :
    unfinished tasks = (tasks.map Task.calls).sum + (tasks.flatMap Task.waiters).length := by
  induction tasks with
  | nil => rfl
  | cons task rest ih =>
    have others := ih fun other member => served other (List.mem_cons_of_mem _ member)
    have own := (served task List.mem_cons_self).permits_eq
    rw [unfinished] at others
    rw [unfinished, List.countP_cons, List.map_cons, List.sum_cons, List.flatMap_cons,
      List.length_append]
    omega

/-- The permits that are not free belong to those of the front that are not over. -/
theorem Line.unfinished_add_free (line : Line front waiting fresh permits)
    (balanced : permits.Balanced total ((front ++ waiting ++ fresh).map Task.calls).sum
      ((front ++ waiting ++ fresh).flatMap Task.waiters)) :
    unfinished front + permits.free = total := by
  obtain ⟨served, queued, queue, untouched⟩ := line
  have silent : ∀ task ∈ waiting ++ fresh, task.calls = 0 := by
    intro task member
    rcases List.mem_append.mp member with inQueue | isFresh
    · rw [Task.calls, queued task inQueue]
    · rw [Task.calls, untouched task isFresh]
  have calls : ((waiting ++ fresh).map Task.calls).sum = 0 := by
    refine List.sum_eq_zero_iff_forall_eq_nat.mpr fun count counted => ?_
    obtain ⟨task, member, rfl⟩ := List.mem_map.mp counted
    exact silent task member
  have nobody : fresh.flatMap Task.waiters = [] := by
    refine List.flatMap_eq_nil_iff.mpr fun task member => ?_
    rw [Task.waiters, untouched task member]
  have inQueue : waiting.flatMap Task.waiters = permits.queue := by
    rw [queue, List.map_eq_flatMap]
    exact List.flatMap_congr fun task member => by rw [Task.waiters, queued task member]
  have grants : permits.granted.length = (front.flatMap Task.waiters).length := by
    have same := balanced.waiting_perm.length_eq
    rw [List.flatMap_append, List.flatMap_append, nobody, inQueue, List.append_nil,
      Permits.waiting, List.length_append, List.length_append] at same
    omega
  have sum := balanced.spare_add
  rw [List.append_assoc, List.map_append, List.sum_append, calls, Permits.spare] at sum
  rw [unfinished_served served]
  omega

end Fanout

/-! ### Rounds in which nobody is overtaken -/

/-- A task begins its call because a permit is free, or was granted to it. -/
theorem Task.permit_of_begins {τ : Type} {mission : Mission τ} {now : Nat} {task : Task}
    {shared : Shared τ} (waiting : task.hasBegun = false)
    (begins : (task.poll mission now false shared).1.hasBegun = true) :
    task.phase = .fresh ∧ 0 < shared.permits.free ∨
      task.phase = .queued ∧ task.id ∈ shared.permits.granted := by
  cases phase : task.phase with
  | fresh =>
    refine .inl ⟨rfl, Nat.pos_of_ne_zero fun free => ?_⟩
    simp [poll, phase, Permits.ask, free, hasBegun] at begins
  | queued =>
    refine .inr ⟨rfl, by_contra fun ungranted => ?_⟩
    simp [poll, phase, Permits.claim, ungranted, hasBegun] at begins
  | calling call => simp [hasBegun, phase] at waiting
  | ended status => simp [hasBegun, phase] at waiting

namespace Round

variable {τ : Type} {mission : Mission τ} {recipients : List Operator} {round next : Round τ}
  {switch : Switch} {now : Nat} {traffic : Traffic} {transport : τ} {task other : Task}

/-- A step that keeps the first turns in their order. -/
def Turn (mission : Mission τ) (round next : Round τ) : Prop :=
  Step mission round next ∧ next.FreshLast

/-- One thing after the other, with the first turns in their order. -/
abbrev Turns (mission : Mission τ) : Round τ → Round τ → Prop :=
  Relation.ReflTransGen (Turn mission)

theorem Turns.runs (turns : Turns mission round next) : Runs mission round next :=
  Relation.ReflTransGen.mono (fun _ _ turn => turn.1) _ _ turns

/-- The tasks of a round stand in line. -/
def InLine (round : Round τ) : Prop := Fanout.InLine round.fanout.tasks round.permits

theorem inLine_start : (start mission recipients switch now traffic transport).InLine := by
  refine ⟨[], [], (start mission recipients switch now traffic transport).fanout.tasks, rfl,
    by simp, by simp, rfl, ?_⟩
  exact fun task member => phase_of_mem_start member

/-- Who has a turn has not been overtaken: nobody before it is fresh. -/
theorem FreshLast.first (orderly : round.Orderly mission recipients)
    (undisturbed : round.isCancelled = false) {before after : List Task}
    (freshLast : (round.polled mission before task after).FreshLast) :
    ∀ earlier ∈ before, earlier.phase ≠ .fresh := by
  intro earlier member fresh
  rw [FreshLast, orderly.polled_eq, undisturbed] at freshLast
  obtain ⟨-, -, across⟩ := List.pairwise_append.mp freshLast
  exact Task.phase_poll_ne_fresh (across earlier member _ List.mem_cons_self fresh)

theorem InLine.turn (orderly : round.Orderly mission recipients) (line : round.InLine)
    (turn : Turn mission round next) (undisturbed : next.isCancelled = false) : next.InLine := by
  obtain ⟨step, freshLast⟩ := turn
  cases step with
  | @poll before after task place unfinished =>
    have quiet : round.isCancelled = false := undisturbed
    have names := orderly.known.nodup_ids
    have nodup := orderly.nodup_waiting
    rw [InLine, place] at line
    rw [place] at names
    rw [InLine, permits, orderly.polled_eq, quiet]
    exact line.poll names nodup orderly.accounts.thrifty fun _ => freshLast.first orderly quiet
  | collect | lose | cancel | leave | pass => exact line

theorem Turns.inLine (turns : Turns mission round next) (orderly : round.Orderly mission recipients)
    (line : round.InLine) (undisturbed : next.isCancelled = false) : next.InLine := by
  induction turns with
  | refl => exact line
  | tail before turn ih =>
    have still := Runs.undisturbed (.single turn.1) undisturbed
    exact (ih still).turn (Runs.orderly (Turns.runs before) orderly) turn undisturbed

/-! ### Numbers -/

/-- How many recipients with lower numbers are unfinished. -/
def unfinishedBelow (round : Round τ) (id : OperatorId) : Nat :=
  round.fanout.tasks.countP fun task => task.id < id && !task.isEnded

/-- The tasks stand in the order of the numbers. -/
theorem Orderly.ascending (orderly : round.Orderly mission recipients) :
    round.fanout.tasks.Pairwise fun earlier later => earlier.id < later.id := by
  have ids := (Fanout.targets recipients).pairwise_ids
  rw [OperatorMap.ids, ← orderly.names, List.map_map, List.pairwise_map] at ids
  exact ids

/-- Those with lower numbers stand before. -/
theorem Orderly.mem_before_iff (orderly : round.Orderly mission recipients)
    {before after : List Task} (place : round.fanout.tasks = before ++ task :: after)
    (member : other ∈ round.fanout.tasks) : other ∈ before ↔ other.id < task.id := by
  have ascending := orderly.ascending
  rw [place] at ascending member
  obtain ⟨-, behind, across⟩ := List.pairwise_append.mp ascending
  constructor
  · exact fun earlier => across other earlier task List.mem_cons_self
  · intro lower
    rcases List.mem_append.mp member with earlier | here
    · exact earlier
    · rcases List.mem_cons.mp here with rfl | later
      · exact absurd lower (UInt64.lt_irrefl _)
      · exact absurd lower (UInt64.lt_asymm (List.rel_of_pairwise_cons behind later))

theorem Orderly.unfinishedBelow_eq (orderly : round.Orderly mission recipients)
    {before after : List Task} (place : round.fanout.tasks = before ++ task :: after) :
    round.unfinishedBelow task.id = Fanout.unfinished before := by
  have lower : ∀ other ∈ before, other.id < task.id := fun other earlier =>
    (orderly.mem_before_iff place (by simp [place, earlier])).mp earlier
  have ascending := orderly.ascending
  rw [place] at ascending
  have higher : ∀ other ∈ task :: after, ¬ other.id < task.id := by
    intro other member
    rcases List.mem_cons.mp member with rfl | later
    · exact UInt64.lt_irrefl _
    · have behind := (List.pairwise_append.mp ascending).2.1
      exact UInt64.lt_asymm (List.rel_of_pairwise_cons behind later)
  rw [unfinishedBelow, place, List.countP_append, Fanout.unfinished]
  have behind : (task :: after).countP (fun other => other.id < task.id && !other.isEnded) = 0 :=
    List.countP_eq_zero.mpr fun other member => by simp [higher other member]
  rw [behind, Nat.add_zero]
  exact List.countP_congr fun other earlier => by simp [lower other earlier]

/-! ### Who is served -/

/-- Permits go out in the order of the numbers. -/
theorem InLine.served_of_lower (line : round.InLine) (orderly : round.Orderly mission recipients)
    (member : task ∈ round.fanout.tasks) (otherMember : other ∈ round.fanout.tasks)
    (lower : other.id < task.id) (served : task.Served round.permits.granted) :
    other.Served round.permits.granted := by
  obtain ⟨before, after, place⟩ := List.append_of_mem member
  have earlier := (orderly.mem_before_iff place otherMember).mpr lower
  obtain ⟨front, waiting, fresh, split, line⟩ := line
  obtain ⟨rest, rfl, -⟩ := line.exists_front orderly.nodup_waiting (split.symm.trans place) served
  exact line.served other (List.mem_append_left _ earlier)

/-- Nobody waits while a permit is free. -/
theorem Orderly.free_eq_zero (orderly : round.Orderly mission recipients)
    (member : task ∈ round.fanout.tasks) (queued : task.phase = .queued)
    (ungranted : task.id ∉ round.permits.granted) : round.permits.free = 0 := by
  have waits : task.id ∈ round.fanout.tasks.flatMap Task.waiters :=
    List.mem_flatMap.mpr ⟨task, member, by simp [Task.waiters, queued]⟩
  have inQueue : task.id ∈ round.permits.queue :=
    (List.mem_append.mp (orderly.accounts.waiting_perm.mem_iff.mpr waits)).resolve_left ungranted
  exact orderly.accounts.thrifty (List.ne_nil_of_mem inQueue)

theorem unfinished_le_append (front back : List Task) :
    Fanout.unfinished front ≤ Fanout.unfinished (front ++ back) := by
  rw [Fanout.unfinished, Fanout.unfinished, List.countP_append]
  exact Nat.le_add_right _ _

/-- Who has asked has its permit as soon as fewer of those below are unfinished than there are
permits, and not before. -/
theorem InLine.served_iff (line : round.InLine) (orderly : round.Orderly mission recipients)
    (member : task ∈ round.fanout.tasks) (unfinished : task.isEnded = false)
    (asked : task.phase ≠ .fresh) :
    task.Served round.permits.granted ↔
      round.unfinishedBelow task.id < mission.settings.permits := by
  obtain ⟨before, after, place⟩ := List.append_of_mem member
  obtain ⟨front, waiting, fresh, split, line⟩ := line
  have balanced := orderly.accounts
  rw [split] at balanced
  have sum := line.unfinished_add_free balanced
  rw [orderly.unfinishedBelow_eq place]
  constructor
  · intro served
    -- The task and all those below it are among those that share the permits.
    obtain ⟨rest, rfl, -⟩ := line.exists_front orderly.nodup_waiting (split.symm.trans place) served
    have fewer := unfinished_le_append (before ++ [task]) rest
    rw [List.append_assoc, List.singleton_append] at fewer
    have own : Fanout.unfinished (before ++ [task]) = Fanout.unfinished before + 1 := by
      simp [Fanout.unfinished, unfinished]
    omega
  · intro few
    by_contra unserved
    have queued : task.phase = .queued := by
      cases phase : task.phase with
      | fresh => exact absurd phase asked
      | queued => rfl
      | calling call => exact absurd (.inl (by simp [Task.hasBegun, phase])) unserved
      | ended status => simp [Task.isEnded, phase] at unfinished
    -- Somebody waits, so no permit is free, and those below share all of them.
    have full : round.permits.free = 0 :=
      orderly.free_eq_zero member queued fun granted => unserved (.inr ⟨queued, granted⟩)
    obtain ⟨middle, rfl, -⟩ := line.exists_back (split.symm.trans place) unserved
    have fewer := unfinished_le_append front middle
    omega

/-! ### Calls that begin -/

/-- The call to a recipient has been started, or the delivery was cut short. -/
def Begun (round : Round τ) (id : OperatorId) : Prop :=
  ∃ task ∈ round.fanout.tasks, task.id = id ∧ task.hasBegun = true

/-- A call begins in the turn of its own task, and is the only one that does. -/
theorem exists_of_begins (orderly : round.Orderly mission recipients)
    (step : Step mission round next) (undisturbed : next.isCancelled = false) {id : OperatorId}
    (waits : ¬ round.Begun id) (begun : next.Begun id) :
    ∃ before task after, round.fanout.tasks = before ++ task :: after ∧ task.id = id ∧
      task.hasBegun = false ∧
      (task.poll mission round.fanout.now false round.fanout.shared).1.hasBegun = true ∧
      next = round.polled mission before task after ∧
      next.started = round.started ++ [(round.fanout.now, task.address)] := by
  cases step with
  | @poll before after task place unfinished =>
    have quiet : round.isCancelled = false := undisturbed
    obtain ⟨other, member, rfl, begins⟩ := begun
    rw [orderly.polled_eq, quiet] at member
    have old : ∀ known ∈ before ++ task :: after, known.id = other.id → known.hasBegun = false :=
      fun known inside same => Bool.eq_false_iff.mpr fun already =>
        waits ⟨known, place ▸ inside, same, already⟩
    have here : other = (task.poll mission round.fanout.now false round.fanout.shared).1 := by
      rcases List.mem_append.mp member with earlier | here
      · simp [old other (List.mem_append_left _ earlier) rfl] at begins
      · rcases List.mem_cons.mp here with same | later
        · exact same
        · have inside := List.mem_append_right before (List.mem_cons_of_mem task later)
          simp [old other inside rfl] at begins
    have same : task.id = other.id := by rw [here, Task.id_poll]
    have waiting := old task (by simp) same
    rw [here] at begins
    refine ⟨before, task, after, place, same, waiting, begins, rfl, ?_⟩
    rcases task.started_poll mission round.fanout.now round.fanout.shared with
      ⟨unchanged, -, -⟩ | ⟨-, -, call, -⟩
    · rw [begins, waiting] at unchanged
      cases unchanged
    · rw [started, orderly.polled_eq, quiet]
      exact call
  | collect | lose | cancel | leave | pass => exact absurd begun waits

/-- When a call begins, fewer of those below are unfinished than there are permits. -/
theorem InLine.unfinishedBelow_lt (line : round.InLine) (orderly : round.Orderly mission recipients)
    (turn : Turn mission round next) (undisturbed : next.isCancelled = false) {id : OperatorId}
    (waits : ¬ round.Begun id) (begun : next.Begun id) :
    round.unfinishedBelow id < mission.settings.permits := by
  obtain ⟨step, freshLast⟩ := turn
  have quiet := Runs.undisturbed (.single step) undisturbed
  obtain ⟨before, task, after, place, rfl, waiting, begins, rfl, -⟩ :=
    exists_of_begins orderly step undisturbed waits begun
  have member : task ∈ round.fanout.tasks := place ▸ by simp
  rcases Task.permit_of_begins waiting begins with ⟨fresh, free⟩ | ⟨queued, granted⟩
  · -- Nobody is in the queue, and those below are those that share the other permits.
    obtain ⟨front, others, rest, split, line⟩ := line
    have balanced := orderly.accounts
    rw [split] at balanced
    have sum := line.unfinished_add_free balanced
    obtain ⟨rfl, -⟩ := line.eq_of_first (split.symm.trans place) fresh
      (freshLast.first orderly quiet)
    have spare : 0 < round.permits.free := free
    have idle : round.permits.queue = [] := not_not.mp fun busy => by
      simp [orderly.accounts.thrifty busy] at free
    obtain rfl : others = [] := List.map_eq_nil_iff.mp (line.queue ▸ idle)
    rw [orderly.unfinishedBelow_eq place, List.append_nil]
    omega
  · exact (line.served_iff orderly member (by simp [Task.isEnded, queued]) (by simp [queued])).mp
      (.inr ⟨queued, granted⟩)

end Round

end Resharing
