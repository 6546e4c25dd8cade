import Mathlib.Algebra.GroupWithZero.Nat
import Resharing.Proofs.Delivery.Schedule

/-!
# What every schedule keeps

Whatever the order of the turns and whatever the owner does, the accounts of the permits are
right, observers remember what they may, and what is known of the deliveries is true. If what
comes of a call depends on its address alone, every task obeys the law besides, and the calls
that have been started are those of the tasks that have begun.

## Main definitions

* `Collector.Keeps`: what is known is true of the tasks
* `Round.Orderly`: the invariant of every round
* `Round.Lawful`: the law for all tasks
* `Round.Dialled`: one call for each task that has begun
* `Round.Timely`: calls are started as time goes by

## Main results

* `Round.Runs.orderly`, `Round.Runs.lawful`, `Round.Runs.dialled`, `Round.Runs.timely`
-/

namespace Resharing

/-! ### What is known -/

/-- A task whose outcome is not known is waited for, and what is known is true. -/
structure Collector.Keeps (collector : Collector) (tasks : List Task) : Prop where
  /-- There is an outcome for each recipient. -/
  ids : collector.outcomes.ids = tasks.map (·.id)
  nodup : collector.pending.Nodup
  subset : collector.pending ⊆ tasks.map (·.id)
  /-- Who is waited for is taken for lost. -/
  unknown : ∀ task ∈ tasks, task.id ∈ collector.pending →
    collector.outcomes.find? task.id = some ⟨task.id, task.address, Ending.abort.status⟩
  /-- Who is not waited for has come to its end. -/
  known : ∀ task ∈ tasks, task.id ∉ collector.pending →
    task.isEnded = true ∧ collector.outcomes.find? task.id = some task.outcome

namespace Collector

variable {collector : Collector} {before after tasks : List Task} {task other : Task}

theorem Keeps.nodup_ids (keeps : collector.Keeps tasks) : (tasks.map (·.id)).Nodup :=
  keeps.ids ▸ collector.outcomes.nodup_ids

theorem keeps_start {targets : OperatorMap String}
    (names : tasks.map (fun task => (task.id, task.address)) = targets.entries) :
    (start targets).Keeps tasks := by
  have ids : targets.ids = tasks.map (·.id) := by
    rw [OperatorMap.ids, ← names, List.map_map]
    rfl
  refine ⟨by rw [← ids]; exact OperatorMap.ids_map _ targets, targets.nodup_ids, ?_, ?_, ?_⟩
  · rw [← ids]
    exact List.Subset.refl _
  · intro task member _
    have entry : (task.id, task.address) ∈ targets.entries :=
      names ▸ List.mem_map_of_mem (f := fun task : Task => (task.id, task.address)) member
    rw [start, OperatorMap.find?_map, OperatorMap.find?_eq_some_iff.mpr entry]
    rfl
  · intro task member absent
    have present : task.id ∈ targets.ids := by
      rw [ids]
      exact List.mem_map_of_mem (f := fun task : Task => task.id) member
    exact absurd present absent

/-- A task that is not over may change in all but its name. -/
theorem Keeps.replace (keeps : collector.Keeps (before ++ task :: after))
    (unfinished : task.isEnded = false) (id : other.id = task.id)
    (address : other.address = task.address) : collector.Keeps (before ++ other :: after) := by
  have awaited : task.id ∈ collector.pending := by
    by_contra absent
    simp [(keeps.known task (by simp) absent).1] at unfinished
  have same : (before ++ other :: after).map (·.id) = (before ++ task :: after).map (·.id) := by
    simp [id]
  have elsewhere : ∀ some ∈ before ++ other :: after,
      some = other ∨ some ∈ before ++ task :: after := by
    intro some member
    simp only [List.mem_append, List.mem_cons] at member ⊢
    tauto
  refine ⟨same ▸ keeps.ids, keeps.nodup, same ▸ keeps.subset, ?_, ?_⟩
  · intro some member pending
    rcases elsewhere some member with rfl | old
    · rw [id, address]
      exact keeps.unknown task (by simp) awaited
    · exact keeps.unknown some old pending
  · intro some member absent
    rcases elsewhere some member with rfl | old
    · exact absurd (id ▸ awaited) absent
    · exact keeps.known some old absent

/-- Two tasks with one id are one. -/
private theorem Keeps.eq_of_id (keeps : collector.Keeps tasks) (member : task ∈ tasks)
    (otherMember : other ∈ tasks) (id : other.id = task.id) : other = task :=
  List.inj_on_of_nodup_map keeps.nodup_ids otherMember member id

theorem Keeps.take (keeps : collector.Keeps tasks) (member : task ∈ tasks)
    (complete : task.isEnded = true) : (collector.take task).Keeps tasks := by
  have present : task.id ∈ collector.outcomes.ids := by
    rw [keeps.ids]
    exact List.mem_map_of_mem member
  refine ⟨?_, keeps.nodup.erase _, List.Subset.trans List.erase_subset keeps.subset, ?_, ?_⟩
  · rw [Collector.take, OperatorMap.ids_insert present, keeps.ids]
  · intro other otherMember pending
    have awaited := (keeps.nodup.mem_erase_iff).mp pending
    rw [Collector.take, OperatorMap.find?_insert, if_neg awaited.1]
    exact keeps.unknown other otherMember awaited.2
  · intro other otherMember absent
    rw [Collector.take, OperatorMap.find?_insert]
    by_cases same : other.id = task.id
    · rw [keeps.eq_of_id member otherMember same, if_pos rfl]
      exact ⟨complete, rfl⟩
    · rw [if_neg same]
      exact keeps.known other otherMember fun pending =>
        absent ((keeps.nodup.mem_erase_iff).mpr ⟨same, pending⟩)

theorem Keeps.lose (keeps : collector.Keeps tasks) (member : task ∈ tasks)
    (lost : task.phase = .ended Ending.abort.status) (awaited : task.id ∈ collector.pending) :
    (collector.lose task).Keeps tasks := by
  refine ⟨keeps.ids, keeps.nodup.erase _, List.Subset.trans List.erase_subset keeps.subset, ?_, ?_⟩
  · intro other otherMember pending
    exact keeps.unknown other otherMember (List.mem_of_mem_erase pending)
  · intro other otherMember absent
    by_cases same : other.id = task.id
    · rw [keeps.eq_of_id member otherMember same]
      refine ⟨Task.isEnded_iff.mpr ⟨_, lost⟩, ?_⟩
      rw [Task.outcome, lost]
      exact keeps.unknown task member awaited
    · exact keeps.known other otherMember fun pending =>
        absent ((keeps.nodup.mem_erase_iff).mpr ⟨same, pending⟩)

/-- Once nothing is waited for, every task is over and all outcomes are known. -/
theorem Keeps.entries_eq (keeps : collector.Keeps tasks) (complete : collector.pending = []) :
    collector.outcomes.entries = tasks.map fun task => (task.id, task.outcome) :=
  OperatorMap.entries_eq_map keeps.ids fun task member =>
    (keeps.known task member (by simp [complete])).2

theorem Keeps.isEnded (keeps : collector.Keeps tasks) (complete : collector.pending = [])
    (member : task ∈ tasks) : task.isEnded = true :=
  (keeps.known task member (by simp [complete])).1

end Collector

/-! ### Every round -/

namespace Round

variable {τ : Type}

/-- The invariant of every round for some recipients. -/
structure Orderly (mission : Mission τ) (recipients : List Operator) (round : Round τ) :
    Prop where
  /-- There is one task for each recipient. -/
  names : round.fanout.tasks.map (fun task => (task.id, task.address)) =
    (Fanout.targets recipients).entries
  /-- The accounts of the permits are right. -/
  accounts : round.fanout.shared.permits.Balanced mission.settings.permits
    (round.fanout.tasks.map Task.calls).sum (round.fanout.tasks.flatMap Task.waiters)
  memories : ∀ id wait, round.waits id = some wait → round.switch.Remembers wait
  /-- What is known of the tasks is true. -/
  known : round.collector.Keeps round.fanout.tasks

variable {mission : Mission τ} {recipients : List Operator} {round next : Round τ}
  {now : Nat} {traffic : Traffic} {transport : τ} {switch : Switch}

/-- Before anything has happened every task is fresh. -/
theorem phase_of_mem_start {task : Task}
    (member : task ∈ (Fanout.start mission.settings recipients now traffic transport).tasks) :
    task.phase = .fresh := by
  simp only [Fanout.start, List.mem_map] at member
  obtain ⟨entry, -, rfl⟩ := member
  rfl

theorem orderly_start :
    (start mission recipients switch now traffic transport).Orderly mission recipients := by
  have names : (Fanout.start mission.settings recipients now traffic transport).tasks.map
      (fun task => (task.id, task.address)) = (Fanout.targets recipients).entries := by
    simp [Fanout.start, Function.comp_def]
  refine ⟨names, ?_, by simp [start], Collector.keeps_start names⟩
  have idle : ((Fanout.start mission.settings recipients now traffic transport).tasks.map
      Task.calls).sum = 0 := by
    simp [Fanout.start, Task.calls, Function.comp_def]
  have silent : (Fanout.start mission.settings recipients now traffic transport).tasks.flatMap
      Task.waiters = [] := by
    refine List.flatMap_eq_nil_iff.mpr fun task member => ?_
    rw [Task.waiters, phase_of_mem_start member]
  have balanced := Permits.balanced_start mission.settings.permits
  rw [← silent, ← idle] at balanced
  exact balanced

/-- The accounts of all tasks are those of one task apart from the others. -/
theorem balanced_middle {before after : List Task} {task : Task} {shared : Shared τ}
    {total : Nat} :
    shared.permits.Balanced total ((before ++ task :: after).map Task.calls).sum
      ((before ++ task :: after).flatMap Task.waiters) ↔
    Task.Balanced total ((before ++ after).map Task.calls).sum
      ((before ++ after).flatMap Task.waiters) (task, shared) := by
  have calls : ((before ++ task :: after).map Task.calls).sum =
      ((before ++ after).map Task.calls).sum + task.calls := by
    simp only [List.map_append, List.map_cons, List.sum_append, List.sum_cons]
    omega
  have waiters : ((before ++ task :: after).flatMap Task.waiters).Perm
      ((before ++ after).flatMap Task.waiters ++ task.waiters) := by
    simp only [List.flatMap_append, List.flatMap_cons, List.append_assoc]
    exact List.perm_append_comm.append_left _
  rw [Task.Balanced, calls]
  exact ⟨fun balanced => balanced.perm waiters, fun balanced => balanced.perm waiters.symm⟩

theorem Orderly.step (orderly : round.Orderly mission recipients)
    (step : Step mission round next) : next.Orderly mission recipients := by
  cases step with
  | @poll before after task place unfinished =>
    obtain ⟨names, accounts, memories, known⟩ := orderly
    rw [place] at names accounts known
    refine ⟨?_, ?_, ?_, ?_⟩
    · simpa [polled, Task.id_poll, Task.address_poll] using names
    · exact balanced_middle.mpr (Task.balanced_poll mission _ _ (balanced_middle.mp accounts))
    · -- Only the observer of the task that has its turn looks.
      intro id wait remembered
      by_cases same : id = task.id
      · subst same
        simp only [polled, Function.update_self, Option.some.injEq] at remembered
        exact remembered ▸ Switch.Remembers.glance fun wait => memories task.id wait
      · simp only [polled, Function.update_of_ne same] at remembered
        exact memories id wait remembered
    · exact known.replace unfinished (Task.id_poll _ _ _) (Task.address_poll _ _ _)
  | collect member complete awaited =>
    exact ⟨orderly.names, orderly.accounts, orderly.memories, orderly.known.take member complete⟩
  | lose member lost awaited =>
    exact ⟨orderly.names, orderly.accounts, orderly.memories,
      orderly.known.lose member lost awaited⟩
  | cancel owned =>
    exact ⟨orderly.names, orderly.accounts,
      fun id wait seen => (orderly.memories id wait seen).cancel owned, orderly.known⟩
  | leave =>
    exact ⟨orderly.names, orderly.accounts,
      fun id wait seen => (orderly.memories id wait seen).leave, orderly.known⟩
  | pass => exact ⟨orderly.names, orderly.accounts, orderly.memories, orderly.known⟩

/-- Every schedule keeps a round orderly. -/
theorem Runs.orderly (run : Runs mission round next) (orderly : round.Orderly mission recipients) :
    next.Orderly mission recipients := by
  induction run with
  | refl => exact orderly
  | tail _ step ih => exact ih.step step

/-- What every step from an orderly round keeps holds along every run. -/
theorem Runs.keeps {motive : Round τ → Prop} (run : Runs mission round next)
    (orderly : round.Orderly mission recipients)
    (step : ∀ {round next : Round τ}, round.Orderly mission recipients → motive round →
      Step mission round next → motive next)
    (here : motive round) : motive next := by
  induction run with
  | refl => exact here
  | tail before last ih => exact step (Runs.orderly before orderly) ih last

/-- In an orderly round a turn sees the cancellation exactly if there was one. -/
theorem Orderly.polled_eq (orderly : round.Orderly mission recipients) (before : List Task)
    (task : Task) (after : List Task) :
    (round.polled mission before task after).fanout =
      { round.fanout with
        tasks := before ++
          (task.poll mission round.fanout.now round.isCancelled round.fanout.shared).1 :: after
        shared :=
          (task.poll mission round.fanout.now round.isCancelled round.fanout.shared).2 } := by
  have sees : decide (round.switch.glance (round.waits task.id) = .resolved) =
      round.isCancelled := by
    rw [Bool.eq_iff_iff, decide_eq_true_iff]
    exact Switch.glance_eq_resolved_iff (orderly.memories task.id)
  simp only [polled, sees]

/-! ### The law -/

/-- Every task obeys the law. -/
def Lawful (mission : Mission τ) (behaviour : String → Behaviour) (round : Round τ) : Prop :=
  ∀ task ∈ round.fanout.tasks,
    task.Lawful mission round.fanout.now behaviour round.isCancelled

variable {behaviour : String → Behaviour}

theorem lawful_start :
    (start mission recipients switch now traffic transport).Lawful mission behaviour := by
  intro task member
  rw [Task.Lawful, phase_of_mem_start member]
  trivial

theorem Lawful.step (behaves : mission.Behaves behaviour)
    (orderly : round.Orderly mission recipients) (lawful : round.Lawful mission behaviour)
    (step : Step mission round next) : next.Lawful mission behaviour := by
  cases step with
  | @poll before after task place unfinished =>
    intro other member
    rw [orderly.polled_eq] at member ⊢
    have old : ∀ some ∈ before ++ task :: after,
        some.Lawful mission round.fanout.now behaviour round.isCancelled := place ▸ lawful
    simp only [List.mem_append, List.mem_cons] at member
    rcases member with earlier | rfl | later
    · exact old other (by simp [earlier])
    · exact Task.lawful_poll behaves (old task (by simp))
    · exact old other (by simp [later])
  | collect | lose => exact lawful
  | cancel => exact fun task member => (lawful task member).disturbed
  | leave => exact lawful
  | pass later undisturbed busy soon =>
    exact fun task member => (lawful task member).later (soon task member)

theorem Runs.lawful (behaves : mission.Behaves behaviour) (run : Runs mission round next)
    (orderly : round.Orderly mission recipients) (lawful : round.Lawful mission behaviour) :
    next.Lawful mission behaviour :=
  run.keeps orderly (fun orderly lawful step => lawful.step behaves orderly step) lawful

end Round

/-! ### The calls -/

/-- The state of the transport after calls to some addresses. -/
def Mission.after {τ : Type} (mission : Mission τ) (transport : τ) (addresses : List String) : τ :=
  addresses.foldl (fun state address => (mission.transport.call address mission.payload state).2)
    transport

namespace Round

variable {τ : Type} {mission : Mission τ} {recipients : List Operator} {round next : Round τ}
  {now : Nat} {traffic : Traffic} {transport : τ} {switch : Switch}

/-- Since some beginning, one call has been started for each task that has begun, and nothing
else has been done to the transport. -/
def Dialled (mission : Mission τ) (traffic : Traffic) (transport : τ) (round : Round τ) : Prop :=
  ∃ calls : List (Nat × String),
    round.started = traffic.started ++ calls ∧
    (calls.map (·.2)).Perm ((round.fanout.tasks.filter Task.hasBegun).map (·.address)) ∧
    round.fanout.shared.transport = mission.after transport (calls.map (·.2))

theorem dialled_start :
    (start mission recipients switch now traffic transport).Dialled mission traffic transport := by
  refine ⟨[], by simp [start, Fanout.start, started], ?_, rfl⟩
  have none : (start mission recipients switch now traffic transport).fanout.tasks.filter
      Task.hasBegun = [] := by
    refine List.filter_eq_nil_iff.mpr fun task member => ?_
    simp [Task.hasBegun, phase_of_mem_start member]
  rw [none]
  exact .refl _

theorem Dialled.step (orderly : round.Orderly mission recipients)
    (dialled : round.Dialled mission traffic transport) (step : Step mission round next)
    (undisturbed : next.isCancelled = false) : next.Dialled mission traffic transport := by
  cases step with
  | @poll before after task place unfinished =>
    obtain ⟨calls, started, begun, state⟩ := dialled
    have quiet : round.isCancelled = false := undisturbed
    rw [place] at begun
    simp only [Dialled, Round.started, orderly.polled_eq, quiet]
    rcases task.started_poll mission round.fanout.now round.fanout.shared with
      ⟨same, silent, still⟩ | ⟨waiting, begins, call, moved⟩
    · refine ⟨calls, silent.trans started, ?_, still.trans state⟩
      refine begun.trans (List.Perm.of_eq ?_)
      simp only [List.filter_append, List.filter_cons, List.map_append, same]
      by_cases begunBefore : task.hasBegun = true
      · simp [begunBefore, Task.address_poll]
      · simp [begunBefore]
    · refine ⟨calls ++ [(round.fanout.now, task.address)], ?_, ?_, ?_⟩
      · rw [call, ← List.append_assoc]
        exact congrArg (· ++ _) started
      · simp only [List.filter_append, List.filter_cons, waiting, begins, List.map_append,
          List.map_cons, Task.address_poll, Bool.false_eq_true, if_false, if_true,
          List.map_nil] at begun ⊢
        exact (begun.append_right _).trans
          ((List.perm_append_singleton _ _).trans List.perm_middle.symm)
      · rw [moved, state, Mission.after, Mission.after, List.map_append, List.foldl_append]
        rfl
  | collect | lose | cancel | leave | pass => exact dialled

/-- Calls that were not there at some beginning have been started since, and no call is started
in the future. -/
def Timely (traffic : Traffic) (round : Round τ) : Prop :=
  ∀ call ∈ round.started, call ∈ traffic.started ∨ call.1 ≤ round.fanout.now

theorem Timely.step (orderly : round.Orderly mission recipients) (timely : round.Timely traffic)
    (step : Step mission round next) : next.Timely traffic := by
  cases step with
  | @poll before after task place unfinished =>
    intro call member
    simp only [started, orderly.polled_eq] at member ⊢
    cases cancelled : round.isCancelled with
    | true =>
      simp only [cancelled, Task.poll, if_true, Task.started_abandon] at member
      exact timely call member
    | false =>
      rw [cancelled] at member
      rcases task.started_poll mission round.fanout.now round.fanout.shared with
        ⟨-, silent, -⟩ | ⟨-, -, call, -⟩
      · rw [silent] at member
        exact timely call member
      · rw [call, List.mem_append, List.mem_singleton] at member
        rcases member with old | rfl
        · exact timely _ old
        · exact .inr (Nat.le_refl _)
  | collect | lose | cancel | leave => exact timely
  | pass later =>
    exact fun call member => (timely call member).imp_right fun past =>
      Nat.le_trans past (Nat.le_of_lt later)

theorem Runs.timely (run : Runs mission round next) (orderly : round.Orderly mission recipients)
    (timely : round.Timely traffic) : next.Timely traffic :=
  run.keeps orderly (fun orderly timely step => timely.step orderly step) timely

/-- While nobody cancels, each task makes its call once. -/
theorem Runs.dialled (run : Runs mission round next) (orderly : round.Orderly mission recipients)
    (dialled : round.Dialled mission traffic transport) (undisturbed : next.isCancelled = false) :
    next.Dialled mission traffic transport := by
  -- A run that ends uncancelled is uncancelled throughout, so each step is one of the law.
  refine run.keeps (motive := fun round => round.isCancelled = false →
    round.Dialled mission traffic transport) orderly ?_ (fun _ => dialled) undisturbed
  intro round next orderly dialled step quiet
  exact (dialled (Runs.undisturbed (.single step) quiet)).step orderly step quiet

end Round

end Resharing
