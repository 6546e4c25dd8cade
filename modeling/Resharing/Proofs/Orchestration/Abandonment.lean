import Mathlib.Data.Set.Basic
import Resharing.Proofs.Orchestration.Revocation

/-!
# An owner that leaves

An owner that leaves without cancelling takes nothing with it but the possibility to cancel.
Two sessions that differ in nothing but their switches, neither of which is cancelled, and in
what has been seen of them, go on alike step by step. So they come to the same endings, and so
does a session with and without its owner, whenever it leaves.

## Main definitions

* `Round.Twins`, `Course.Twins`: alike but for uncancelled switches
* `Course.left`: a session whose owner has left
* `Course.endings`: the ends that a session can come to if nobody cancels

## Main results

* `Round.Twins.step`, `Course.Twins.step`: twins go on alike
* `Course.endings_left`: an owner that leaves changes no ending
* `Orchestrator.runSession_leaves`: nor what is carried out
-/

namespace Resharing

/-! ### Deliveries -/

namespace Round

variable {τ : Type} {mission : Mission τ} {recipients : List Operator} {left right next : Round τ}

/-- Deliveries that are alike but for their switches, of which none is cancelled. -/
structure Twins (mission : Mission τ) (recipients : List Operator) (left right : Round τ) :
    Prop where
  fanout : left.fanout = right.fanout
  collector : left.collector = right.collector
  quietLeft : left.isCancelled = false
  quietRight : right.isCancelled = false
  orderlyLeft : left.Orderly mission recipients
  orderlyRight : right.Orderly mission recipients

theorem Twins.symm (twins : Twins mission recipients left right) :
    Twins mission recipients right left :=
  ⟨twins.fanout.symm, twins.collector.symm, twins.quietRight, twins.quietLeft,
    twins.orderlyRight, twins.orderlyLeft⟩

/-- Unless one is cancelled, twins go on alike. -/
theorem Twins.step (twins : Twins mission recipients left right)
    (step : Step mission left next) :
    next.isCancelled = true ∨ ∃ other, Runs mission right other ∧
      Twins mission recipients next other := by
  obtain ⟨fanout, collector, quietLeft, quietRight, orderlyLeft, orderlyRight⟩ := twins
  have later := orderlyLeft.step step
  cases step with
  | @poll before after task place unfinished =>
    rw [fanout] at place
    have turn : Step mission right (right.polled mission before task after) :=
      .poll place unfinished
    refine .inr ⟨_, .single turn, ?_, collector, quietLeft, quietRight, later,
      orderlyRight.step turn⟩
    rw [orderlyLeft.polled_eq, orderlyRight.polled_eq, fanout, quietLeft, quietRight]
  | collect member complete awaited =>
    rw [fanout] at member
    rw [collector] at awaited
    have tells : Step mission right _ := .collect member complete awaited
    exact .inr ⟨_, .single tells, fanout, congrArg (Collector.take · _) collector, quietLeft,
      quietRight, later, orderlyRight.step tells⟩
  | lose member lost awaited =>
    rw [fanout] at member
    rw [collector] at awaited
    have loses : Step mission right _ := .lose member lost awaited
    exact .inr ⟨_, .single loses, fanout, congrArg (Collector.lose · _) collector, quietLeft,
      quietRight, later, orderlyRight.step loses⟩
  | cancel owned => exact .inl rfl
  | leave owned =>
    exact .inr ⟨right, .refl, fanout, collector, quietLeft, quietRight, later, orderlyRight⟩
  | @pass time ahead undisturbed busy soon =>
    rw [fanout] at ahead soon
    rw [collector] at busy
    have passes : Step mission right { right with fanout := { right.fanout with now := time } } :=
      .pass ahead quietRight busy soon
    refine .inr ⟨_, .single passes, ?_, collector, quietLeft, quietRight, later,
      orderlyRight.step passes⟩
    rw [fanout]

end Round

/-! ### Sessions -/

namespace Course

variable {σ : Type} {orchestrator : Orchestrator σ} {session : Session} {origin : σ}
  {course other next : Course σ} {finish : Finish σ} {switch : Switch}

/-- Whether a session has been cancelled. One that has crashed is beyond caring. -/
def isCancelled : Course σ → Bool
  | .running prelude => prelude.switch.cancelled
  | .delivering _ _ round => round.isCancelled
  | .finished finish => finish.switch.cancelled
  | .crashed _ => true

theorem Step.isCancelled_mono (step : Step orchestrator session course next)
    (cancelled : course.isCancelled = true) : next.isCancelled = true := by
  cases step with
  | delivers step => exact step.isCancelled_mono cancelled
  | cancels | crashes => rfl
  | _ => exact cancelled

theorem Runs.isCancelled_mono (run : Runs orchestrator session course next)
    (cancelled : course.isCancelled = true) : next.isCancelled = true := by
  induction run with
  | refl => exact cancelled
  | tail _ step ih => exact step.isCancelled_mono ih

/-- The owner has left without having cancelled. -/
def Abandoned : Course σ → Prop
  | .running prelude => prelude.switch = .abandoned
  | .delivering _ _ round => round.switch = .abandoned
  | .finished finish => finish.switch = .abandoned
  | .crashed _ => True

/-- An owner that has left does not cancel. -/
theorem Abandoned.step (left : Abandoned course) (step : Step orchestrator session course next) :
    Abandoned next := by
  cases step with
  | cancels owned | leaves owned =>
    rw [Abandoned] at left
    simp [left, Switch.abandoned] at owned
  | delivers step => exact Round.Runs.abandoned (.single step) left
  | crashes => trivial
  | _ => exact left

theorem Runs.abandoned (run : Runs orchestrator session course next) (left : Abandoned course) :
    Abandoned next := by
  induction run with
  | refl => exact left
  | tail _ step ih => exact ih.step step

/-- Sessions before their deliveries that are alike but for their switches, of which none is
cancelled, and for what has been seen of them. -/
structure PreludeTwins (left right : Prelude σ) : Prop where
  stage : left.stage = right.stage
  now : left.now = right.now
  state : left.state = right.state
  log : left.log = right.log
  quietLeft : left.switch.cancelled = false
  quietRight : right.switch.cancelled = false
  memoriesLeft : ∀ wait, left.memory = some wait → left.switch.Remembers wait
  memoriesRight : ∀ wait, right.memory = some wait → right.switch.Remembers wait

/-- Sessions that are alike but for uncancelled switches. -/
inductive Twins (orchestrator : Orchestrator σ) : Course σ → Course σ → Prop
  | running {left right : Prelude σ} (twins : PreludeTwins left right) :
      Twins orchestrator (.running left) (.running right)
  | delivering (log : List Deed) (payload : Bytes) (recipients : List Operator)
      {left right : Round σ}
      (twins : Round.Twins (orchestrator.mission payload) recipients left right) :
      Twins orchestrator (.delivering log payload left) (.delivering log payload right)
  | finished {left right : Finish σ} (result : left.result = right.result)
      (now : left.now = right.now) (state : left.state = right.state) (log : left.log = right.log)
      (quietLeft : left.switch.cancelled = false) (quietRight : right.switch.cancelled = false) :
      Twins orchestrator (.finished left) (.finished right)

theorem Twins.symm (twins : Twins orchestrator course other) :
    Twins orchestrator other course := by
  cases twins with
  | running twins =>
    obtain ⟨stage, now, state, log, quietLeft, quietRight, memoriesLeft, memoriesRight⟩ := twins
    exact .running ⟨stage.symm, now.symm, state.symm, log.symm, quietRight, quietLeft,
      memoriesRight, memoriesLeft⟩
  | delivering log payload recipients twins => exact .delivering log payload recipients twins.symm
  | finished result now state log quietLeft quietRight =>
    exact .finished result.symm now.symm state.symm log.symm quietRight quietLeft

/-- What is not cancelled is not seen to be. -/
theorem glance_of_quiet {prelude : Prelude σ}
    (memories : ∀ wait, prelude.memory = some wait → prelude.switch.Remembers wait)
    (quiet : prelude.switch.cancelled = false) : prelude.glance ≠ .resolved := by
  intro seen
  simp [cancelled_of_glance memories seen] at quiet

/-- Unless one is cancelled, sessions before their deliveries go on alike. -/
theorem PreludeTwins.step {left right : Prelude σ} (twins : PreludeTwins left right)
    (step : Step orchestrator session (.running left) next) :
    next.isCancelled = true ∨ ∃ later, Runs orchestrator session (.running right) later ∧
      Twins orchestrator next later := by
  obtain ⟨stage, now, state, log, quietLeft, quietRight, memoriesLeft, memoriesRight⟩ := twins
  have unseen := glance_of_quiet memoriesRight quietRight
  have blind := glance_of_quiet memoriesLeft quietLeft
  have sees := remembers_glance memoriesLeft
  have seesToo := remembers_glance memoriesRight
  obtain ⟨place, switch, memory, instant, present, done⟩ := right
  simp only at stage now state log
  subst stage now state log
  -- The twin takes the same step, but for the owner's leave, for which it waits.
  cases step with
  | found stage result =>
    exact .inr ⟨_, .single (.found stage result),
      .running ⟨rfl, rfl, rfl, rfl, quietLeft, quietRight, memoriesLeft, memoriesRight⟩⟩
  | missing stage result =>
    exact .inr ⟨_, .single (.missing stage result),
      .finished rfl rfl rfl rfl quietLeft quietRight⟩
  | resolved stage =>
    exact .inr ⟨_, .single (.resolved stage),
      .running ⟨rfl, rfl, rfl, rfl, quietLeft, quietRight, memoriesLeft, memoriesRight⟩⟩
  | revokedBefore stage seen => exact absurd seen blind
  | nobody stage _ empty =>
    exact .inr ⟨_, .single (.nobody stage unseen empty),
      .finished rfl rfl rfl rfl quietLeft quietRight⟩
  | begins stage _ inhabited begun =>
    exact .inr ⟨_, .single (.begins stage unseen inhabited begun),
      .running ⟨rfl, rfl, rfl, rfl, quietLeft, quietRight, sees, seesToo⟩⟩
  | looks stage _ =>
    exact .inr ⟨_, .single (.looks stage unseen),
      .running ⟨rfl, rfl, rfl, rfl, quietLeft, quietRight, sees, seesToo⟩⟩
  | revokedMeanwhile stage seen => exact absurd seen blind
  | sleeps stage early =>
    exact .inr ⟨_, .single (.sleeps stage early),
      .running ⟨rfl, rfl, rfl, rfl, quietLeft, quietRight, memoriesLeft, memoriesRight⟩⟩
  | ready stage late result =>
    exact .inr ⟨_, .single (.ready stage late result),
      .running ⟨rfl, rfl, rfl, rfl, quietLeft, quietRight, memoriesLeft, memoriesRight⟩⟩
  | notReady stage late result =>
    exact .inr ⟨_, .single (.notReady stage late result),
      .finished rfl rfl rfl rfl quietLeft quietRight⟩
  | confirmed stage _ =>
    exact .inr ⟨_, .single (.confirmed stage quietRight),
      .running ⟨rfl, rfl, rfl, rfl, quietLeft, quietRight, memoriesLeft, memoriesRight⟩⟩
  | revokedAfter stage cancelled => exact absurd cancelled (Bool.eq_false_iff.mp quietLeft)
  | notComposed stage result =>
    exact .inr ⟨_, .single (.notComposed stage result),
      .finished rfl rfl rfl rfl quietLeft quietRight⟩
  | composed stage result few =>
    exact .inr ⟨_, .single (.composed stage result few), .delivering _ _ _
      ⟨rfl, rfl, quietLeft, quietRight, Round.orderly_start, Round.orderly_start⟩⟩
  | crashes => exact .inl rfl
  | cancels owned => exact .inl rfl
  | leaves owned =>
    exact .inr ⟨_, .refl, .running ⟨rfl, rfl, rfl, rfl, quietLeft, quietRight,
      fun wait seen => (memoriesLeft wait seen).leave, memoriesRight⟩⟩
  | passes stage _ later soon =>
    exact .inr ⟨_, .single (.passes stage quietRight later soon),
      .running ⟨rfl, rfl, rfl, rfl, quietLeft, quietRight, memoriesLeft, memoriesRight⟩⟩

/-- Unless one is cancelled, twins go on alike. -/
theorem Twins.step (twins : Twins orchestrator course other)
    (step : Step orchestrator session course next) :
    next.isCancelled = true ∨ ∃ later, Runs orchestrator session other later ∧
      Twins orchestrator next later := by
  cases twins with
  | running twins => exact twins.step step
  | @delivering log payload recipients left right twins =>
    cases step with
    | delivers step =>
      rcases twins.step step with cancelled | ⟨later, run, still⟩
      · exact .inl cancelled
      · exact .inr ⟨_, runs_delivering run, .delivering log payload recipients still⟩
    | reports complete =>
      obtain ⟨fanout, collector, quietLeft, quietRight, -, -⟩ := twins
      have overToo : right.IsOver := by rw [Round.IsOver, ← collector]; exact complete
      have report : left.report session.id = right.report session.id := by
        rw [Round.report, Round.report, collector]
      refine .inr ⟨_, .single (.reports overToo), .finished (congrArg Except.ok report) ?_ ?_ ?_
        quietLeft quietRight⟩
      · rw [fanout]
      · rw [fanout]
      · rw [Round.deeds, Round.deeds, Round.started, Round.started, fanout]
  | finished => cases step

/-! ### Endings -/

/-- The session without its owner. -/
def left : Course σ → Course σ
  | .running prelude => .running { prelude with switch := prelude.switch.leave }
  | .delivering log payload round =>
    .delivering log payload { round with switch := round.switch.leave }
  | .finished finish => .finished finish
  | .crashed log => .crashed log

/-- The ends that a session can come to if nobody cancels: its result, when it is over, the state
that it leaves and what has been done. -/
def endings (orchestrator : Orchestrator σ) (session : Session) (course : Course σ) :
    Set (Except Error Report × Nat × σ × List Deed) :=
  {rest | ∃ finish, Runs orchestrator session course (.finished finish) ∧
    finish.switch.cancelled = false ∧
    (finish.result, finish.now, finish.state, finish.log) = rest}

/-- Twins come to the same ends. -/
theorem Twins.endings_subset (twins : Twins orchestrator course other) :
    endings orchestrator session course ⊆ endings orchestrator session other := by
  rintro rest ⟨finish, run, quiet, rfl⟩
  -- By induction on what is still to come, the twin following step by step.
  induction run using Relation.ReflTransGen.head_induction_on generalizing other with
  | refl =>
    cases twins with
    | finished result now state log quietLeft quietRight =>
      exact ⟨_, .refl, quietRight, by rw [result, now, state, log]⟩
  | head step rest ih =>
    rcases twins.step step with cancelled | ⟨later, run, still⟩
    · have cancelledAtLast : finish.switch.cancelled = true := Runs.isCancelled_mono rest cancelled
      simp [cancelledAtLast] at quiet
    · obtain ⟨last, after, ends⟩ := ih still
      exact ⟨last, run.trans after, ends⟩

/-- A session and the same one without its owner are twins. -/
theorem twins_left (run : Runs orchestrator session (start session switch origin) course)
    (undisturbed : course.isCancelled = false) : Twins orchestrator course course.left := by
  have staged := run.staged
  cases course with
  | running prelude =>
    obtain ⟨memories, -⟩ := staged
    exact .running ⟨rfl, rfl, rfl, rfl, undisturbed, undisturbed, memories,
      fun wait seen => (memories wait seen).leave⟩
  | delivering log payload round =>
    obtain ⟨operators, _, _, _, _, -, -, -, -, deliveries⟩ := staged
    have orderly := Round.Runs.orderly deliveries Round.orderly_start
    have orderlyLeft : ({ round with switch := round.switch.leave } : Round σ).Orderly
        (orchestrator.mission payload) operators :=
      ⟨orderly.names, orderly.accounts, fun id wait seen => (orderly.memories id wait seen).leave,
        orderly.known⟩
    exact .delivering log payload operators
      ⟨rfl, rfl, undisturbed, undisturbed, orderly, orderlyLeft⟩
  | finished finish => exact .finished rfl rfl rfl rfl undisturbed undisturbed
  | crashed log => cases undisturbed

/-- An owner that leaves without having cancelled, at whatever moment, changes no ending. -/
theorem endings_left (run : Runs orchestrator session (start session switch origin) course)
    (undisturbed : course.isCancelled = false) :
    endings orchestrator session course.left = endings orchestrator session course := by
  have twins := twins_left run undisturbed
  exact Set.Subset.antisymm twins.symm.endings_subset twins.endings_subset

end Course

/-- Nor does it change what is carried out. -/
theorem Orchestrator.runSession_leaves {σ : Type} (orchestrator : Orchestrator σ)
    (session : Session) (origin : σ) :
    orchestrator.runSession session .leaves origin =
      orchestrator.runSession session .never origin := by
  simp [runSession, provision, CancelPlan.time?]

end Resharing
