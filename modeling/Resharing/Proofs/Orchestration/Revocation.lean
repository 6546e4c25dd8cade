import Resharing.Proofs.Delivery.Cut
import Resharing.Proofs.Orchestration.Execution
import Resharing.Proofs.Orchestration.Lookups

/-!
# Sessions that are called off

The switch is looked at while the topic is created, once more before the initiation is composed,
and by every delivery. Together these looks leave no gap. A session that is cancelled before the
check sends nothing and does not end well; if its topic is still to come then, it ends as
cancelled, at that instant and whatever the creation would have come to. Once the check is
passed the deliveries are what is cut short.

What follows is an invariant of the courses of a cancelled session, by how far it may have come.

## Main definitions

* `Lead`, `Stage.Within`: how far a session may have come when it is cancelled
* `Course.CalledOff`: the invariant of a session cancelled before the check
* `Course.Revoked`: what it says of everything that can still happen
* `Course.Paced`: what the clock shows, given how long the creation of the topic takes
* `Course.Cleared`: the invariant of a session cancelled right after the check

## Main results

* `Course.CalledOff.step`, `Course.CalledOff.revoked`
* `Course.Runs.paced`: a topic that is to come has not been created
* `Course.Cleared.step`: between the check and the deliveries nothing is sent
* `Course.Runs.of_delivering`: once deliveries have begun, everything is up to them
-/

namespace Resharing

/-- The session after its owner has cancelled. -/
def Prelude.disturbed {σ : Type} (prelude : Prelude σ) : Prelude σ :=
  { prelude with switch := prelude.switch.cancel }

/-- How far a session may have come when it is cancelled. -/
inductive Lead where
  /-- The creation of its topic has not begun. -/
  | untouched
  /-- The creation of its topic is not over. -/
  | early
  /-- The topic may exist, but nobody has checked since whether the session is cancelled. -/
  | unconfirmed
  deriving DecidableEq

/-- A session has not come further than it may. -/
def Stage.Within {σ : Type} (lead : Lead) (now : Nat) : Stage σ → Prop
  | .resolving _ _ | .resolved _ => True
  | .creating _ _ due _ => lead ≠ .untouched ∧ (lead = .early → now < due)
  | .provided _ => lead = .unconfirmed
  | .confirmed _ => False

namespace Course

variable {σ : Type} (orchestrator : Orchestrator σ) (session : Session) (lead : Lead)
  (instant : Nat)

/-! ### Cancelled before the check -/

/-- A session that is cancelled before the check, at an instant. When it is over it has failed,
as cancelled if its topic was still to come. -/
def CalledOff : Course σ → Prop
  | .running prelude =>
    prelude.switch.cancelled = true ∧ prelude.now = instant ∧
      prelude.stage.Within lead prelude.now
  | .finished finish =>
    finish.now = instant ∧ (∃ error, finish.result = .error error) ∧
      (lead ≠ .unconfirmed → finish.result = .error .cancelled) ∧
      (lead = .untouched → finish.log = lookups session.allIds)
  | .delivering _ _ _ | .crashed _ => False

/-- What can still happen to a session that is cancelled before the check: it fails at that
instant, as cancelled if its topic was still to come, and nothing is sent to an operator. -/
structure Revoked (course : Course σ) : Prop where
  ends : ∀ finish, Runs orchestrator session course (.finished finish) →
    finish.now = instant ∧ (∃ error, finish.result = .error error) ∧
      (lead ≠ .unconfirmed → finish.result = .error .cancelled)
  /-- The creation of its topic never begins if it had not. -/
  untouched : lead = .untouched →
    ∀ finish, Runs orchestrator session course (.finished finish) →
      finish.log = lookups session.allIds
  silent : ∀ later, Runs orchestrator session course later →
    ∀ address, .call (.consume address) ∉ later.log
  /-- No schedule gets stuck. -/
  comes : ∀ later, Runs orchestrator session course later →
    ∃ finish, Runs orchestrator session later (.finished finish)

variable {orchestrator session lead instant} {origin : σ} {course next : Course σ}
  {prelude : Prelude σ} {recipients : List Operator} {state : σ}

/-- What is cancelled is seen to be. -/
theorem glance_of_cancelled
    (memories : ∀ wait, prelude.memory = some wait → prelude.switch.Remembers wait)
    (cancelled : prelude.switch.cancelled = true) : prelude.glance = .resolved :=
  (Switch.glance_eq_resolved_iff memories).mpr cancelled

/-- A step of a session that is cancelled before the check. Let all operators be found, if that
is what decides how it ends. -/
theorem CalledOff.step (staged : Staged orchestrator session origin course)
    (found : lead ≠ .unconfirmed →
      ∃ recipients state, orchestrator.Found origin session.allIds recipients state)
    (off : CalledOff session lead instant course)
    (step : Step orchestrator session course next) : CalledOff session lead instant next := by
  cases step with
  | found stage result =>
    obtain ⟨cancelled, now, -⟩ := off
    exact ⟨cancelled, now, trivial⟩
  | missing stage result =>
    obtain ⟨-, now, -⟩ := off
    have never : ¬ lead ≠ .unconfirmed := by
      intro decides
      obtain ⟨done, ids, earlier, -⟩ := staged.2.resolving stage
      obtain ⟨recipients, state, all⟩ := found decides
      exact all.lookup_ne_error ids earlier result
    refine ⟨now, ⟨_, rfl⟩, fun decides => absurd decides never, fun untouched => ?_⟩
    exact absurd (by simp [untouched]) never
  | resolved stage =>
    obtain ⟨cancelled, now, -⟩ := off
    exact ⟨cancelled, now, trivial⟩
  | revokedBefore stage seen =>
    obtain ⟨-, log⟩ := staged.2.resolved stage
    exact ⟨off.2.1, ⟨_, rfl⟩, fun _ => rfl, fun _ => log⟩
  | nobody stage unseen empty => exact absurd (glance_of_cancelled staged.1 off.1) unseen
  | begins stage unseen inhabited begun =>
    exact absurd (glance_of_cancelled staged.1 off.1) unseen
  | looks stage unseen => exact absurd (glance_of_cancelled staged.1 off.1) unseen
  | revokedMeanwhile stage seen =>
    obtain ⟨-, now, within⟩ := off
    simp only [stage, Stage.Within] at within
    exact ⟨now, ⟨_, rfl⟩, fun _ => rfl, fun untouched => absurd untouched within.1⟩
  | sleeps stage early =>
    obtain ⟨cancelled, now, within⟩ := off
    simp only [stage, Stage.Within] at within
    exact ⟨cancelled, now, within⟩
  | ready stage late result =>
    obtain ⟨cancelled, now, within⟩ := off
    simp only [stage, Stage.Within] at within
    refine ⟨cancelled, now, ?_⟩
    cases lead with
    | untouched => exact absurd rfl within.1
    | early => exact absurd (within.2 rfl) (Nat.not_lt.mpr late)
    | unconfirmed => rfl
  | notReady stage late result =>
    obtain ⟨-, now, within⟩ := off
    simp only [stage, Stage.Within] at within
    refine ⟨now, ⟨_, rfl⟩, fun decides => ?_, fun untouched => absurd untouched within.1⟩
    cases lead with
    | untouched => exact absurd rfl within.1
    | early => exact absurd (within.2 rfl) (Nat.not_lt.mpr late)
    | unconfirmed => exact absurd rfl decides
  | confirmed stage undisturbed => exact absurd off.1 (Bool.eq_false_iff.mp undisturbed)
  | revokedAfter stage cancelled =>
    obtain ⟨-, now, within⟩ := off
    simp only [stage, Stage.Within] at within
    exact ⟨now, ⟨_, rfl⟩, fun _ => rfl, fun untouched => by simp [untouched] at within⟩
  | notComposed stage result => simp [CalledOff, stage, Stage.Within] at off
  | composed stage result few => simp [CalledOff, stage, Stage.Within] at off
  | crashes stage result many => simp [CalledOff, stage, Stage.Within] at off
  | cancels owned => exact ⟨rfl, off.2⟩
  | leaves owned => exact off
  | passes stage undisturbed later soon => exact absurd off.1 (Bool.eq_false_iff.mp undisturbed)
  | delivers step => exact off.elim
  | reports complete => exact off.elim

theorem CalledOff.runs (run : Runs orchestrator session course next)
    (staged : Staged orchestrator session origin course)
    (found : lead ≠ .unconfirmed →
      ∃ recipients state, orchestrator.Found origin session.allIds recipients state)
    (off : CalledOff session lead instant course) :
    Staged orchestrator session origin next ∧ CalledOff session lead instant next := by
  induction run with
  | refl => exact ⟨staged, off⟩
  | tail _ step ih => exact ⟨ih.1.step step, ih.2.step ih.1 found step⟩

/-- Before the deliveries nothing has been sent. -/
theorem StagedPrelude.consume_not_mem (staged : StagedPrelude orchestrator session origin prelude)
    (address : String) : .call (.consume address) ∉ prelude.log := by
  cases stage : prelude.stage with
  | resolving left operators =>
    obtain ⟨done, -, -, log⟩ := staged.resolving stage
    exact log ▸ consume_not_mem_lookups
  | resolved operators => exact (staged.resolved stage).2 ▸ consume_not_mem_lookups
  | creating operators ending due looked =>
    obtain ⟨creation, -, -, log⟩ := staged.creating stage
    rw [log]
    simpa using consume_not_mem_lookups
  | provided operators =>
    exact (staged.provided (.inl stage)).2 ▸ consume_not_mem_preparations
  | confirmed operators =>
    exact (staged.provided (.inr stage)).2 ▸ consume_not_mem_preparations

theorem CalledOff.silent (staged : Staged orchestrator session origin course)
    (off : CalledOff session lead instant course) (address : String) :
    .call (.consume address) ∉ course.log := by
  cases course with
  | running prelude => exact staged.2.consume_not_mem address
  | delivering => exact off.elim
  | finished finish =>
    obtain ⟨-, ⟨error, result⟩, -⟩ := off
    have ends : Ends orchestrator session origin finish.switch.cancelled finish.log
        finish.result := staged
    rw [result] at ends
    exact ends.consume_not_mem address
  | crashed => exact off.elim

/-- Lookups that are left come to their end, well or not. -/
private theorem exists_finish_of_resolving (left : List OperatorId) {found : List Operator}
    (rest : ∀ prelude : Prelude σ, prelude.switch.cancelled = true →
      (∀ wait, prelude.memory = some wait → prelude.switch.Remembers wait) →
      (∃ operators, prelude.stage = .resolved operators) →
      ∃ finish, Runs orchestrator session (.running prelude) (.finished finish))
    (prelude : Prelude σ) (stage : prelude.stage = .resolving left found)
    (cancelled : prelude.switch.cancelled = true)
    (memories : ∀ wait, prelude.memory = some wait → prelude.switch.Remembers wait) :
    ∃ finish, Runs orchestrator session (.running prelude) (.finished finish) := by
  induction left generalizing prelude found with
  | nil =>
    obtain ⟨finish, run⟩ := rest { prelude with stage := .resolved found } cancelled memories
      ⟨found, rfl⟩
    exact ⟨finish, .head (.resolved stage) run⟩
  | cons id left ih =>
    rcases looked : (orchestrator.directory.lookup id).perform prelude.state with
      ⟨error | operator, state⟩
    · exact ⟨_, .single (.missing stage looked)⟩
    · obtain ⟨finish, run⟩ := ih
        { prelude with
          stage := .resolving left (found ++ [operator])
          state := state
          log := prelude.log ++ [.call (.lookup id)] } rfl cancelled memories
      exact ⟨finish, .head (.found stage looked) run⟩

/-- A session that is cancelled before the check can be brought to its end. -/
theorem CalledOff.exists_finish (staged : Staged orchestrator session origin course)
    (off : CalledOff session lead instant course) :
    ∃ finish, Runs orchestrator session course (.finished finish) := by
  -- Once everybody has been looked up, the next look at the switch ends the session.
  have atOnce : ∀ prelude : Prelude σ, prelude.switch.cancelled = true →
      (∀ wait, prelude.memory = some wait → prelude.switch.Remembers wait) →
      (∃ operators, prelude.stage = .resolved operators) →
      ∃ finish, Runs orchestrator session (.running prelude) (.finished finish) := by
    intro prelude cancelled memories ⟨operators, stage⟩
    exact ⟨_, .single (.revokedBefore stage (glance_of_cancelled memories cancelled))⟩
  cases course with
  | delivering => exact off.elim
  | crashed => exact off.elim
  | finished finish => exact ⟨finish, .refl⟩
  | running prelude =>
    obtain ⟨cancelled, -, within⟩ := off
    obtain ⟨memories, -⟩ := staged
    have seen := glance_of_cancelled memories cancelled
    cases stage : prelude.stage with
    | resolving left found =>
      exact exists_finish_of_resolving left atOnce prelude stage cancelled memories
    | resolved operators => exact atOnce prelude cancelled memories ⟨operators, stage⟩
    | provided operators => exact ⟨_, .single (.revokedAfter stage cancelled)⟩
    | confirmed operators => simp [stage, Stage.Within] at within
    | creating operators ending due looked =>
      cases looked with
      | false => exact ⟨_, .single (.revokedMeanwhile stage seen)⟩
      | true =>
        by_cases early : prelude.now < due
        · exact ⟨_, .head (.sleeps stage early) (.single (.revokedMeanwhile rfl seen))⟩
        · have late : due ≤ prelude.now := Nat.not_lt.mp early
          rcases result : ending.perform prelude.state with ⟨error | ⟨⟨⟩⟩, state⟩
          · exact ⟨_, .single (.notReady stage late result)⟩
          · exact ⟨_, .head (.ready stage late result) (.single (.revokedAfter rfl cancelled))⟩

/-- What can still happen to a session that is cancelled before the check. -/
theorem CalledOff.revoked (staged : Staged orchestrator session origin course)
    (found : lead ≠ .unconfirmed →
      ∃ recipients state, orchestrator.Found origin session.allIds recipients state)
    (off : CalledOff session lead instant course) :
    Revoked orchestrator session lead instant course := by
  constructor
  · intro finish run
    obtain ⟨now, failed, decided, -⟩ := (off.runs run staged found).2
    exact ⟨now, failed, decided⟩
  · intro untouched finish run
    exact (off.runs run staged found).2.2.2.2 untouched
  · intro later run
    obtain ⟨stagedLater, still⟩ := off.runs run staged found
    exact still.silent stagedLater
  · intro later run
    obtain ⟨stagedLater, still⟩ := off.runs run staged found
    exact still.exists_finish stagedLater

/-! ### What the clock shows -/

/-- What the clock of a session shows, and when it was told that its topic was not created. -/
def Paced (creation : TopicCreation σ) : Course σ → Prop
  | .running prelude =>
    match prelude.stage with
    | .resolving _ _ | .resolved _ => prelude.now = 0
    | .creating _ _ due _ => due = creation.delay ∧ prelude.now ≤ due
    | .provided _ | .confirmed _ => prelude.now = creation.delay
  | .finished finish =>
    ∀ error, finish.result = .error (.topicNotCreated error) → finish.now = creation.delay
  | .delivering _ _ _ | .crashed _ => True

variable {creation : TopicCreation σ}

theorem Paced.step (begun : orchestrator.Begun session origin recipients creation state)
    (staged : Staged orchestrator session origin course) (paced : Paced creation course)
    (step : Step orchestrator session course next) : Paced creation next := by
  cases step with
  | found stage result => simpa [Paced, stage] using paced
  | missing stage result =>
    obtain ⟨done, ids, earlier, -⟩ := staged.2.resolving stage
    obtain ⟨-, before, found, -⟩ := begun
    exact absurd result (found.lookup_ne_error ids earlier)
  | resolved stage => simpa [Paced, stage] using paced
  | revokedBefore | nobody | revokedMeanwhile | revokedAfter =>
    simp [Paced, Prelude.finish]
  | begins stage unseen inhabited begins =>
    obtain ⟨found, -⟩ := staged.2.resolved stage
    simp only [Paced, stage] at paced
    obtain ⟨-, rfl, -⟩ := begun.unique ⟨inhabited, _, found, begins⟩
    exact ⟨by simp [paced], Nat.le_add_right _ _⟩
  | looks stage unseen => simpa [Paced, stage] using paced
  | sleeps stage early => simpa [Paced, stage] using paced
  | ready stage late result =>
    simp only [Paced, stage] at paced
    obtain ⟨rfl, inTime⟩ := paced
    exact Nat.le_antisymm inTime late
  | notReady stage late result =>
    simp only [Paced, stage] at paced
    obtain ⟨rfl, inTime⟩ := paced
    intro _ _
    exact Nat.le_antisymm inTime late
  | confirmed stage undisturbed => simpa [Paced, stage] using paced
  | notComposed stage result =>
    obtain ⟨cause, rfl, -⟩ := Initiation.exists_of_compose_error result
    simp [Paced, Prelude.finish]
  | composed stage result few => trivial
  | crashes stage result many => trivial
  | cancels owned => exact paced
  | leaves owned => exact paced
  | passes stage undisturbed later soon =>
    simp only [Paced, stage] at paced ⊢
    exact ⟨paced.1, soon⟩
  | delivers step => trivial
  | reports complete => simp [Paced]

theorem Runs.paced {switch : Switch}
    (begun : orchestrator.Begun session origin recipients creation state)
    (run : Runs orchestrator session (start session switch origin) course) :
    Paced creation course := by
  induction run with
  | refl => rfl
  | tail before step ih => exact ih.step begun (Runs.staged before) step

/-- Before the creation of the topic is over, it is still to come. -/
theorem Paced.within (paced : Paced creation (.running prelude))
    (early : prelude.now < creation.delay) : prelude.stage.Within .early prelude.now := by
  unfold Paced at paced
  cases stage : prelude.stage with
  | resolving | resolved => trivial
  | creating operators ending due looked =>
    simp only [stage] at paced
    exact ⟨by simp, fun _ => paced.1 ▸ early⟩
  | provided operators =>
    simp only [stage] at paced
    exact absurd paced (Nat.ne_of_lt early)
  | confirmed operators =>
    simp only [stage] at paced
    exact absurd paced (Nat.ne_of_lt early)

/-- If the topic is not created and nobody cancels, the session ends with that. -/
theorem result_of_notCreated {switch : Switch} {finish : Finish σ} {error : Error} {after : σ}
    (begun : orchestrator.Begun session origin recipients creation state)
    (failed : creation.ending.perform state = (.error error, after))
    (run : Runs orchestrator session (start session switch origin) (.finished finish))
    (undisturbed : finish.switch.cancelled = false) :
    finish.result = .error (.topicNotCreated error) ∧ finish.now = creation.delay := by
  have paced := Runs.paced begun run
  have never : ∀ {operators : List Operator} {state : σ},
      ¬ orchestrator.Provided session origin operators state := by
    rintro operators _ ⟨creation, before, begunToo, succeeds⟩
    obtain ⟨-, rfl, rfl⟩ := begun.unique begunToo
    simp [succeeds] at failed
  have ends : Ends orchestrator session origin finish.switch.cancelled finish.log
      finish.result := run.staged
  suffices result : finish.result = .error (.topicNotCreated error) from ⟨result, paced _ result⟩
  rw [undisturbed] at ends
  -- Of all ends there is only one that nobody's cancellation and no topic lead to.
  generalize finish.result = result at ends
  generalize finish.log = log at ends
  cases ends with
  | missing ids earlier result =>
    obtain ⟨-, before, found, -⟩ := begun
    exact absurd result (found.lookup_ne_error ids earlier)
  | nobody empty => exact absurd empty begun.1
  | notReady begunToo result =>
    obtain ⟨-, rfl, rfl⟩ := begun.unique begunToo
    rw [failed] at result
    obtain ⟨same, -⟩ := Prod.mk.inj result
    rw [Except.error.inj same]
  | notComposed provided => exact absurd provided never
  | delivered provided => exact absurd provided never

/-! ### Cancelled right after the check -/

/-- A session that is cancelled between the check and its deliveries. Nothing is sent, and what
is reported is that everything was cancelled. -/
def Cleared (orchestrator : Orchestrator σ) : Course σ → Prop
  | .running prelude =>
    prelude.switch.cancelled = true ∧ (∃ operators, prelude.stage = .confirmed operators) ∧
      ∀ address, .call (.consume address) ∉ prelude.log
  | .delivering log payload round =>
    (∀ address, .call (.consume address) ∉ log) ∧
      ∃ operators switch now state, switch.cancelled = true ∧
        Round.Runs (orchestrator.mission payload)
          (.start (orchestrator.mission payload) operators switch now .none state) round
  | .finished finish =>
    (∀ address, .call (.consume address) ∉ finish.log) ∧
      ∀ report, finish.result = .ok report → ∀ outcome ∈ report.outcomes,
        outcome.status = .cancelled
  | .crashed log => ∀ address, .call (.consume address) ∉ log

/-- Deliveries that are cancelled before they begin are none. -/
private theorem deeds_eq_nil {payload : Bytes} {operators : List Operator} {switch : Switch}
    {now : Nat} {round : Round σ} (cancelled : switch.cancelled = true)
    (run : Round.Runs (orchestrator.mission payload)
      (.start (orchestrator.mission payload) operators switch now .none state) round) :
    round.deeds = [] := by
  have frozen := Round.Runs.frozen Round.orderly_start cancelled run
  rw [Round.deeds, frozen.started]
  rfl

theorem Cleared.step (cleared : Cleared orchestrator course)
    (step : Step orchestrator session course next) : Cleared orchestrator next := by
  cases step with
  | found stage | missing stage | resolved stage | revokedBefore stage | nobody stage
  | begins stage | looks stage | revokedMeanwhile stage | sleeps stage | ready stage
  | notReady stage | confirmed stage | revokedAfter stage | passes stage =>
    obtain ⟨-, ⟨operators, confirmed⟩, -⟩ := cleared
    simp [stage] at confirmed
  | notComposed stage result =>
    refine ⟨fun address => ?_, fun report told => by simp [Prelude.finish] at told⟩
    simpa [Prelude.finish] using cleared.2.2 address
  | composed stage result few =>
    exact ⟨fun address => by simpa using cleared.2.2 address, _, _, _, _, cleared.1, .refl⟩
  | crashes stage result many => exact fun address => by simpa using cleared.2.2 address
  | cancels owned => exact ⟨rfl, cleared.2⟩
  | leaves owned => exact cleared
  | delivers step =>
    obtain ⟨silent, operators, switch, now, state, cancelled, run⟩ := cleared
    exact ⟨silent, operators, switch, now, state, cancelled, run.tail step⟩
  | reports complete =>
    obtain ⟨silent, operators, switch, now, state, cancelled, run⟩ := cleared
    refine ⟨fun address => ?_, fun report told => ?_⟩
    · simpa [deeds_eq_nil cancelled run] using silent address
    · obtain rfl := Except.ok.inj told
      exact (Round.cancelled_before cancelled run complete session.id).2.2

theorem Cleared.runs (run : Runs orchestrator session course next)
    (cleared : Cleared orchestrator course) : Cleared orchestrator next := by
  induction run with
  | refl => exact cleared
  | tail _ step ih => exact ih.step step

theorem Cleared.silent (cleared : Cleared orchestrator course) (address : String) :
    .call (.consume address) ∉ course.log := by
  cases course with
  | running prelude => exact cleared.2.2 address
  | delivering log payload round =>
    obtain ⟨silent, operators, switch, now, state, cancelled, run⟩ := cleared
    simpa [Course.log, deeds_eq_nil cancelled run] using silent address
  | finished finish => exact cleared.1 address
  | crashed log => exact cleared address

/-! ### Cancelled during the deliveries -/

/-- Once deliveries have begun, everything is up to them. -/
theorem Runs.of_delivering {log : List Deed} {payload : Bytes} {round : Round σ}
    (run : Runs orchestrator session (.delivering log payload round) course) :
    (∃ later, Round.Runs (orchestrator.mission payload) round later ∧
      course = .delivering log payload later) ∨
    (∃ last, Round.Runs (orchestrator.mission payload) round last ∧ last.IsOver ∧
      course = .finished ⟨.ok (last.report session.id), last.switch, last.fanout.now,
        last.fanout.shared.transport, log ++ last.deeds⟩) := by
  induction run with
  | refl => exact .inl ⟨round, .refl, rfl⟩
  | tail _ step ih =>
    rcases ih with ⟨later, deliveries, rfl⟩ | ⟨last, -, -, rfl⟩
    · cases step with
      | delivers step => exact .inl ⟨_, deliveries.tail step, rfl⟩
      | reports complete => exact .inr ⟨later, deliveries, complete, rfl⟩
    · cases step

/-- A session that is cancelled during its deliveries ends well, with what was unfinished at that
moment reported as cancelled. -/
theorem finished_of_interrupted {switch : Switch} {log : List Deed} {payload : Bytes}
    {round : Round σ} {finish : Finish σ}
    (run : Runs orchestrator session (start session switch origin)
      (.delivering log payload round))
    (undisturbed : round.isCancelled = false) (owned : round.switch.owned = true)
    (rest : Runs orchestrator session (.delivering log payload round.disturbed)
      (.finished finish)) :
    ∃ report, finish.result = .ok report ∧ round.CutReport report ∧
      finish.now = round.fanout.now ∧ finish.log = log ++ round.deeds := by
  obtain ⟨operators, initiation, first, now, state, -, -, -, -, deliveries⟩ := run.staged
  have orderly := Round.Runs.orderly deliveries Round.orderly_start
  have uncut := Round.Runs.uncut deliveries Round.orderly_start Round.uncut_start undisturbed
  rcases rest.of_delivering with ⟨later, -, same⟩ | ⟨last, after, complete, same⟩
  · cases same
  · obtain rfl := Course.finished.inj same
    obtain ⟨cut, ends, started⟩ :=
      Round.cutReport_of_runs orderly uncut owned after complete session.id
    exact ⟨_, rfl, cut, ends, by rw [Round.deeds, started, Round.deeds]⟩

/-- Deliveries that are cancelled come to their end. -/
theorem exists_finish_of_delivering {switch : Switch} {log : List Deed} {payload : Bytes}
    {round : Round σ}
    (run : Runs orchestrator session (start session switch origin)
      (.delivering log payload round))
    (owned : round.switch.owned = true) :
    ∃ finish, Runs orchestrator session (.delivering log payload round.disturbed)
      (.finished finish) := by
  obtain ⟨operators, _, _, _, _, -, -, -, -, deliveries⟩ := run.staged
  have orderly := Round.Runs.orderly deliveries Round.orderly_start
  have disturbed : round.disturbed.Orderly (orchestrator.mission payload) operators :=
    orderly.step (.cancel owned)
  obtain ⟨last, rest, complete, -⟩ := disturbed.exists_finished
  exact ⟨_, (runs_delivering rest).tail (.reports complete)⟩

end Course

end Resharing
