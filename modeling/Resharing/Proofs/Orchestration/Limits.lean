import Resharing.Messenger.InMemory
import Resharing.Proofs.Delivery.Outcome
import Resharing.Proofs.Orchestration.Cancellation
import Resharing.Proofs.Orchestration.Recipients

/-!
# What the limit of calls decides

Every limit from one up asks for as many permits, and zero asks for one. But there are only so many
permits to be had. With a limit within that number deliveries always come to an end and report on
everybody; whoever is called, however long it takes and whenever it is cancelled. A limit beyond
it is compared with nothing before the permits are made. So it does no harm to a session that
fails or is cancelled earlier, and it takes down every other session when its topic has been
created and its initiation has been signed. Nobody hears of that session again.

## Main definitions

* `CancelPlan.Awaits`: an owner that lets the creation of a topic end
* `Orchestrator.ComesToDeliver`: a session whose deliveries are due
* `Course.Limited`: what the limit has to do with how far a session has come

## Main results

* `Fanout.deliver_eq_error_iff`, `Round.exists_covers`: when deliveries crash, and that they come
  to their end otherwise
* `Orchestrator.runSession_eq_error_iff`: when a session crashes
* `Course.Runs.limited`, `Course.log_of_crashed`: the same of every course
* `Initiator.complaint_eq_crashed_iff`: the same of the program
* `Orchestrator.limit_decides`: what the limit decides
* `Orchestrator.limit_loses_session`: a session that it takes down
-/

namespace Resharing

/-- No more permits are asked for than there can be if the limit says so. -/
theorem DeliverySettings.permits_le_iff (settings : DeliverySettings) :
    settings.permits ≤ maxPermits ↔ settings.limit.toNat ≤ maxPermits := by
  have one : 1 ≤ maxPermits := by decide
  rw [permits, Nat.max_le, and_iff_left one]

/-! ### Deliveries -/

section Deliveries

variable {τ : Type} {mission : Mission τ} {recipients : List Operator} {cancelAt : Option Nat}
  {now : Nat} {traffic : Traffic} {transport : τ} {crash : Crash}

/-- Deliveries crash only for want of permits. -/
theorem Fanout.deliver_eq_error_iff :
    Fanout.deliver mission recipients cancelAt now traffic transport = .error crash ↔
      crash = .tooManyPermits ∧ DeliverySettings.maxPermits < mission.settings.limit.toNat := by
  rw [← Nat.not_le, ← DeliverySettings.permits_le_iff, deliver]
  split_ifs with few
  · simp only [few, not_true_eq_false, and_false]
  · rw [Except.error.injEq, and_iff_left few, eq_comm]

/-- With permits for everybody who may call, deliveries end with a report on everybody. -/
theorem Round.exists_covers (few : mission.settings.limit.toNat ≤ DeliverySettings.maxPermits)
    (recipients : List Operator) (cancelAt : Option Nat) (now : Nat) (traffic : Traffic)
    (transport : τ) (session : SessionId) :
    ∃ fanout, Fanout.deliver mission recipients cancelAt now traffic transport = .ok fanout ∧
      fanout.tasks.all Task.isEnded = true ∧ (fanout.report session).Covers recipients := by
  obtain ⟨fanout, delivered, schedules⟩ := Round.exists_deliver recipients now traffic transport
    (mission.settings.permits_le_iff.mpr few) (rfl : Switch.fresh.cancelled = false) cancelAt
    fun _ => rfl
  obtain ⟨finished, run, complete, rfl⟩ := schedules.exists_finished
  have orderly := run.orderly Round.orderly_start
  refine ⟨finished.fanout, delivered, ?_, ?_⟩
  · exact List.all_eq_true.mpr fun task member => orderly.known.isEnded complete member
  · rw [← orderly.report_eq complete]
    exact Round.covers_report orderly complete session

end Deliveries

/-! ### Sessions that are carried out -/

/-- The owner lets the creation of a topic end that takes some milliseconds. -/
def CancelPlan.Awaits (plan : CancelPlan) (delay : Nat) : Prop :=
  plan ≠ .before ∧ ¬ (0 < delay ∧ (plan.time? 0).any (· ≤ delay))

namespace Orchestrator

variable {σ : Type} {orchestrator : Orchestrator σ} {session : Session} {origin state : σ}
  {recipients : List Operator} {plan : CancelPlan} {calls : List OutsideCall} {crash : Crash}

/-- The deliveries of a session are due: its operators have been found, its topic has been created
before anybody cancelled, and its initiation is composed. -/
def ComesToDeliver (orchestrator : Orchestrator σ) (session : Session) (plan : CancelPlan)
    (origin : σ) : Prop :=
  ∃ recipients creation before state initiation,
    orchestrator.Begun session origin recipients creation before ∧ plan.Awaits creation.delay ∧
    creation.ending.perform before = (.ok (), state) ∧
    Initiation.compose session orchestrator.signer = .ok initiation

/-- The stage of the deliveries crashes for want of permits, once an initiation is composed. -/
theorem deliver_eq_error_iff {cancelAt : Option Nat} {now : Nat} :
    orchestrator.deliver session recipients cancelAt now calls state = .error crash ↔
      (crash = .tooManyPermits ∧
        DeliverySettings.maxPermits < orchestrator.settings.limit.toNat) ∧
      ∃ initiation, Initiation.compose session orchestrator.signer = .ok initiation := by
  cases composed : Initiation.compose session orchestrator.signer with
  | error error => simp [deliver, composed]
  | ok initiation =>
    rw [and_iff_left ⟨initiation, rfl⟩]
    refine Iff.trans ?_ (@Fanout.deliver_eq_error_iff σ (orchestrator.mission initiation.payload)
      recipients cancelAt now .none state crash)
    cases delivered : Fanout.deliver (orchestrator.mission initiation.payload) recipients cancelAt
        now .none state with
    | error other =>
      unfold mission at delivered
      simp only [deliver, composed, delivered, bind, Except.bind]
      rw [Except.error.injEq, Except.error.injEq]
    | ok fanout => simp [deliver_eq composed delivered]

/-- A session crashes for want of permits, once its deliveries are due. -/
theorem runSession_eq_error_iff :
    orchestrator.runSession session plan origin = .error crash ↔
      (crash = .tooManyPermits ∧
        DeliverySettings.maxPermits < orchestrator.settings.limit.toNat) ∧
      orchestrator.ComesToDeliver session plan origin := by
  constructor
  · intro crashed
    -- Every end before the deliveries is an ordinary one, so the session must come to them.
    rcases resolved : orchestrator.resolve session.allIds origin with
      ⟨error | recipients, made, middle⟩
    · simp [runSession, resolved] at crashed
    have found : orchestrator.Found origin session.allIds recipients middle :=
      Found.nil.of_resolve resolved
    by_cases before : plan = .before
    · rw [before, runSession_before found] at crashed
      cases crashed
    by_cases nobody : session.allIds = []
    · rw [runSession_found found, provision, if_neg before, if_pos nobody] at crashed
      cases crashed
    rcases begins : orchestrator.topics.begin session.topic middle with ⟨creation, begun⟩
    have here : orchestrator.Begun session origin recipients creation begun :=
      ⟨nobody, middle, found, begins⟩
    rw [runSession_begun here before] at crashed
    split_ifs at crashed with revoked
    rcases ends : creation.ending.perform begun with ⟨error | ⟨⟨⟩⟩, next⟩
    · simp [ends] at crashed
    · simp only [ends] at crashed
      obtain ⟨exceeded, initiation, composed⟩ := deliver_eq_error_iff.mp crashed
      exact ⟨exceeded, recipients, creation, begun, next, initiation, here, ⟨before, revoked⟩, ends,
        composed⟩
  · rintro ⟨exceeded, recipients, creation, before, next, initiation, begun, ⟨later, awaits⟩, ends,
      composed⟩
    rw [runSession_begun begun later, if_neg awaits, ends]
    exact deliver_eq_error_iff.mpr ⟨exceeded, initiation, composed⟩

end Orchestrator

/-! ### Every course -/

namespace Course

variable {σ : Type} {orchestrator : Orchestrator σ} {session : Session} {origin : σ}
  {switch : Switch} {course : Course σ}

/-- What the limit has to do with how far a session has come. -/
def Limited (orchestrator : Orchestrator σ) : Course σ → Prop
  | .running _ => True
  | .delivering _ _ _ => orchestrator.settings.limit.toNat ≤ DeliverySettings.maxPermits
  | .finished finish => ∀ report, finish.result = .ok report →
      orchestrator.settings.limit.toNat ≤ DeliverySettings.maxPermits
  | .crashed _ => DeliverySettings.maxPermits < orchestrator.settings.limit.toNat

theorem Limited.step {next : Course σ} (limited : Limited orchestrator course)
    (step : Step orchestrator session course next) : Limited orchestrator next := by
  cases step with
  | composed stage result few => exact orchestrator.settings.permits_le_iff.mp few
  | crashes stage result many =>
    exact Nat.not_le.mp fun few => many (orchestrator.settings.permits_le_iff.mpr few)
  | delivers step => exact limited
  | reports complete => exact fun _ _ => limited
  | missing | revokedBefore | nobody | revokedMeanwhile | notReady | revokedAfter | notComposed =>
    exact nofun
  | _ => trivial

/-- In every course the limit is small enough if something is delivered, and too large if the
session crashes. -/
theorem Runs.limited (run : Runs orchestrator session (start session switch origin) course) :
    Limited orchestrator course := by
  induction run with
  | refl => trivial
  | tail _ step ih => exact ih.step step

/-- A session that crashes has created its topic and signed its initiation. -/
theorem log_of_crashed {log : List Deed}
    (run : Runs orchestrator session (start session switch origin) (.crashed log)) :
    ∃ initiation, Initiation.compose session orchestrator.signer = .ok initiation ∧
      log = session.preparations ++ [.call .sign, .composed initiation.payload] := by
  obtain ⟨operators, initiation, state, -, composed, log⟩ := run.staged
  exact ⟨initiation, composed, log⟩

end Course

/-! ### The program -/

/-- The program of an initiator complains of a crash if its session has crashed. -/
theorem Initiator.complaint_eq_crashed_iff {ν : Type} (machine : Machine ν)
    (invocation : Invocation) (session : Session) (signer : Signer) (limit : UInt64)
    (world : World ν) {crash : Crash} :
    (runSession machine invocation session signer limit world).complaint =
        some (.crashed crash) ↔
      (orchestrator machine invocation session signer limit).runSession session machine.interrupt
        world = .error crash := by
  cases ran : (orchestrator machine invocation session signer limit).runSession session
      machine.interrupt world with
  | error other =>
    unfold orchestrator at ran
    simp [runSession, ran, Done.leaving]
  | ok run =>
    unfold orchestrator at ran
    rw [iff_false_right (by simp)]
    intro complained
    cases result : run.result with
    | error error => simp [runSession, ran, result, Done.leaving] at complained
    | ok report =>
      simp only [runSession, ran, result, conclude, Done.leaving] at complained
      split_ifs at complained
      cases complained

namespace Orchestrator

/-- The limit of calls decides whether deliveries come to pass. With a limit up to the greatest
number of permits, zero included, they always end with one outcome for each recipient. With a
greater one they crash, and nothing else crashes them. A session crashes exactly if its limit is
too great and its deliveries are due: then its topic has been created and its initiation has been
signed, and no session with such a limit ends well. So it is with the program of an initiator. -/
theorem limit_decides {τ σ ν : Type} (mission : Mission τ) (recipients : List Operator)
    (cancelAt : Option Nat) (now : Nat) (traffic : Traffic) (transport : τ)
    (orchestrator : Orchestrator σ) (session : Session) (origin : σ) (machine : Machine ν)
    (invocation : Invocation) (signer : Signer) (limit : UInt64) (world : World ν) :
    ((mission.settings.limit.toNat ≤ DeliverySettings.maxPermits →
        ∃ fanout, Fanout.deliver mission recipients cancelAt now traffic transport = .ok fanout ∧
          fanout.tasks.all Task.isEnded = true ∧
          (fanout.report session.id).Covers recipients) ∧
      ∀ crash, Fanout.deliver mission recipients cancelAt now traffic transport = .error crash ↔
        crash = .tooManyPermits ∧
          DeliverySettings.maxPermits < mission.settings.limit.toNat) ∧
    ((∀ plan crash, orchestrator.runSession session plan origin = .error crash ↔
        (crash = .tooManyPermits ∧
          DeliverySettings.maxPermits < orchestrator.settings.limit.toNat) ∧
        orchestrator.ComesToDeliver session plan origin) ∧
      (∀ switch log,
        Course.Runs orchestrator session (.start session switch origin) (.crashed log) →
        DeliverySettings.maxPermits < orchestrator.settings.limit.toNat ∧
        ∃ initiation, Initiation.compose session orchestrator.signer = .ok initiation ∧
          log = session.preparations ++ [.call .sign, .composed initiation.payload]) ∧
      ∀ switch finish report,
        Course.Runs orchestrator session (.start session switch origin) (.finished finish) →
        finish.result = .ok report →
        orchestrator.settings.limit.toNat ≤ DeliverySettings.maxPermits) ∧
    ∀ crash,
      (Initiator.runSession machine invocation session signer limit world).complaint =
          some (.crashed crash) ↔
        (crash = .tooManyPermits ∧ DeliverySettings.maxPermits < limit.toNat) ∧
        (Initiator.orchestrator machine invocation session signer limit).ComesToDeliver session
          machine.interrupt world := by
  refine ⟨⟨fun few => ?_, fun crash => Fanout.deliver_eq_error_iff⟩,
    ⟨fun plan crash => runSession_eq_error_iff,
      fun switch log run => ⟨run.limited, Course.log_of_crashed run⟩,
      fun switch finish report run result => run.limited report result⟩,
    fun crash => ?_⟩
  · exact Round.exists_covers few recipients cancelAt now traffic transport session.id
  · rw [Initiator.complaint_eq_crashed_iff]
    exact runSession_eq_error_iff

/-- The topic of a session with one operator is created and its initiation is signed. With sixteen
calls at a time there is a report, and with one more than there can be permits there is none. -/
theorem limit_loses_session :
    let session : Session :=
      ⟨⟨List.replicate 16 0, rfl⟩, ⟨[(1, "a")], List.pairwise_singleton _ _⟩, .empty, 1, [1]⟩
    let orchestrator (limit : UInt64) : Orchestrator InMemory :=
      ⟨session.directory, InMemory.messenger.topicService 0,
        ⟨1, fun message => .ok ⟨message, 1, []⟩⟩, .ofBehaviour fun _ => .accepting,
        ⟨limit, 30000⟩⟩
    let origin := InMemory.start false 0
    (∃ run report, (orchestrator 16).runSession session .never origin = .ok run ∧
      run.result = .ok report) ∧
    (orchestrator 2305843009213693952).ComesToDeliver session .never origin ∧
    (orchestrator 2305843009213693952).runSession session .never origin =
      .error .tooManyPermits := by
  intro session orchestrator origin
  have ids : session.allIds = [1] :=
    congrArg OperatorMap.ids (OperatorMap.ofList_entries session.operators)
  have found (limit : UInt64) :
      (orchestrator limit).Found origin session.allIds [.ofAddress 1 "a"] origin := by
    rw [ids]
    exact Orchestrator.Found.nil.snoc rfl
  have begun (limit : UInt64) : (orchestrator limit).Begun session origin [.ofAddress 1 "a"]
      ⟨0, InMemory.messenger.createTopic session.topic⟩ origin :=
    ⟨by simp [ids], origin, found limit, rfl⟩
  have due (limit : UInt64) : (orchestrator limit).ComesToDeliver session .never origin :=
    ⟨_, _, _, _, _, begun limit, ⟨nofun, by simp⟩, rfl, rfl⟩
  refine ⟨Course.exists_report_of_never (begun 16) rfl rfl (by decide), due _, ?_⟩
  exact runSession_eq_error_iff.mpr ⟨⟨rfl, by decide⟩, due _⟩

end Orchestrator

end Resharing
