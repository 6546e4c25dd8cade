import Resharing.Proofs.Orchestration.Course

/-!
# The stages of a session

Whatever the owner does and whoever fails, the log of a session is the beginning of one plan:
the lookups, the topic, the signature, the deliveries. A session that is over has come to one
of a few ends, and its result says which stage was the first to fail.

## Main definitions

* `Session.plan`: what a session does if nothing fails
* `Orchestrator.Found`, `Orchestrator.Begun`, `Orchestrator.Provided`: stages that have succeeded
* `Course.Ends`: the ends that a session can come to
* `Course.Staged`: the invariant of every course
* `Course.Reached`: how far a log has come

## Main results

* `Course.Runs.staged`: every course is staged
* `Course.Staged.reached`: its log has come to one of the stages
* `Course.Reached.log_prefix`: it is the beginning of the plan
-/

namespace Resharing

/-- An initiation that could not be composed was not signed. -/
theorem Initiation.exists_of_compose_error {session : Session} {signer : Signer} {error : Error}
    (failed : Initiation.compose session signer = .error error) :
    ∃ cause, error = .notComposed cause ∧
      signer.sign (Initiation.message session) = .error cause := by
  unfold compose at failed
  cases signed : signer.sign (message session) with
  | ok signed => simp [*] at failed
  | error cause =>
    simp only [signed, Except.error.injEq] at failed
    exact ⟨cause, failed.symm, rfl⟩

/-! ### What has succeeded -/

/-- The lookups of some operators. -/
def lookups (ids : List OperatorId) : List Deed := ids.map fun id => .call (.lookup id)

/-- What a session does until its topic exists. -/
def Session.preparations (session : Session) : List Deed :=
  lookups session.allIds ++ [.call (.createTopic session.topic), .topicReady session.topic]

/-- What a session does if nothing fails: it delivers some bytes to some addresses. -/
def Session.plan (session : Session) (payload : Bytes) (addresses : List String) : List Deed :=
  session.preparations ++ [.call .sign, .composed payload] ++
    addresses.map fun address => .call (.consume address)

namespace Orchestrator

variable {σ : Type} (orchestrator : Orchestrator σ) (session : Session) (origin : σ)

/-- Some operators have been looked up and found, one after the other. -/
inductive Found : List OperatorId → List Operator → σ → Prop
  | nil : Found [] [] origin
  | snoc {ids : List OperatorId} {operators : List Operator} {state next : σ} {id : OperatorId}
      {operator : Operator} (before : Found ids operators state)
      (result : (orchestrator.directory.lookup id).perform state = (.ok operator, next)) :
      Found (ids ++ [id]) (operators ++ [operator]) next

/-- All operators of a session have been found, and the creation of its topic has begun. -/
def Begun (recipients : List Operator) (creation : TopicCreation σ) (state : σ) : Prop :=
  session.allIds ≠ [] ∧ ∃ before, Found orchestrator origin session.allIds recipients before ∧
    orchestrator.topics.begin session.topic before = (creation, state)

/-- The topic of a session has been created. -/
def Provided (recipients : List Operator) (state : σ) : Prop :=
  ∃ creation before, orchestrator.Begun session origin recipients creation before ∧
    creation.ending.perform before = (.ok (), state)

end Orchestrator

namespace Course

variable {σ : Type} (orchestrator : Orchestrator σ) (session : Session) (origin : σ)

/-- The ends that a session can come to: what is found of the switch then, what has been done
and how it ended. Each end but the last is that of the first stage that failed. -/
inductive Ends : Bool → List Deed → Except Error Report → Prop
  /-- Some operator could not be looked up, those before it could. -/
  | missing {cancelled : Bool} {done rest : List OperatorId} {id : OperatorId}
      {operators : List Operator} {state next : σ} {error : Error}
      (ids : session.allIds = done ++ id :: rest)
      (found : orchestrator.Found origin done operators state)
      (result : (orchestrator.directory.lookup id).perform state = (.error error, next)) :
      Ends cancelled (lookups (done ++ [id])) (.error error)
  /-- The owner had cancelled before the topic was to be created. -/
  | revokedBefore {operators : List Operator} {state : σ}
      (found : orchestrator.Found origin session.allIds operators state) :
      Ends true (lookups session.allIds) (.error .cancelled)
  /-- There was nobody to create a topic for. -/
  | nobody {cancelled : Bool} (empty : session.allIds = []) :
      Ends cancelled [] (.error .noOperators)
  /-- The owner cancelled while the topic was created. -/
  | revokedMeanwhile {operators : List Operator} {creation : TopicCreation σ} {state : σ}
      (begun : orchestrator.Begun session origin operators creation state) :
      Ends true (lookups session.allIds ++ [.call (.createTopic session.topic)])
        (.error .cancelled)
  | notReady {cancelled : Bool} {operators : List Operator} {creation : TopicCreation σ}
      {state next : σ} {error : Error}
      (begun : orchestrator.Begun session origin operators creation state)
      (result : creation.ending.perform state = (.error error, next)) :
      Ends cancelled (lookups session.allIds ++ [.call (.createTopic session.topic)])
        (.error (.topicNotCreated error))
  /-- The owner had cancelled by the time the topic existed. -/
  | revokedAfter {operators : List Operator} {state : σ}
      (provided : orchestrator.Provided session origin operators state) :
      Ends true session.preparations (.error .cancelled)
  /-- The signer refused to sign the initiation. -/
  | notComposed {cancelled : Bool} {operators : List Operator} {state : σ} {cause : Error}
      (provided : orchestrator.Provided session origin operators state)
      (refused : orchestrator.signer.sign (Initiation.message session) = .error cause) :
      Ends cancelled (session.preparations ++ [.call .sign]) (.error (.notComposed cause))
  | delivered {cancelled : Bool} {operators : List Operator} {initiation : Initiation}
      {switch : Switch} {now : Nat} {state : σ} {round : Round σ}
      (provided : orchestrator.Provided session origin operators state)
      (result : Initiation.compose session orchestrator.signer = .ok initiation)
      (run : Round.Runs (orchestrator.mission initiation.payload)
        (.start (orchestrator.mission initiation.payload) operators switch now .none state) round)
      (complete : round.IsOver) :
      Ends cancelled (session.plan initiation.payload (round.started.map (·.2)))
        (.ok (round.report session.id))

/-- What holds of a session before its deliveries. -/
def StagedPrelude (prelude : Prelude σ) : Prop :=
  match prelude.stage with
  | .resolving left operators =>
    ∃ done, session.allIds = done ++ left ∧
      orchestrator.Found origin done operators prelude.state ∧ prelude.log = lookups done
  | .resolved operators =>
    orchestrator.Found origin session.allIds operators prelude.state ∧
      prelude.log = lookups session.allIds
  | .creating operators ending _ _ =>
    ∃ creation, orchestrator.Begun session origin operators creation prelude.state ∧
      ending = creation.ending ∧
      prelude.log = lookups session.allIds ++ [.call (.createTopic session.topic)]
  | .provided operators | .confirmed operators =>
    orchestrator.Provided session origin operators prelude.state ∧
      prelude.log = session.preparations

/-- What holds of a session at every moment. -/
def Staged (course : Course σ) : Prop :=
  match course with
  | .running prelude =>
    (∀ wait, prelude.memory = some wait → prelude.switch.Remembers wait) ∧
      StagedPrelude orchestrator session origin prelude
  | .delivering log payload round =>
    ∃ operators initiation switch now state,
      orchestrator.Provided session origin operators state ∧
      Initiation.compose session orchestrator.signer = .ok initiation ∧
      payload = initiation.payload ∧
      log = session.preparations ++ [.call .sign, .composed payload] ∧
      Round.Runs (orchestrator.mission payload)
        (.start (orchestrator.mission payload) operators switch now .none state) round
  | .finished finish =>
    Ends orchestrator session origin finish.switch.cancelled finish.log finish.result
  | .crashed log =>
    ∃ operators initiation state, orchestrator.Provided session origin operators state ∧
      Initiation.compose session orchestrator.signer = .ok initiation ∧
      log = session.preparations ++ [.call .sign, .composed initiation.payload]

variable {orchestrator session origin} {course next : Course σ} {switch : Switch}

theorem staged_start : Staged orchestrator session origin (start session switch origin) :=
  ⟨by simp, [], rfl, .nil, rfl⟩

/-- What is seen of the switch before the deliveries is what it shows. -/
theorem cancelled_of_glance {prelude : Prelude σ}
    (memories : ∀ wait, prelude.memory = some wait → prelude.switch.Remembers wait)
    (seen : prelude.glance = .resolved) : prelude.switch.cancelled = true :=
  (Switch.glance_eq_resolved_iff memories).mp seen

theorem remembers_glance {prelude : Prelude σ}
    (memories : ∀ wait, prelude.memory = some wait → prelude.switch.Remembers wait) :
    ∀ wait, some prelude.glance = some wait → prelude.switch.Remembers wait := by
  rintro wait ⟨⟩
  exact Switch.Remembers.glance memories

theorem Ends.of_eq {cancelled seen : Bool} {log done : List Deed} {result : Except Error Report}
    (ends : Ends orchestrator session origin seen done result) (same : cancelled = seen)
    (sameLog : log = done) : Ends orchestrator session origin cancelled log result :=
  same ▸ sameLog ▸ ends

namespace StagedPrelude

/-! What is known of a session that has come to one of its stages. -/

variable {prelude : Prelude σ} {operators : List Operator}

theorem resolving {left : List OperatorId}
    (staged : StagedPrelude orchestrator session origin prelude)
    (stage : prelude.stage = .resolving left operators) :
    ∃ done, session.allIds = done ++ left ∧
      orchestrator.Found origin done operators prelude.state ∧ prelude.log = lookups done := by
  simpa only [StagedPrelude, stage] using staged

theorem resolved (staged : StagedPrelude orchestrator session origin prelude)
    (stage : prelude.stage = .resolved operators) :
    orchestrator.Found origin session.allIds operators prelude.state ∧
      prelude.log = lookups session.allIds := by
  simpa only [StagedPrelude, stage] using staged

theorem creating {ending : Effect σ Unit} {due : Nat} {looked : Bool}
    (staged : StagedPrelude orchestrator session origin prelude)
    (stage : prelude.stage = .creating operators ending due looked) :
    ∃ creation, orchestrator.Begun session origin operators creation prelude.state ∧
      ending = creation.ending ∧
      prelude.log = lookups session.allIds ++ [.call (.createTopic session.topic)] := by
  simpa only [StagedPrelude, stage] using staged

/-- Nothing more is done until it is confirmed that nobody has cancelled. -/
theorem provided (staged : StagedPrelude orchestrator session origin prelude)
    (stage : prelude.stage = .provided operators ∨ prelude.stage = .confirmed operators) :
    orchestrator.Provided session origin operators prelude.state ∧
      prelude.log = session.preparations := by
  rcases stage with stage | stage <;> simpa only [StagedPrelude, stage] using staged

end StagedPrelude

theorem Staged.step (staged : Staged orchestrator session origin course)
    (step : Step orchestrator session course next) :
    Staged orchestrator session origin next := by
  -- Each step takes what is known of its stage to what is known of the next, or to an end.
  cases step with
  | found stage result =>
    obtain ⟨done, ids, found, log⟩ := staged.2.resolving stage
    refine ⟨staged.1, done ++ [_], by simp [ids], found.snoc result, ?_⟩
    simp [log, lookups]
  | missing stage result =>
    obtain ⟨done, ids, found, log⟩ := staged.2.resolving stage
    exact (Ends.missing ids found result).of_eq rfl (by simp [Prelude.finish, log, lookups])
  | resolved stage =>
    obtain ⟨done, ids, found, log⟩ := staged.2.resolving stage
    rw [List.append_nil] at ids
    subst ids
    exact ⟨staged.1, found, log⟩
  | revokedBefore stage seen =>
    obtain ⟨found, log⟩ := staged.2.resolved stage
    exact (Ends.revokedBefore found).of_eq (cancelled_of_glance staged.1 seen) log
  | nobody stage unseen empty =>
    obtain ⟨-, log⟩ := staged.2.resolved stage
    exact (Ends.nobody empty).of_eq rfl (by simp [Prelude.finish, log, empty, lookups])
  | begins stage unseen inhabited begun =>
    obtain ⟨found, log⟩ := staged.2.resolved stage
    refine ⟨remembers_glance staged.1, _, ⟨inhabited, _, found, begun⟩, rfl, ?_⟩
    simp [log]
  | looks stage unseen => exact ⟨remembers_glance staged.1, staged.2.creating stage⟩
  | revokedMeanwhile stage seen =>
    obtain ⟨creation, begun, -, log⟩ := staged.2.creating stage
    exact (Ends.revokedMeanwhile begun).of_eq (cancelled_of_glance staged.1 seen) log
  | sleeps stage early => exact ⟨staged.1, staged.2.creating stage⟩
  | ready stage late result =>
    obtain ⟨creation, begun, rfl, log⟩ := staged.2.creating stage
    exact ⟨staged.1, ⟨creation, _, begun, result⟩, by simp [log, Session.preparations]⟩
  | notReady stage late result =>
    obtain ⟨creation, begun, rfl, log⟩ := staged.2.creating stage
    exact (Ends.notReady begun result).of_eq rfl log
  | confirmed stage undisturbed => exact ⟨staged.1, staged.2.provided (.inl stage)⟩
  | revokedAfter stage cancelled =>
    obtain ⟨provided, log⟩ := staged.2.provided (.inl stage)
    exact (Ends.revokedAfter provided).of_eq cancelled log
  | notComposed stage result =>
    obtain ⟨provided, log⟩ := staged.2.provided (.inr stage)
    obtain ⟨cause, rfl, refused⟩ := Initiation.exists_of_compose_error result
    exact (Ends.notComposed provided refused).of_eq rfl (by simp [Prelude.finish, log])
  | composed stage result few =>
    obtain ⟨provided, log⟩ := staged.2.provided (.inr stage)
    exact ⟨_, _, _, _, _, provided, result, rfl, by rw [log], .refl⟩
  | crashes stage result many =>
    obtain ⟨provided, log⟩ := staged.2.provided (.inr stage)
    exact ⟨_, _, _, provided, result, by rw [log]⟩
  | cancels owned =>
    exact ⟨fun wait remembered => (staged.1 wait remembered).cancel owned, staged.2⟩
  | leaves owned =>
    exact ⟨fun wait remembered => (staged.1 wait remembered).leave, staged.2⟩
  | passes stage undisturbed later soon => exact staged
  | delivers step =>
    obtain ⟨operators, initiation, switch, now, state, provided, result, payload, log, run⟩ :=
      staged
    exact ⟨operators, initiation, switch, now, state, provided, result, payload, log,
      run.tail step⟩
  | reports complete =>
    obtain ⟨operators, initiation, switch, now, state, provided, result, rfl, rfl, run⟩ := staged
    exact (Ends.delivered provided result run complete).of_eq rfl
      (by simp [Session.plan, Round.deeds, Function.comp_def])

/-- Every course of a session is staged. -/
theorem Runs.staged (run : Runs orchestrator session (start session switch origin) course) :
    Staged orchestrator session origin course := by
  induction run with
  | refl => exact staged_start
  | tail _ step ih => exact ih.step step

end Course

/-! ### The log and the plan -/

/-- Whether a topic was to be created. -/
def Deed.isCreation : Deed → Bool
  | .call (.createTopic _) => true
  | _ => false

@[simp] theorem countP_lookups (ids : List OperatorId) :
    (lookups ids).countP Deed.isCreation = 0 := by
  simp [lookups, List.countP_eq_zero, Deed.isCreation]

/-- The calls in a log are made in stages. -/
structure Session.InStages (session : Session) (log : List Deed) : Prop where
  /-- At most one topic is to be created. -/
  topicOnce : log.countP Deed.isCreation ≤ 1
  /-- It is that of the session, and nothing but all lookups comes before. -/
  lookupsFirst : ∀ front back topic, log = front ++ .call (.createTopic topic) :: back →
    topic = session.topic ∧ front = lookups session.allIds
  /-- Before anything is sent to an operator the topic has been created and the initiation has
  been composed. -/
  consumeLast : ∀ front back address, log = front ++ .call (.consume address) :: back →
    Deed.topicReady session.topic ∈ front ∧ ∃ payload, Deed.composed payload ∈ front

namespace Session

variable {session : Session} {payload : Bytes} {addresses : List String} {log : List Deed}

theorem countP_plan : (session.plan payload addresses).countP Deed.isCreation = 1 := by
  have consumes : (addresses.map fun address => Deed.call (.consume address)).countP
      Deed.isCreation = 0 := by
    simp [List.countP_eq_zero, Deed.isCreation]
  simp [plan, preparations, List.countP_cons, consumes, Deed.isCreation]

/-- Lookups of the first operators are a beginning of the plan. -/
theorem lookups_prefix {done left : List OperatorId} (ids : session.allIds = done ++ left) :
    lookups done <+: session.plan payload addresses := by
  have first : lookups done <+: lookups session.allIds := by
    rw [ids, lookups, lookups, List.map_append]
    exact List.prefix_append _ _
  rw [plan, preparations]
  simp only [List.append_assoc]
  exact first.trans (List.prefix_append _ _)

/-- The only thing of its kind in a list is found in one place. -/
private theorem eq_of_append_cons {α : Type} (kind : α → Bool) {left right front back : List α}
    {a b : α} (same : left ++ a :: right = front ++ b :: back)
    (before : ∀ c ∈ left, kind c = false) (after : ∀ c ∈ right, kind c = false)
    (isKind : kind b = true) : b = a ∧ front = left := by
  -- One of the two beginnings is part of the other; what is between them is not of the kind.
  rcases List.append_eq_append_iff.mp same with ⟨middle, rfl, rest⟩ | ⟨middle, rfl, rest⟩
  · cases middle with
    | nil =>
      rw [List.nil_append, List.cons.injEq] at rest
      exact ⟨rest.1.symm, (List.append_nil left)⟩
    | cons c middle =>
      rw [List.cons_append, List.cons.injEq] at rest
      have inside : b ∈ right := by simp [rest.2]
      simp [after b inside] at isKind
  · cases middle with
    | nil =>
      rw [List.nil_append, List.cons.injEq] at rest
      exact ⟨rest.1, (List.append_nil front).symm⟩
    | cons c middle =>
      rw [List.cons_append, List.cons.injEq] at rest
      simp [before b (by simp [rest.1])] at isKind

/-- A beginning of the plan is in stages. -/
theorem inStages_of_prefix (start : log <+: session.plan payload addresses) :
    session.InStages log := by
  refine ⟨?_, fun front back topic same => ?_, fun front back address same => ?_⟩
  · exact countP_plan ▸ start.sublist.countP_le
  · -- There is only one creation in the plan, and it stands behind all lookups.
    obtain ⟨rest, whole⟩ := start
    rw [same, List.append_assoc, List.cons_append] at whole
    have parts : lookups session.allIds ++ .call (.createTopic session.topic) ::
        ([.topicReady session.topic, .call .sign, .composed payload] ++
          addresses.map fun address => .call (.consume address)) =
        front ++ .call (.createTopic topic) :: (back ++ rest) := by
      simpa [plan, preparations] using whole.symm
    have place := eq_of_append_cons Deed.isCreation parts (by simp [lookups, Deed.isCreation])
      (by simp [Deed.isCreation]) rfl
    simpa using place
  · obtain ⟨rest, whole⟩ := start
    rw [same, List.append_assoc, List.cons_append, plan] at whole
    rcases List.append_eq_append_iff.mp whole with ⟨middle, early, later⟩ | ⟨middle, rfl, -⟩
    · cases middle with
      | nil =>
        rw [List.append_nil] at early
        rw [← early]
        exact ⟨by simp [preparations], payload, by simp⟩
      | cons deed middle =>
        rw [List.cons_append, List.cons.injEq] at later
        have inside : Deed.call (.consume address) ∈
            session.preparations ++ [.call .sign, .composed payload] := by
          rw [early, later.1]
          simp
        simp [preparations, lookups] at inside
    · exact ⟨by simp [preparations], payload, by simp⟩

end Session

namespace Course

variable {σ : Type} {orchestrator : Orchestrator σ} {session : Session} {origin : σ}
  {course : Course σ}

/-! ### How far a session has come -/

/-- How far the log of a session has come. -/
inductive Reached (orchestrator : Orchestrator σ) (session : Session) (origin : σ) :
    List Deed → Prop
  /-- Some operators have been looked up, the first ones. -/
  | searched {done left : List OperatorId} (ids : session.allIds = done ++ left) :
      Reached orchestrator session origin (lookups done)
  /-- The creation of the topic has begun. -/
  | begun {operators : List Operator} {creation : TopicCreation σ} {state : σ}
      (begun : orchestrator.Begun session origin operators creation state) :
      Reached orchestrator session origin
        (lookups session.allIds ++ [.call (.createTopic session.topic)])
  | provided {operators : List Operator} {state : σ}
      (provided : orchestrator.Provided session origin operators state) :
      Reached orchestrator session origin session.preparations
  /-- The signer has refused to sign the initiation. -/
  | refused {operators : List Operator} {state : σ}
      (provided : orchestrator.Provided session origin operators state) :
      Reached orchestrator session origin (session.preparations ++ [.call .sign])
  /-- The initiation has been composed, and sent to some addresses. -/
  | sent {operators : List Operator} {state : σ} {initiation : Initiation}
      (provided : orchestrator.Provided session origin operators state)
      (composed : Initiation.compose session orchestrator.signer = .ok initiation)
      (addresses : List String) :
      Reached orchestrator session origin (session.plan initiation.payload addresses)

theorem Reached.of_eq {log done : List Deed} (reached : Reached orchestrator session origin done)
    (same : log = done) : Reached orchestrator session origin log :=
  same ▸ reached

theorem Ends.reached {cancelled : Bool} {log : List Deed} {result : Except Error Report}
    (ends : Ends orchestrator session origin cancelled log result) :
    Reached orchestrator session origin log := by
  cases ends with
  | missing ids => exact .searched (ids.trans (List.append_cons _ _ _))
  | revokedBefore => exact .searched (List.append_nil _).symm
  | nobody => exact Reached.searched (List.nil_append _).symm
  | revokedMeanwhile begun => exact .begun begun
  | notReady begun => exact .begun begun
  | revokedAfter provided => exact .provided provided
  | notComposed provided => exact .refused provided
  | delivered provided composed => exact .sent provided composed _

/-- At every moment the log has come to one of the stages. -/
theorem Staged.reached (staged : Staged orchestrator session origin course) :
    Reached orchestrator session origin course.log := by
  cases course with
  | running prelude =>
    cases stage : prelude.stage with
    | resolving left operators =>
      obtain ⟨done, ids, -, log⟩ := staged.2.resolving stage
      exact (Reached.searched ids).of_eq log
    | resolved operators =>
      obtain ⟨-, log⟩ := staged.2.resolved stage
      exact (Reached.searched (List.append_nil _).symm).of_eq log
    | creating operators ending due looked =>
      obtain ⟨creation, begun, -, log⟩ := staged.2.creating stage
      exact (Reached.begun begun).of_eq log
    | provided operators =>
      obtain ⟨provided, log⟩ := staged.2.provided (.inl stage)
      exact (Reached.provided provided).of_eq log
    | confirmed operators =>
      obtain ⟨provided, log⟩ := staged.2.provided (.inr stage)
      exact (Reached.provided provided).of_eq log
  | delivering log payload round =>
    obtain ⟨operators, initiation, switch, now, state, provided, composed, rfl, rfl, -⟩ := staged
    refine (Reached.sent provided composed (round.started.map (·.2))).of_eq ?_
    simp [Course.log, Session.plan, Round.deeds, Function.comp_def]
  | finished finish => exact Ends.reached staged
  | crashed log =>
    obtain ⟨operators, initiation, state, provided, composed, rfl⟩ := staged
    exact (Reached.sent provided composed []).of_eq (by simp [Course.log, Session.plan])

/-! ### What the log tells -/

theorem topic_not_mem_lookups {ids : List OperatorId} {topic : Topic} :
    Deed.call (.createTopic topic) ∉ lookups ids := by
  simp [lookups]

theorem consume_not_mem_lookups {ids : List OperatorId} {address : String} :
    Deed.call (.consume address) ∉ lookups ids := by
  simp [lookups]

theorem consume_not_mem_preparations {address : String} :
    Deed.call (.consume address) ∉ session.preparations := by
  simp [Session.preparations, lookups]

variable {log : List Deed}

/-- The log of a session is the beginning of its plan. -/
theorem Reached.log_prefix (reached : Reached orchestrator session origin log) :
    ∃ payload addresses, log <+: session.plan payload addresses := by
  cases reached with
  | searched ids => exact ⟨[], [], Session.lookups_prefix ids⟩
  | begun => exact ⟨[], [], by simp [Session.plan, Session.preparations]⟩
  | provided => exact ⟨[], [], by simp [Session.plan]⟩
  | refused => exact ⟨[], [], by simp [Session.plan]⟩
  | sent => exact ⟨_, _, List.prefix_refl _⟩

theorem found_of_provided {operators : List Operator} {state : σ}
    (provided : orchestrator.Provided session origin operators state) :
    ∃ operators state, orchestrator.Found origin session.allIds operators state := by
  obtain ⟨-, -, ⟨-, before, found, -⟩, -⟩ := provided
  exact ⟨operators, before, found⟩

/-- If a topic was to be created, all operators have been found. -/
theorem Reached.found (reached : Reached orchestrator session origin log) {topic : Topic}
    (member : .call (.createTopic topic) ∈ log) :
    ∃ operators state, orchestrator.Found origin session.allIds operators state := by
  cases reached with
  | searched ids => exact absurd member topic_not_mem_lookups
  | begun begun =>
    obtain ⟨-, before, found, -⟩ := begun
    exact ⟨_, before, found⟩
  | provided provided => exact found_of_provided provided
  | refused provided => exact found_of_provided provided
  | sent provided => exact found_of_provided provided

/-- If anything was sent to an operator, the topic has been created and the initiation has been
composed. -/
theorem Reached.exists_composed (reached : Reached orchestrator session origin log)
    {address : String} (member : .call (.consume address) ∈ log) :
    ∃ operators state initiation, orchestrator.Provided session origin operators state ∧
      Initiation.compose session orchestrator.signer = .ok initiation := by
  cases reached with
  | searched => exact absurd member consume_not_mem_lookups
  | begun => exact absurd member (by simpa using consume_not_mem_lookups)
  | provided => exact absurd member consume_not_mem_preparations
  | refused => exact absurd member (by simpa using consume_not_mem_preparations)
  | sent provided composed => exact ⟨_, _, _, provided, composed⟩

/-- A session that ends with an error has sent nothing to an operator. -/
theorem Ends.consume_not_mem {cancelled : Bool} {log : List Deed} {error : Error}
    (ends : Ends orchestrator session origin cancelled log (.error error)) (address : String) :
    .call (.consume address) ∉ log := by
  cases ends with
  | missing => exact consume_not_mem_lookups
  | revokedBefore => exact consume_not_mem_lookups
  | nobody => simp
  | revokedMeanwhile => simpa using consume_not_mem_lookups
  | notReady => simpa using consume_not_mem_lookups
  | revokedAfter => exact consume_not_mem_preparations
  | notComposed => simpa using consume_not_mem_preparations

/-- A session that ends well has created one topic. -/
theorem Ends.countP_log {cancelled : Bool} {log : List Deed} {report : Report}
    (ends : Ends orchestrator session origin cancelled log (.ok report)) :
    log.countP Deed.isCreation = 1 := by
  cases ends
  exact Session.countP_plan

end Course

end Resharing
