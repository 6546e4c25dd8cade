import Mathlib.Data.List.Induction
import Mathlib.Logic.Function.Basic
import Resharing.Proofs.Mailbox.Coherence

/-!
# Clients at work at the same time

The tables are shared, and only a single look or a single change of one table happens at once.
A registration puts the node and then adds it to the topic; a publication looks for the topic
and puts the message later; a look for what has expired goes from name to name with the time it
began at. Between such steps any other client may take any of its own.

A topic that has been found is there when the message is put, because topics are not removed.
A topic may be created anew in between, and then its subscribers are those it is created with;
nothing else takes a subscriber away.

## Main definitions

* `Mailbox.Deed`, `Mailbox.perform`: a change of one table
* `Mailbox.Task`, `Mailbox.Begins`, `Mailbox.Does`: what a call has still to do, step by step
* `Mailbox.Office`, `Mailbox.Runs`: a mailbox and its clients, and all that can happen
* `Mailbox.Since`: what has been done since a topic was created

## Main results

* `Mailbox.alone_iff`, `Mailbox.after_of_refused`: a call that nothing interrupts is the operation
* `Mailbox.Runs.sound`: the tables fit together after every step
* `Mailbox.enrolled_performAll`: who subscribes to a topic, told from the changes
* `Mailbox.interleaving_loses_nothing`: what every run leaves in the tables
-/

namespace Resharing.Mailbox

/-! ### Changes of the tables -/

/-- A change of one table. -/
inductive Deed where
  | create (topic : Topic)
  | enter (node : Subscriber)
  | subscribe (name topic : String)
  | store (message : Message)
  | keep (result : Result)
  | sweep (now : Instant) (name : String)

/-- The mailbox after a change. -/
def perform (mailbox : Mailbox) : Deed → Mailbox
  | .create topic => mailbox.putTopic topic
  | .enter node => mailbox.putNode node
  | .subscribe name topic => mailbox.addSubscriber topic name
  | .store message => mailbox.putMessage message
  | .keep result => mailbox.keepResult result
  | .sweep now name => mailbox.sweep now name

/-- The mailbox after some changes. -/
def performAll (mailbox : Mailbox) (deeds : List Deed) : Mailbox := deeds.foldl perform mailbox

/-! ### Clients -/

/-- What a call has still to do. -/
inductive Task where
  | creating (topic : Topic)
  | registering (node : Subscriber) (topic : String)
  /-- The node is put. -/
  | subscribing (name topic : String)
  | publishing (now : Instant) (topic : String) (payload : Bytes)
  /-- The topic has been found. -/
  | storing (now : Instant) (topic : String) (payload : Bytes)
  | keeping (result : Result)
  | sweeping (now : Instant) (names : List String)

/-- What a call has to do that is not refused at once. Whoever looks for what has expired comes
to every message that lies there now, in some order, and perhaps to others. -/
inductive Begins (mailbox : Mailbox) : Action → Task → Prop
  | createTopic {topic : Topic} (named : topic.name ≠ "") (inhabited : topic.subscribers ≠ []) :
      Begins mailbox (.createTopic topic) (.creating topic)
  | registerNode {node : Subscriber} {topic : String} (named : node.name ≠ "")
      (reachable : node.address ≠ "") :
      Begins mailbox (.registerNode node topic) (.registering node topic)
  | publish {now : Instant} {topic : String} {payload : Bytes} :
      Begins mailbox (.publish now topic payload) (.publishing now topic payload)
  | putResult {kind request : String} {payload : Bytes} (named : request ≠ "") :
      Begins mailbox (.putResult kind request payload) (.keeping ⟨kind, request, payload⟩)
  | cleanUp {now : Instant} {names : List String}
      (covers : ∀ entry ∈ mailbox.messages.entries, entry.1 ∈ names) :
      Begins mailbox (.cleanUp now) (.sweeping now names)

/-- One step of a call: the change that it makes, if any, and what is then left to do. -/
inductive Does (digest : Bytes → Bytes) (mailbox : Mailbox) :
    Task → List Deed → Option Task → Prop
  | create {topic : Topic} : Does digest mailbox (.creating topic) [.create topic] none
  | enter {node : Subscriber} {topic : String} :
      Does digest mailbox (.registering node topic) [.enter node]
        (some (.subscribing node.name topic))
  | subscribe {name topic : String} :
      Does digest mailbox (.subscribing name topic) [.subscribe name topic] none
  | find {now : Instant} {topic : String} {payload : Bytes}
      (there : mailbox.topics.contains topic = true) :
      Does digest mailbox (.publishing now topic payload) [] (some (.storing now topic payload))
  | miss {now : Instant} {topic : String} {payload : Bytes}
      (missing : mailbox.topics.contains topic = false) :
      Does digest mailbox (.publishing now topic payload) [] none
  | store {now : Instant} {topic : String} {payload : Bytes} {message : Message}
      (made : makeMessage digest mailbox now topic payload = .ok message) :
      Does digest mailbox (.storing now topic payload) [.store message] none
  | crash {now : Instant} {topic : String} {payload : Bytes} {crash : Crash}
      (crashed : makeMessage digest mailbox now topic payload = .error crash) :
      Does digest mailbox (.storing now topic payload) [] none
  | keep {result : Result} : Does digest mailbox (.keeping result) [.keep result] none
  | sweep {now : Instant} {name : String} {names : List String} :
      Does digest mailbox (.sweeping now (name :: names)) [.sweep now name]
        (some (.sweeping now names))
  | rest {now : Instant} : Does digest mailbox (.sweeping now []) [] none

/-- A mailbox and what each client has still to do there. -/
structure Office where
  mailbox : Mailbox
  tasks : Nat → Option Task

/-- All that can happen from an empty mailbox on, with the changes in their order: at any time
a client that has nothing to do may begin a call, and one that has may take a step. -/
inductive Runs (digest : Bytes → Bytes) (lifetime : Int) : List Deed → Office → Prop
  | start : Runs digest lifetime [] ⟨start lifetime, fun _ => none⟩
  | call {deeds : List Deed} {office : Office} {client : Nat} {action : Action} {task : Task}
      (runs : Runs digest lifetime deeds office) (idle : office.tasks client = none)
      (begins : Begins office.mailbox action task) :
      Runs digest lifetime deeds
        ⟨office.mailbox, Function.update office.tasks client (some task)⟩
  | step {deeds done : List Deed} {office : Office} {client : Nat} {task : Task}
      {left : Option Task} (runs : Runs digest lifetime deeds office)
      (busy : office.tasks client = some task)
      (does : Does digest office.mailbox task done left) :
      Runs digest lifetime (deeds ++ done)
        ⟨office.mailbox.performAll done, Function.update office.tasks client left⟩

variable {digest : Bytes → Bytes} {lifetime : Int} {mailbox final : Mailbox} {office : Office}
  {action : Action} {task : Task} {left : Option Task} {deed : Deed} {deeds done later : List Deed}
  {name topic : String} {message : Message}

/-! ### A call alone -/

/-- The steps of a call with nothing in between. -/
inductive Alone (digest : Bytes → Bytes) : Mailbox → Task → Mailbox → Prop
  | last {mailbox : Mailbox} {task : Task} {done : List Deed}
      (does : Does digest mailbox task done none) :
      Alone digest mailbox task (mailbox.performAll done)
  | more {mailbox final : Mailbox} {task next : Task} {done : List Deed}
      (does : Does digest mailbox task done (some next))
      (alone : Alone digest (mailbox.performAll done) next final) :
      Alone digest mailbox task final

theorem alone_sweeping {now : Instant} {names : List String} :
    Alone digest mailbox (.sweeping now names) final ↔
      final = names.foldl (sweep · now) mailbox := by
  induction names generalizing mailbox with
  | nil =>
    constructor
    · rintro (⟨⟨⟩⟩ | ⟨⟨⟩, -⟩)
      rfl
    · rintro rfl
      exact .last .rest
  | cons name names ih =>
    constructor
    · rintro (⟨⟨⟩⟩ | ⟨⟨⟩, alone⟩)
      exact ih.mp alone
    · intro same
      exact .more .sweep (ih.mpr same)

/-- What is left of a publication when the topic has been found. -/
theorem alone_storing {now : Instant} {payload : Bytes} :
    Alone digest mailbox (.storing now topic payload) final ↔
      final = match makeMessage digest mailbox now topic payload with
        | .ok message => mailbox.putMessage message
        | .error _ => mailbox := by
  cases made : makeMessage digest mailbox now topic payload with
  | ok message =>
    constructor
    · intro alone
      cases alone with
      | last does =>
        cases does with
        | store same =>
          obtain rfl := Except.ok.inj (made.symm.trans same)
          rfl
        | crash crashed => exact nomatch made.symm.trans crashed
      | more does _ => cases does
    · rintro rfl
      exact .last (.store made)
  | error crash =>
    constructor
    · intro alone
      cases alone with
      | last does =>
        cases does with
        | store same => exact nomatch made.symm.trans same
        | crash _ => rfl
      | more does _ => cases does
    · rintro rfl
      exact .last (.crash made)

theorem after_publish_of_contains {now : Instant} {payload : Bytes}
    (there : mailbox.topics.contains topic = true) :
    mailbox.after digest (.publish now topic payload) =
      match makeMessage digest mailbox now topic payload with
      | .ok message => mailbox.putMessage message
      | .error _ => mailbox := by
  rw [after, publish, if_pos there]
  cases makeMessage digest mailbox now topic payload <;> rfl

/-- A call that nothing interrupts does what the operation does. -/
theorem alone_iff (begins : Begins mailbox action task) :
    Alone digest mailbox task final ↔ final = mailbox.after digest action := by
  cases begins with
  | createTopic named inhabited =>
    rw [after_createTopic, if_pos ⟨named, inhabited⟩]
    constructor
    · rintro (⟨⟨⟩⟩ | ⟨⟨⟩, -⟩)
      rfl
    · rintro rfl
      exact .last .create
  | registerNode named reachable =>
    rw [after_registerNode, if_pos ⟨named, reachable⟩]
    constructor
    · rintro (⟨⟨⟩⟩ | ⟨⟨⟩, ⟨⟨⟩⟩ | ⟨⟨⟩, -⟩⟩)
      rfl
    · rintro rfl
      exact .more .enter (.last .subscribe)
  | @publish now topic payload =>
    cases there : mailbox.topics.contains topic with
    | false =>
      simp only [after, publish_of_missing digest now payload there]
      constructor
      · intro alone
        cases alone with
        | last does => cases does; rfl
        | more does _ =>
          cases does with
          | find found => exact Bool.noConfusion (there.symm.trans found)
      · rintro rfl
        exact .last (.miss there)
    | true =>
      -- Nothing comes between the look for the topic and the message.
      rw [after_publish_of_contains there]
      constructor
      · intro alone
        cases alone with
        | last does =>
          cases does with
          | miss missing => exact Bool.noConfusion (there.symm.trans missing)
        | more does alone =>
          cases does
          exact alone_storing.mp alone
      · exact fun same => .more (.find there) (alone_storing.mpr same)
  | putResult named =>
    rw [after_putResult, if_pos named]
    constructor
    · rintro (⟨⟨⟩⟩ | ⟨⟨⟩, -⟩)
      rfl
    · rintro rfl
      exact .last .keep
  | cleanUp covers =>
    rw [alone_sweeping, ← cleanUp_eq_sweeps covers]
    rfl

/-- A call that is refused at once changes nothing. -/
theorem after_of_refused (refused : ∀ task, ¬ Begins mailbox action task) :
    mailbox.after digest action = mailbox := by
  cases action with
  | createTopic topic =>
    rw [after_createTopic, if_neg]
    exact fun ⟨named, inhabited⟩ => refused _ (.createTopic named inhabited)
  | registerNode node topic =>
    rw [after_registerNode, if_neg]
    exact fun ⟨named, reachable⟩ => refused _ (.registerNode named reachable)
  | publish now topic payload => exact absurd .publish (refused _)
  | putResult kind request payload =>
    rw [after_putResult, if_neg]
    exact fun named => refused _ (.putResult named)
  | cleanUp now =>
    exact absurd (.cleanUp fun entry => List.mem_map_of_mem) (refused _)

/-! ### What the tables hold -/

theorem performAll_append (mailbox : Mailbox) (deeds later : List Deed) :
    mailbox.performAll (deeds ++ later) = (mailbox.performAll deeds).performAll later :=
  List.foldl_append

theorem performAll_cons (mailbox : Mailbox) (deed : Deed) (later : List Deed) :
    mailbox.performAll (deed :: later) = (mailbox.perform deed).performAll later :=
  rfl

/-- The mailbox is what the changes have made of it. -/
theorem Runs.mailbox_eq (runs : Runs digest lifetime deeds office) :
    office.mailbox = (Mailbox.start lifetime).performAll deeds := by
  induction runs with
  | start => rfl
  | call _ _ _ ih => exact ih
  | step _ _ _ ih => rw [performAll_append, ← ih]

/-- No change removes a topic. -/
theorem contains_perform (there : mailbox.topics.contains topic = true) (deed : Deed) :
    (mailbox.perform deed).topics.contains topic = true := by
  cases deed with
  | create created =>
    change (mailbox.topics.insert _ _).contains topic = true
    rw [Table.contains_insert, there, Bool.or_true]
  | subscribe name other =>
    change (mailbox.topics.insert _ _).contains topic = true
    rw [Table.contains_insert, there, Bool.or_true]
  | enter | store | keep | sweep => exact there

/-- What a call relies on from its earlier steps: a topic that is to be created has subscribers,
and one that has been found is there. -/
def Task.Ready (mailbox : Mailbox) : Task → Prop
  | .creating topic => topic.subscribers ≠ []
  | .storing _ topic _ => mailbox.topics.contains topic = true
  | _ => True

/-- It cannot lose this to others. -/
theorem Task.Ready.performAll (ready : task.Ready mailbox) (done : List Deed) :
    task.Ready (mailbox.performAll done) := by
  induction done generalizing mailbox with
  | nil => exact ready
  | cons deed rest ih =>
    apply ih
    cases task with
    | creating topic => exact ready
    | storing now topic payload => exact contains_perform ready deed
    | _ => trivial

theorem Begins.ready (begins : Begins mailbox action task) : task.Ready mailbox := by
  cases begins with
  | createTopic _ inhabited => exact inhabited
  | _ => trivial

theorem Does.ready (does : Does digest mailbox task done left) {next : Task}
    (more : left = some next) : next.Ready (mailbox.performAll done) := by
  cases does with
  | find there =>
    cases more
    exact there
  | enter | sweep =>
    cases more
    trivial
  | _ => cases more

theorem Does.coherent (does : Does digest mailbox task done left) (ready : task.Ready mailbox)
    (coherent : Coherent digest mailbox) : Coherent digest (mailbox.performAll done) := by
  cases does with
  | create => exact coherent.putTopic ready
  | enter => exact coherent.putNode _
  | subscribe => exact coherent.addSubscriber _ _
  | store made => exact coherent.putMessage (messageFits_make ready made)
  | keep => exact coherent.keepResult _
  | sweep => exact coherent.filter _
  | find | miss | crash | rest => exact coherent

/-- The tables fit together, and every client has what its call relies on. -/
structure Office.Sound (digest : Bytes → Bytes) (office : Office) : Prop where
  coherent : Coherent digest office.mailbox
  ready : ∀ client task, office.tasks client = some task → task.Ready office.mailbox

theorem Runs.sound (runs : Runs digest lifetime deeds office) : office.Sound digest := by
  induction runs with
  | start => exact ⟨coherent_start digest lifetime, fun _ _ none => nomatch none⟩
  | @call _ _ client _ _ _ _ begins sound =>
    refine ⟨sound.coherent, fun other task has => ?_⟩
    dsimp only at has
    by_cases same : other = client
    · rw [same, Function.update_self] at has
      obtain rfl := Option.some.inj has
      exact begins.ready
    · rw [Function.update_of_ne same] at has
      exact sound.ready other task has
  | @step _ done _ client _ _ _ busy does sound =>
    -- The others keep what they rely on, whatever this client does.
    refine ⟨does.coherent (sound.ready client _ busy) sound.coherent, fun other task has => ?_⟩
    dsimp only at has
    by_cases same : other = client
    · rw [same, Function.update_self] at has
      exact does.ready has
    · rw [Function.update_of_ne same] at has
      exact (sound.ready other task has).performAll done

/-! ### Subscribers -/

/-- The subscribers of a topic, none if there is no such topic. -/
def subscribersOf (mailbox : Mailbox) (topic : String) : List String :=
  ((mailbox.topics.find? topic).map (·.subscribers)).getD []

/-- None of the changes creates the topic. -/
def Spared (topic : String) (deeds : List Deed) : Prop :=
  ∀ created, .create created ∈ deeds → created.name ≠ topic

theorem subscribersOf_create (mailbox : Mailbox) (created : Topic) (topic : String) :
    (mailbox.putTopic created).subscribersOf topic =
      if created.name = topic then created.subscribers else mailbox.subscribersOf topic := by
  simp only [subscribersOf, putTopic, Table.find?_insert, beq_iff_eq, eq_comm (a := topic)]
  split_ifs <;> rfl

theorem subscribersOf_subscribe (mailbox : Mailbox) (other name topic : String) :
    (mailbox.addSubscriber other name).subscribersOf topic =
      if other = topic then (subscribe ⟨topic, mailbox.subscribersOf topic⟩ name).subscribers
      else mailbox.subscribersOf topic := by
  simp only [subscribersOf, addSubscriber, Table.find?_insert, beq_iff_eq, eq_comm (a := topic)]
  split_ifs with same
  · subst same
    cases mailbox.topics.find? other with
    | none => rfl
    | some known =>
      simp only [subscribe, Option.map_some, Option.getD_some]
      split_ifs <;> rfl
  · rfl

theorem mem_subscribersOf_perform {deed : Deed} (there : name ∈ mailbox.subscribersOf topic)
    (spared : ∀ created, deed = .create created → created.name ≠ topic) :
    name ∈ (mailbox.perform deed).subscribersOf topic := by
  cases deed with
  | create created =>
    rw [perform, subscribersOf_create, if_neg (spared created rfl)]
    exact there
  | subscribe other name =>
    rw [perform, subscribersOf_subscribe]
    split_ifs
    · exact mem_subscribe.mpr (.inl there)
    · exact there
  | enter | store | keep | sweep => exact there

theorem mem_subscribersOf_performAll (there : name ∈ mailbox.subscribersOf topic)
    (spared : Spared topic later) : name ∈ (mailbox.performAll later).subscribersOf topic := by
  induction later generalizing mailbox with
  | nil => exact there
  | cons deed rest ih =>
    refine ih (mem_subscribersOf_perform there ?_) ?_
    · rintro created rfl
      exact spared created List.mem_cons_self
    · exact fun created member => spared created (List.mem_cons_of_mem _ member)

/-- With which subscribers a topic was last created, none if it never was, and what has been
done since. -/
inductive Since (topic : String) : List Deed → List String → List Deed → Prop
  | never {deeds : List Deed} (spared : Spared topic deeds) : Since topic deeds [] deeds
  | created {before later : List Deed} {created : Topic} (own : created.name = topic)
      (spared : Spared topic later) :
      Since topic (before ++ .create created :: later) created.subscribers later

/-- The subscribers are those whom the topic was last created with, and behind them, each once,
the others who have subscribed since. -/
def Enrolled (topic : String) (deeds : List Deed) (subscribers : List String) : Prop :=
  ∃ given later added, Since topic deeds given later ∧ subscribers = given ++ added ∧
    added.Nodup ∧ ∀ name, name ∈ added ↔ name ∉ given ∧ .subscribe name topic ∈ later

theorem Spared.concat (spared : Spared topic deeds)
    (other : ∀ created, deed = .create created → created.name ≠ topic) :
    Spared topic (deeds ++ [deed]) := by
  intro created member
  rcases List.mem_append.mp member with old | new
  · exact spared created old
  · exact other created (List.mem_singleton.mp new).symm

theorem Since.concat {given : List String} (since : Since topic deeds given later)
    (other : ∀ created, deed = .create created → created.name ≠ topic) :
    Since topic (deeds ++ [deed]) given (later ++ [deed]) := by
  cases since with
  | never spared => exact .never (spared.concat other)
  | created own spared =>
    rw [List.append_assoc, List.cons_append]
    exact .created own (spared.concat other)

/-- A change that neither creates the topic nor adds to it. -/
theorem Enrolled.unconcerned {subscribers : List String}
    (enrolled : Enrolled topic deeds subscribers)
    (uncreated : ∀ created, deed = .create created → created.name ≠ topic)
    (unadded : ∀ name, deed ≠ .subscribe name topic) :
    Enrolled topic (deeds ++ [deed]) subscribers := by
  obtain ⟨given, later, added, since, rfl, nodup, exact⟩ := enrolled
  refine ⟨given, _, added, since.concat uncreated, rfl, nodup, fun name => ?_⟩
  simp [exact, (unadded name).symm]

theorem Enrolled.create (created : Topic) (deeds : List Deed) :
    Enrolled created.name (deeds ++ [.create created]) created.subscribers :=
  ⟨_, _, [], .created rfl fun _ member => absurd member List.not_mem_nil, by simp, by simp,
    by simp⟩

theorem Enrolled.subscribe {subscribers : List String}
    (enrolled : Enrolled topic deeds subscribers) (name : String) :
    Enrolled topic (deeds ++ [.subscribe name topic])
      (Mailbox.subscribe ⟨topic, subscribers⟩ name).subscribers := by
  obtain ⟨given, later, added, since, rfl, nodup, iff⟩ := enrolled
  have next : Since topic (deeds ++ [.subscribe name topic]) given _ :=
    since.concat fun _ same => nomatch same
  have entered : ∀ other, .subscribe other topic ∈ later ++ [.subscribe name topic] ↔
      .subscribe other topic ∈ later ∨ other = name := by
    simp
  unfold Mailbox.subscribe
  split_ifs with there
  · dsimp only at there
    refine ⟨given, _, added, next, rfl, nodup, fun other => ?_⟩
    rw [iff, entered, and_congr_right_iff]
    refine fun new => ⟨.inl, fun either => either.elim id ?_⟩
    rintro rfl
    exact ((iff other).mp ((List.mem_append.mp there).resolve_left new)).2
  · rw [List.append_assoc]
    rw [List.mem_append, not_or] at there
    refine ⟨given, _, added ++ [name], next, rfl, ?_, fun other => ?_⟩
    · exact List.nodup_append.mpr ⟨nodup, List.nodup_singleton name, by grind⟩
    · rw [List.mem_append, iff, List.mem_singleton, entered]
      constructor
      · rintro (⟨new, old⟩ | rfl)
        · exact ⟨new, .inl old⟩
        · exact ⟨there.1, .inr rfl⟩
      · rintro ⟨new, old | rfl⟩
        · exact .inl ⟨new, old⟩
        · exact .inr rfl

/-- The changes tell the subscribers of every topic. -/
theorem enrolled_performAll (lifetime : Int) (deeds : List Deed) (topic : String) :
    Enrolled topic deeds (((start lifetime).performAll deeds).subscribersOf topic) := by
  -- From the last change back, as that is the one which may create the topic anew.
  induction deeds using List.reverseRecOn with
  | nil =>
    exact ⟨[], [], [], .never fun _ member => absurd member List.not_mem_nil, rfl, .nil, by simp⟩
  | append_singleton deeds deed ih =>
    rw [performAll_append]
    cases deed with
    | create created =>
      change Enrolled topic _ ((putTopic _ created).subscribersOf topic)
      rw [subscribersOf_create]
      split_ifs with own
      · exact own ▸ .create created deeds
      · refine ih.unconcerned ?_ fun _ same => nomatch same
        rintro _ ⟨⟩
        exact own
    | subscribe name other =>
      change Enrolled topic _ ((addSubscriber _ other name).subscribersOf topic)
      rw [subscribersOf_subscribe]
      split_ifs with own
      · exact own ▸ ih.subscribe name
      · refine ih.unconcerned (fun _ same => nomatch same) ?_
        rintro _ ⟨⟩
        exact own rfl
    | enter | store | keep | sweep =>
      exact ih.unconcerned (fun _ same => nomatch same) fun _ same => nomatch same

/-! ### Messages -/

theorem distinct_perform (distinct : mailbox.messages.Distinct) (deed : Deed) :
    (mailbox.perform deed).messages.Distinct := by
  cases deed with
  | store message => exact distinct.insert
  | sweep now name => exact distinct.filter _
  | create | enter | subscribe | keep => exact distinct

/-- A message stays unless one of its name is put or it has expired for someone who looks. -/
theorem mem_messages_performAll (distinct : mailbox.messages.Distinct)
    (there : (message.hash, message) ∈ mailbox.messages.entries)
    (kept : ∀ other, .store other ∈ later → other.hash ≠ message.hash)
    (fresh : ∀ now, .sweep now message.hash ∈ later → now < message.expiresAt) :
    (message.hash, message) ∈ (mailbox.performAll later).messages.entries := by
  induction later generalizing mailbox with
  | nil => exact there
  | cons deed rest ih =>
    refine ih (distinct_perform distinct deed) ?_
      (fun other member => kept other (List.mem_cons_of_mem _ member))
      (fun now member => fresh now (List.mem_cons_of_mem _ member))
    cases deed with
    | store other =>
      exact (Table.mem_insert distinct).mpr
        (.inr ⟨there, (kept other List.mem_cons_self).symm⟩)
    | sweep now name =>
      refine mem_sweep.mpr ⟨there, ?_⟩
      rintro rfl
      exact fresh now List.mem_cons_self
    | create | enter | subscribe | keep => exact there

theorem distinct_performAll (distinct : mailbox.messages.Distinct) (deeds : List Deed) :
    (mailbox.performAll deeds).messages.Distinct := by
  induction deeds generalizing mailbox with
  | nil => exact distinct
  | cons deed rest ih => exact ih (distinct_perform distinct deed)

/-! ### Every run -/

/-- Whatever clients do at the same time, nothing gets lost. Who has subscribed to a topic is
among its subscribers unless the topic is created afterwards; the subscribers are those of the
last creation and, each once, the others who have subscribed since. The tables fit together. A
message that has been put stays until one of its name is put or someone comes to it who began
to look when it had expired; no look removes a message that expires later. -/
theorem interleaving_loses_nothing (runs : Runs digest lifetime deeds office) :
    (∀ before name topic later, deeds = before ++ .subscribe name topic :: later →
      Spared topic later → name ∈ office.mailbox.subscribersOf topic) ∧
    (∀ topic, Enrolled topic deeds (office.mailbox.subscribersOf topic)) ∧
    Coherent digest office.mailbox ∧
    (∀ before message later, deeds = before ++ .store message :: later →
      (∀ other, .store other ∈ later → other.hash ≠ message.hash) →
      (∀ now, .sweep now message.hash ∈ later → now < message.expiresAt) →
        (message.hash, message) ∈ office.mailbox.messages.entries) ∧
    ∀ before now name later, deeds = before ++ .sweep now name :: later →
      ∀ entry ∈ ((start lifetime).performAll before).messages.entries, now < entry.2.expiresAt →
        entry ∈ ((start lifetime).performAll (before ++ [.sweep now name])).messages.entries := by
  refine ⟨?_, ?_, runs.sound.coherent, ?_, ?_⟩
  · rintro before name topic later rfl spared
    rw [runs.mailbox_eq, performAll_append, performAll_cons]
    refine mem_subscribersOf_performAll ?_ spared
    rw [perform, subscribersOf_subscribe, if_pos rfl]
    exact mem_subscribe.mpr (.inr rfl)
  · intro topic
    rw [runs.mailbox_eq]
    exact enrolled_performAll lifetime deeds topic
  · rintro before message later rfl kept fresh
    have distinct : ((start lifetime).performAll before).messages.Distinct :=
      distinct_performAll Table.distinct_empty before
    rw [runs.mailbox_eq, performAll_append, performAll_cons]
    refine mem_messages_performAll (distinct_perform distinct _) ?_ kept fresh
    exact (Table.mem_insert distinct).mpr (.inl rfl)
  · intro before now name later _ entry there fresh
    rw [performAll_append]
    exact mem_sweep.mpr ⟨there, fun _ => fresh⟩

/-- Two clients register one node in turns. Then one of them puts a message on the topic while
the other looks for what has expired. -/
theorem interleaving_loses_nothing_race : ∃ message office,
    Runs Blake3.digest standardLifetime
      [.enter ⟨"1", "a"⟩, .enter ⟨"1", "a"⟩, .subscribe "1" "t", .subscribe "1" "t",
        .store message, .sweep 5 message.hash] office ∧
    "1" ∈ office.mailbox.subscribersOf "t" ∧
    (message.hash, message) ∈ office.mailbox.messages.entries := by
  let node : Subscriber := ⟨"1", "a"⟩
  let message : Message := ⟨nameWith Blake3.digest "t" [], "t", [], 0, 3600000000000⟩
  have registers (mailbox : Mailbox) :
      Begins mailbox (.registerNode node "t") (.registering node "t") :=
    .registerNode (by decide) (by decide)
  have both := @Runs.call _ _ _ _ 1 _ _ (@Runs.call Blake3.digest standardLifetime _ _ 0 _ _
    .start rfl (registers _)) rfl (registers _)
  have entered := @Runs.step _ _ _ _ _ 1 _ _ (@Runs.step _ _ _ _ _ 0 _ _ both rfl .enter)
    rfl .enter
  have subscribed := @Runs.step _ _ _ _ _ 1 _ _
    (@Runs.step _ _ _ _ _ 0 _ _ entered rfl .subscribe) rfl .subscribe
  have publishes (mailbox : Mailbox) :
      Begins mailbox (.publish 0 "t" []) (.publishing 0 "t" []) := .publish
  have at_work := @Runs.call _ _ _ _ 1 (.cleanUp 5) (.sweeping 5 [message.hash])
    (@Runs.call _ _ _ _ 0 _ _ subscribed rfl (publishes _)) rfl
    (.cleanUp (by intro entry member; cases member))
  have stored := @Runs.step _ _ _ _ _ 0 _ _ (@Runs.step _ _ _ _ _ 0 _ _ at_work rfl (.find rfl))
    rfl (@Does.store _ _ _ _ _ message rfl)
  have swept := @Runs.step _ _ _ _ _ 1 _ _ stored rfl .sweep
  refine ⟨message, _, swept, ?_, ?_⟩
  · exact (interleaving_loses_nothing swept).1 [.enter node, .enter node] "1" "t" _ rfl
      (by simp [Spared])
  · refine (interleaving_loses_nothing swept).2.2.2.1 [.enter node, .enter node,
      .subscribe "1" "t", .subscribe "1" "t"] message [.sweep 5 message.hash] rfl (by simp) ?_
    intro now member
    obtain ⟨rfl, -⟩ := Deed.sweep.inj (List.mem_singleton.mp member)
    decide

end Resharing.Mailbox
