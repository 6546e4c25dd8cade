import Resharing.Mailbox.Basic
import Resharing.Proofs.Mailbox.Names
import Resharing.Proofs.Table.Entries

/-!
# Messages of one topic and publications on another

All messages lie in one table under their names. A publication therefore puts away the message
that bears the same name, on whatever topic that was published. With a digest that tells its
inputs apart this happens to a message on another topic exactly if the two preimages agree,
which takes a topic that goes on behind the other and a colon: `c` on `a:b` puts away `b:c`
on `a`. Topics that are apart, such as those of sessions, never disturb each other.

A state is taken as reached by any actions in any order at any times; a crash of a publication
leaves the mailbox as it was.

## Main definitions

* `Mailbox.Action`, `Mailbox.after`, `Mailbox.run`: what is done to a mailbox
* `Mailbox.Reachable`: a mailbox that can come about
* `Mailbox.Filed`: every message lies under its own name, and lasts as long as messages last
* `Mailbox.Spares`: an action that leaves a message readable

## Main results

* `Mailbox.run_congr`: digests that agree on what is published lead to one mailbox
* `Mailbox.Filed.after`, `Mailbox.Reachable.filed`: messages stay filed
* `Mailbox.Filed.messagesOf_publish`: what a publication leaves on another topic
* `Mailbox.topics_isolated`: when topics do not disturb each other, after one publication and
  along every sequence of actions
* `Mailbox.messagesOf_session`: sessions never do
* `Mailbox.colon_takes_message`: two topics that do
-/

namespace Resharing.Mailbox

/-- What is done to a mailbox. Reading is not listed: it changes nothing. -/
inductive Action where
  | createTopic (topic : Topic)
  | registerNode (node : Subscriber) (topic : String)
  | publish (now : Instant) (topic : String) (payload : Bytes)
  | putResult (kind request : String) (payload : Bytes)
  | cleanUp (now : Instant)

variable (digest : Bytes → Bytes)

/-- The mailbox after an action. What is refused or crashes changes nothing. -/
def after (mailbox : Mailbox) : Action → Mailbox
  | .createTopic topic => ((mailbox.createTopic topic).toOption).getD mailbox
  | .registerNode node topic => ((mailbox.registerNode node topic).toOption).getD mailbox
  | .publish now topic payload =>
    match mailbox.publish digest now topic payload with
    | .ok (.ok (_, next)) => next
    | _ => mailbox
  | .putResult kind request payload =>
    ((mailbox.putResult kind request payload).toOption).getD mailbox
  | .cleanUp now => mailbox.cleanUp now

/-- The mailbox after some actions. -/
def run (mailbox : Mailbox) (actions : List Action) : Mailbox :=
  actions.foldl (after digest) mailbox

/-- A mailbox that can come about with a lifetime of messages. -/
def Reachable (lifetime : Int) (mailbox : Mailbox) : Prop :=
  ∃ actions, run digest (start lifetime) actions = mailbox

variable {digest} {mailbox next : Mailbox} {now expiresAt : Instant} {topic other : String}
  {payload content : Bytes} {name : String} {message : Message} {action : Action}
  {lifetime : Int}

/-! ### What the digest is asked for -/

/-- What an action has the digest taken of. -/
def Action.preimage? : Action → Option Bytes
  | .publish _ topic payload => some (preimage topic payload)
  | _ => none

theorem after_congr {one : Bytes → Bytes}
    (agree : ∀ input ∈ action.preimage?, one input = digest input) :
    mailbox.after one action = mailbox.after digest action := by
  cases action with
  | publish now topic payload =>
    simp only [after, publish, makeMessage, nameWith, agree (preimage topic payload) rfl]
  | _ => rfl

/-- Digests that agree on what is published lead to one mailbox. -/
theorem run_congr {one : Bytes → Bytes} {actions : List Action}
    (agree : ∀ action ∈ actions, ∀ input ∈ action.preimage?, one input = digest input) :
    mailbox.run one actions = mailbox.run digest actions := by
  induction actions generalizing mailbox with
  | nil => rfl
  | cons action rest ih =>
    have first : mailbox.after one action = mailbox.after digest action :=
      after_congr (agree action List.mem_cons_self)
    calc mailbox.run one (action :: rest)
        = (mailbox.after digest action).run one rest := congrArg (run one · rest) first
      _ = mailbox.run digest (action :: rest) :=
          ih fun action inside => agree action (List.mem_cons_of_mem _ inside)

/-- What is published leads to one mailbox whatever the digest does with anything else. -/
theorem run_digestOn {inputs : List Bytes} {actions : List Action}
    (asked : ∀ action ∈ actions, ∀ input ∈ action.preimage?, input ∈ inputs) :
    mailbox.run (digestOn inputs) actions = mailbox.run Blake3.digest actions :=
  run_congr fun action member input published =>
    digestOn_of_mem (asked action member input published)

/-! ### What an action is to the messages -/

theorem publish_eq_ok
    (published : mailbox.publish digest now topic payload = .ok (.ok (name, next))) :
    ∃ expiresAt, now.addSeconds mailbox.lifetime = .ok expiresAt ∧
      name = nameWith digest topic payload ∧
      next = mailbox.putMessage ⟨name, topic, payload, now, expiresAt⟩ := by
  unfold publish at published
  split at published
  · unfold makeMessage at published
    cases later : now.addSeconds mailbox.lifetime with
    | error crash => simp [later, bind, Except.bind] at published
    | ok expiresAt =>
      simp only [later, bind, Except.bind, pure, Except.pure, Except.ok.injEq,
        Prod.mk.injEq] at published
      obtain ⟨rfl, rfl⟩ := published
      exact ⟨expiresAt, rfl, rfl, rfl⟩
  · simp at published

theorem after_publish
    (published : mailbox.publish digest now topic payload = .ok (.ok (name, next))) :
    mailbox.after digest (.publish now topic payload) = next := by
  simp only [after, published]

/-- What an action can be to the messages: nothing, a new message, or a look for what has
expired. -/
inductive Change (digest : Bytes → Bytes) (mailbox : Mailbox) : Action → Mailbox → Prop
  | unseen (action : Action) (next : Mailbox) (messages : next.messages = mailbox.messages)
      (lifetime : next.lifetime = mailbox.lifetime) : Change digest mailbox action next
  | written (now : Instant) (topic : String) (payload : Bytes) (expiresAt : Instant)
      (later : now.addSeconds mailbox.lifetime = .ok expiresAt) :
      Change digest mailbox (.publish now topic payload)
        (mailbox.putMessage ⟨nameWith digest topic payload, topic, payload, now, expiresAt⟩)
  | cleaned (now : Instant) : Change digest mailbox (.cleanUp now) (mailbox.cleanUp now)

private theorem change_getD {result : Except MailboxError Mailbox}
    (kept : ∀ next, result = .ok next →
      next.messages = mailbox.messages ∧ next.lifetime = mailbox.lifetime) :
    Change digest mailbox action (result.toOption.getD mailbox) := by
  cases result with
  | error error => exact .unseen action mailbox rfl rfl
  | ok next =>
    obtain ⟨messages, lifetime⟩ := kept next rfl
    exact .unseen action next messages lifetime

theorem change_after (digest : Bytes → Bytes) (mailbox : Mailbox) (action : Action) :
    Change digest mailbox action (mailbox.after digest action) := by
  cases action with
  | createTopic topic =>
    apply change_getD
    intro next created
    unfold createTopic at created
    split_ifs at created
    cases created
    exact ⟨rfl, rfl⟩
  | registerNode node topic =>
    apply change_getD
    intro next registered
    unfold registerNode at registered
    split_ifs at registered
    cases registered
    exact ⟨rfl, rfl⟩
  | publish now topic payload =>
    cases published : mailbox.publish digest now topic payload with
    | error crash =>
      simp only [after, published]
      exact .unseen _ mailbox rfl rfl
    | ok result =>
      cases result with
      | error error =>
        simp only [after, published]
        exact .unseen _ mailbox rfl rfl
      | ok result =>
        obtain ⟨name, next⟩ := result
        rw [after_publish published]
        obtain ⟨expiresAt, later, rfl, rfl⟩ := publish_eq_ok published
        exact .written now topic payload expiresAt later
  | putResult kind request payload =>
    apply change_getD
    intro next put
    unfold putResult at put
    split_ifs at put
    cases put
    exact ⟨rfl, rfl⟩
  | cleanUp now => exact .cleaned now

theorem lifetime_after (digest : Bytes → Bytes) (mailbox : Mailbox) (action : Action) :
    (mailbox.after digest action).lifetime = mailbox.lifetime := by
  have change := change_after digest mailbox action
  generalize mailbox.after digest action = next at change
  cases change with
  | unseen _ _ _ lifetime => exact lifetime
  | written => rfl
  | cleaned => rfl

/-! ### Messages lie under their names -/

/-- Every message lies under its own name, no name comes twice, and a message lasts as long as
messages last. -/
structure Filed (digest : Bytes → Bytes) (mailbox : Mailbox) : Prop where
  distinct : mailbox.messages.Distinct
  named : ∀ entry ∈ mailbox.messages.entries,
    entry.1 = nameWith digest entry.2.topic entry.2.payload
  lasting : ∀ entry ∈ mailbox.messages.entries,
    entry.2.expiresAt = entry.2.createdAt + mailbox.lifetime * nanosPerSecond

theorem filed_start (digest : Bytes → Bytes) (lifetime : Int) : Filed digest (start lifetime) :=
  ⟨Table.distinct_empty, by simp [start, Table.empty], by simp [start, Table.empty]⟩

theorem addSeconds_eq_ok {seconds : Int} (later : now.addSeconds seconds = .ok expiresAt) :
    expiresAt = now + seconds * nanosPerSecond := by
  simp only [Instant.addSeconds] at later
  split_ifs at later
  exact (Except.ok.inj later).symm

theorem Filed.after (filed : Filed digest mailbox) (action : Action) :
    Filed digest (mailbox.after digest action) := by
  obtain ⟨distinct, named, lasting⟩ := filed
  have change := change_after digest mailbox action
  generalize mailbox.after digest action = next at change
  cases change with
  | unseen action next messages lifetime =>
    constructor
    · rw [messages]; exact distinct
    · rw [messages]; exact named
    · rw [messages, lifetime]; exact lasting
  | written now topic payload expiresAt later =>
    constructor
    · exact distinct.insert
    · intro entry member
      rcases (Table.mem_insert distinct).mp member with rfl | ⟨old, -⟩
      · rfl
      · exact named entry old
    · intro entry member
      rcases (Table.mem_insert distinct).mp member with rfl | ⟨old, -⟩
      · exact addSeconds_eq_ok later
      · exact lasting entry old
  | cleaned now =>
    constructor
    · exact distinct.filter _
    · intro entry member
      exact named entry (List.mem_filter.mp member).1
    · intro entry member
      exact lasting entry (List.mem_filter.mp member).1

theorem Filed.run (filed : Filed digest mailbox) (actions : List Action) :
    Filed digest (mailbox.run digest actions) := by
  induction actions generalizing mailbox with
  | nil => exact filed
  | cons action rest ih => exact ih (filed.after action)

theorem Reachable.filed (reachable : Reachable digest lifetime mailbox) :
    Filed digest mailbox := by
  obtain ⟨actions, rfl⟩ := reachable
  exact (filed_start digest lifetime).run actions

theorem mem_messagesOf :
    message ∈ mailbox.messagesOf topic ↔
      message.topic = topic ∧ ∃ name, (name, message) ∈ mailbox.messages.entries := by
  simp [messagesOf, and_comm]

/-! ### One publication, seen from another topic -/

/-- The messages on a topic as they lie. -/
def lyingOn (mailbox : Mailbox) (topic : String) : List Message :=
  (mailbox.messages.entries.filter fun entry => decide (entry.2.topic = topic)).map (·.2)

/-- Reading puts the messages of a topic in order. -/
theorem messagesOf_eq (mailbox : Mailbox) (topic : String) :
    mailbox.messagesOf topic = (mailbox.lyingOn topic).mergeSort
      fun left right => decide (left.createdAt ≤ right.createdAt) := by
  rw [messagesOf, List.filter_map]
  rfl

theorem messagesOf_perm (mailbox : Mailbox) (topic : String) :
    (mailbox.messagesOf topic).Perm (mailbox.lyingOn topic) := by
  rw [messagesOf_eq]
  exact List.mergeSort_perm _ _

/-- A new message takes from another topic what has its preimage. -/
theorem Filed.lyingOn_putMessage (filed : Filed digest mailbox)
    (injective : Function.Injective digest) (distinct : topic ≠ other) :
    (mailbox.putMessage
        ⟨nameWith digest other content, other, content, now, expiresAt⟩).lyingOn topic =
      (mailbox.lyingOn topic).filter fun message =>
        decide (preimage topic message.payload ≠ preimage other content) := by
  unfold lyingOn putMessage
  rw [Table.filter_insert filed.distinct (by simp [Ne.symm distinct]), List.filter_map]
  congr 1
  -- An entry of the topic is under the new name exactly if its preimage is the new one.
  refine List.filter_congr fun entry member => ?_
  obtain ⟨stored, here⟩ := List.mem_filter.mp member
  rw [filed.named entry stored, of_decide_eq_true here]
  simp [nameWith_eq_iff injective, beq_eq_decide]

/-- A publication takes from another topic the messages whose preimage is that of the new
message, and nothing else. If there are none the topic reads as before. -/
theorem Filed.messagesOf_publish (filed : Filed digest mailbox)
    (injective : Function.Injective digest) (distinct : topic ≠ other)
    (published : mailbox.publish digest now other content = .ok (.ok (name, next))) :
    (next.messagesOf topic).Perm ((mailbox.messagesOf topic).filter fun message =>
        decide (preimage topic message.payload ≠ preimage other content)) ∧
      (next.messagesOf topic = mailbox.messagesOf topic ↔
        ∀ message ∈ mailbox.messagesOf topic,
          preimage topic message.payload ≠ preimage other content) := by
  obtain ⟨expiresAt, -, rfl, rfl⟩ := publish_eq_ok published
  have left : (mailbox.putMessage
      ⟨nameWith digest other content, other, content, now, expiresAt⟩).lyingOn topic = _ :=
    filed.lyingOn_putMessage injective distinct
  have permuted := (messagesOf_perm _ topic).trans
    (left ▸ ((messagesOf_perm mailbox topic).filter _).symm)
  refine ⟨permuted, fun same => ?_, fun all => ?_⟩
  · -- As many messages as before: none was filtered out.
    have count := permuted.length_eq
    rw [same, eq_comm, List.length_filter_eq_length_iff] at count
    exact fun message member => of_decide_eq_true (count message member)
  · rw [messagesOf_eq, messagesOf_eq, left, List.filter_eq_self.mpr]
    intro message member
    exact decide_eq_true (all message ((messagesOf_perm mailbox topic).mem_iff.mpr member))

/-! ### Messages along a sequence of actions -/

/-- An action leaves a message readable. A publication must not bear its name on another topic
or at an earlier time, and a look for what has expired must come before the message has. -/
def Spares (message : Message) : Action → Prop
  | .publish now topic payload =>
    preimage topic payload = preimage message.topic message.payload →
      topic = message.topic ∧ message.createdAt ≤ now
  | .cleanUp now => now < message.expiresAt
  | _ => True

/-- A message lies in the mailbox, if need be published again at a later time. -/
def Kept (mailbox : Mailbox) (message : Message) : Prop :=
  ∃ kept ∈ mailbox.messagesOf message.topic,
    kept.payload = message.payload ∧ message.createdAt ≤ kept.createdAt

theorem Filed.kept_after (filed : Filed digest mailbox) (injective : Function.Injective digest)
    (lasting : message.expiresAt = message.createdAt + mailbox.lifetime * nanosPerSecond)
    (kept : Kept mailbox message) (spares : Spares message action) :
    Kept (mailbox.after digest action) message := by
  obtain ⟨copy, member, payload, later⟩ := kept
  obtain ⟨topic, name, stored⟩ := mem_messagesOf.mp member
  have change := change_after digest mailbox action
  generalize mailbox.after digest action = next at change
  cases change with
  | unseen action next messages lifetime =>
    exact ⟨copy, mem_messagesOf.mpr ⟨topic, name, messages ▸ stored⟩, payload, later⟩
  | written now other content expiresAt fits =>
    by_cases same : preimage other content = preimage message.topic message.payload
    · obtain ⟨rfl, again⟩ := spares same
      let fresh : Message :=
        ⟨nameWith digest message.topic content, message.topic, content, now, expiresAt⟩
      have there : fresh ∈ Mailbox.messagesOf (mailbox.putMessage fresh) message.topic :=
        mem_messagesOf.mpr ⟨rfl, _, (Table.mem_insert filed.distinct).mpr (.inl rfl)⟩
      exact ⟨fresh, there, preimage_inj.mp same, again⟩
    · refine ⟨copy, mem_messagesOf.mpr ⟨topic, name, ?_⟩, payload, later⟩
      refine (Table.mem_insert filed.distinct).mpr (.inr ⟨stored, fun equal => same ?_⟩)
      have named := filed.named (name, copy) stored
      rw [equal] at named
      rw [(nameWith_eq_iff injective).mp named, topic, payload]
  | cleaned now =>
    have lasts : message.expiresAt ≤ copy.expiresAt := by
      rw [lasting, filed.lasting (name, copy) stored]
      exact Int.add_le_add_right later _
    have fresh : now < copy.expiresAt := Int.lt_of_lt_of_le spares lasts
    have stays : (name, copy) ∈ (mailbox.cleanUp now).messages.entries :=
      List.mem_filter.mpr ⟨stored, decide_eq_true fresh⟩
    exact ⟨copy, mem_messagesOf.mpr ⟨topic, name, stays⟩, payload, later⟩

/-- A message that nothing along the way bears on stays on its topic. -/
theorem Filed.kept_run (filed : Filed digest mailbox) (injective : Function.Injective digest)
    (member : message ∈ mailbox.messagesOf topic) {actions : List Action}
    (spares : ∀ action ∈ actions, Spares message action) :
    Kept (mailbox.run digest actions) message := by
  obtain ⟨rfl, name, stored⟩ := mem_messagesOf.mp member
  have lasting := filed.lasting (name, message) stored
  have kept : Kept mailbox message := ⟨message, member, rfl, Int.le_refl _⟩
  clear member stored
  induction actions generalizing mailbox with
  | nil => exact kept
  | cons action rest ih =>
    have next := filed.kept_after injective lasting kept (spares action List.mem_cons_self)
    have later : ∀ action ∈ rest, Spares message action :=
      fun action inside => spares action (List.mem_cons_of_mem _ inside)
    exact ih (filed.after action) later (lifetime_after digest mailbox action ▸ lasting) next

/-! ### Isolation of topics -/

/-- Topics do not disturb each other but where a colon can be taken for the one behind the
topic. A publication takes from another topic exactly the messages whose preimage is that of
the new message, so that the topic reads as before if there are none; there never are any where
the topics are apart. A message stays on its topic along all actions that spare it. -/
theorem topics_isolated (injective : Function.Injective digest)
    (reachable : Reachable digest lifetime mailbox) :
    (∀ topic other now content name next, topic ≠ other →
      mailbox.publish digest now other content = .ok (.ok (name, next)) →
        (next.messagesOf topic).Perm ((mailbox.messagesOf topic).filter fun message =>
          decide (preimage topic message.payload ≠ preimage other content)) ∧
        (next.messagesOf topic = mailbox.messagesOf topic ↔
          ∀ message ∈ mailbox.messagesOf topic,
            preimage topic message.payload ≠ preimage other content) ∧
        (Apart topic other → next.messagesOf topic = mailbox.messagesOf topic)) ∧
    ∀ topic, ∀ message ∈ mailbox.messagesOf topic, ∀ actions,
      (∀ action ∈ actions, Spares message action) →
        Kept (mailbox.run digest actions) message := by
  have filed := reachable.filed
  constructor
  · intro topic other now content name next distinct published
    obtain ⟨left, unchanged⟩ := filed.messagesOf_publish injective distinct published
    refine ⟨left, unchanged, fun apart => unchanged.mpr fun message _ => ?_⟩
    exact apart.preimage_ne distinct message.payload content
  · intro topic message member actions spares
    exact filed.kept_run injective member spares

/-- What is said in one session leaves the messages of another alone. -/
theorem messagesOf_session {own foreign : SessionId} (differ : own ≠ foreign)
    (injective : Function.Injective digest) (filed : Filed digest mailbox)
    (published : mailbox.publish digest now foreign.hex content = .ok (.ok (name, next))) :
    next.messagesOf own.hex = mailbox.messagesOf own.hex := by
  have distinct : own.hex ≠ foreign.hex := fun same => differ (hex_session_injective same)
  apply (filed.messagesOf_publish injective distinct published).2.mpr
  intro message _
  exact (apart_sessions own foreign).preimage_ne distinct message.payload content

/-- A mailbox with a message on the topic `a`, and a second topic. -/
def talk (digest : Bytes → Bytes) (second : String) : Mailbox :=
  (start standardLifetime).run digest
    [.createTopic ⟨"a", ["1"]⟩, .createTopic ⟨second, ["1"]⟩,
      .publish 0 "a" (Bytes.ofText "b:c")]

/-- The topic `b` is there, and whatever names the message, it can be published. -/
theorem exists_publish_talk (digest other : Bytes → Bytes) : ∃ name next,
    (talk digest "b").publish other 0 "b" (Bytes.ofText "c") = .ok (.ok (name, next)) :=
  ⟨_, _, rfl⟩

/-- What is said on `b` leaves `a` alone. The digest in use tells apart what is said there. -/
theorem topics_isolated_ab :
    let said := [preimage "a" (Bytes.ofText "b:c"), preimage "b" (Bytes.ofText "c")]
    Function.Injective (digestOn said) ∧
      Reachable (digestOn said) standardLifetime (talk Blake3.digest "b") ∧
      ((talk Blake3.digest "b").after Blake3.digest
          (.publish 0 "b" (Bytes.ofText "c"))).messagesOf "a" =
        (talk Blake3.digest "b").messagesOf "a" := by
  intro said
  have injective : Function.Injective (digestOn said) := digestOn_injective (by decide +kernel)
  have reachable : Reachable (digestOn said) standardLifetime (talk Blake3.digest "b") :=
    ⟨_, run_digestOn (by decide +kernel)⟩
  have apart : Apart "a" "b" := by unfold Apart; decide +kernel
  obtain ⟨name, next, published⟩ := exists_publish_talk Blake3.digest (digestOn said)
  have same : (talk Blake3.digest "b").after Blake3.digest (.publish 0 "b" (Bytes.ofText "c")) =
      next := by
    rw [← after_publish published]
    exact after_congr fun input asked => (digestOn_of_mem (by cases asked; simp [said])).symm
  refine ⟨injective, reachable, ?_⟩
  rw [same]
  exact ((topics_isolated injective reachable).1 "a" "b" 0 (Bytes.ofText "c") name next
    (by decide) published).2.2 apart

/-- Saying `c` on `a:b` takes `b:c` from `a`. -/
def ColonTakes (digest : Bytes → Bytes) : Prop :=
  ∃ name next, Reachable digest standardLifetime (talk digest "a:b") ∧
    (talk digest "a:b").topics.contains "a" = true ∧
    (talk digest "a:b").publish digest 0 "a:b" (Bytes.ofText "c") = .ok (.ok (name, next)) ∧
    ((talk digest "a:b").messagesOf "a").map (·.payload) = [Bytes.ofText "b:c"] ∧
    next.messagesOf "a" = []

/-- It does so whatever the digest. -/
theorem colonTakes (digest : Bytes → Bytes) : ColonTakes digest := by
  have same : nameWith digest "a:b" (Bytes.ofText "c") =
      nameWith digest "a" (Bytes.ofText "b:c") :=
    congrArg (fun bytes => Hex.encode (digest bytes)) (by decide +kernel)
  refine ⟨_, _, ⟨_, rfl⟩, rfl, rfl, ?_, ?_⟩
  · have lying : ((talk digest "a:b").lyingOn "a").map (·.payload) = [Bytes.ofText "b:c"] := rfl
    exact List.perm_singleton.mp (((messagesOf_perm _ "a").map (·.payload)).trans (.of_eq lying))
  · apply List.perm_nil.mp
    refine (messagesOf_perm _ "a").trans (.of_eq ?_)
    have stored : (talk digest "a:b").messages.entries =
        [(nameWith digest "a" (Bytes.ofText "b:c"), ⟨nameWith digest "a" (Bytes.ofText "b:c"),
          "a", Bytes.ofText "b:c", 0, 3600000000000⟩)] := rfl
    simp [lyingOn, putMessage, Table.insert, stored, same, Table.insertInto]

/-- It does so with the digest that is used, and with one that tells all inputs apart. -/
theorem colon_takes_message :
    ColonTakes Blake3.digest ∧ Function.Injective (id : Bytes → Bytes) ∧ ColonTakes id :=
  ⟨colonTakes Blake3.digest, Function.injective_id, colonTakes id⟩

end Resharing.Mailbox
