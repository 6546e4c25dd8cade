import Mathlib.Data.List.Induction
import Mathlib.Data.List.Sort
import Resharing.Proofs.Mailbox.Coherence

/-!
# Messages told from the past

What lies on a topic can be told from what was done to the mailbox: a message stands from its
last publication until a look for what has expired finds that it has. The table under the
messages knows nothing of this; it holds them by name, and only reading puts them in order.
The two agree along every sequence of actions, and as no two actions happen at one time, the
order of reading is that of the last publications.

Topics have no colon here. Otherwise a message can put away one of another topic.

## Main definitions

* `Mailbox.Opened`: a topic has been created, or a node registered on it
* `Mailbox.Stands`: a message was published at a time, not since, and has not been cleaned away
* `Mailbox.Orderly`: actions at ever later times, with publications that can be made
* `Mailbox.ofActions`: the mailbox after some actions
* `Mailbox.Lies`: a message lies in a mailbox since a time
* `Mailbox.Recounts`: a mailbox holds what its past tells

## Main results

* `Mailbox.stands_concat`, `Mailbox.lies_after`: what one more action does to a message, in the
  past and in the table
* `Mailbox.recounts_run`: mailboxes hold what their past tells
* `Mailbox.Recounts.messagesOf_publish`: a message published again comes last
* `Mailbox.history_tells_messages`: reading and publishing, told from the past
-/

namespace Resharing.Mailbox

/-! ### The past -/

/-- When an action looks at the clock, if it does. -/
def Action.time? : Action → Option Instant
  | .publish now _ _ | .cleanUp now => some now
  | _ => none

/-- An action that is not refused and after which the topic exists. -/
def Action.Opens (topic : String) : Action → Prop
  | .createTopic created => created.name = topic ∧ created.name ≠ "" ∧ created.subscribers ≠ []
  | .registerNode node registered => registered = topic ∧ node.name ≠ "" ∧ node.address ≠ ""
  | _ => False

/-- Some action has made the topic exist. -/
def Opened (topic : String) (actions : List Action) : Prop :=
  ∃ action ∈ actions, action.Opens topic

/-- A message was published at a time, when its topic existed, and not since; no look for what
has expired has come after its end. -/
def Stands (lifetime : Int) (actions : List Action) (topic : String) (payload : Bytes)
    (time : Instant) : Prop :=
  ∃ before later, actions = before ++ .publish time topic payload :: later ∧
    Opened topic before ∧ (∀ now, .publish now topic payload ∉ later) ∧
    ∀ now, .cleanUp now ∈ later → now < time + lifetime * nanosPerSecond

/-- A publication is on a topic without a colon, and there is a date when it expires. -/
def Action.Publishable (lifetime : Int) : Action → Prop
  | .publish now topic _ => Plain topic ∧ ∃ expiresAt, now.addSeconds lifetime = .ok expiresAt
  | _ => True

/-- Actions at ever later times, with publications that can be made. -/
structure Orderly (lifetime : Int) (actions : List Action) : Prop where
  ascending : (actions.filterMap Action.time?).Pairwise (· < ·)
  publishable : ∀ action ∈ actions, action.Publishable lifetime

/-- The mailbox after some actions. -/
def ofActions (digest : Bytes → Bytes) (lifetime : Int) (actions : List Action) : Mailbox :=
  (start lifetime).run digest actions

variable {digest : Bytes → Bytes} {mailbox : Mailbox} {lifetime : Int}
  {now time expiresAt : Instant} {topic other : String} {payload content : Bytes}
  {actions : List Action} {action : Action} {message : Message}

theorem ofActions_concat :
    ofActions digest lifetime (actions ++ [action]) =
      (ofActions digest lifetime actions).after digest action :=
  List.foldl_append

theorem opened_concat : Opened topic (actions ++ [action]) ↔
    Opened topic actions ∨ action.Opens topic := by
  simp only [Opened, List.mem_append, List.mem_singleton, or_and_right, exists_or, exists_eq_left]

/-- What one more action does to the standing of a message. -/
theorem stands_concat : Stands lifetime (actions ++ [action]) topic payload time ↔
    action = .publish time topic payload ∧ Opened topic actions ∨
    Stands lifetime actions topic payload time ∧ (∀ now, action ≠ .publish now topic payload) ∧
      ∀ now, action = .cleanUp now → now < time + lifetime * nanosPerSecond := by
  constructor
  · rintro ⟨before, later, split, opened, unrepeated, uncleaned⟩
    rcases List.eq_nil_or_concat later with rfl | ⟨rest, last, rfl⟩
    · obtain ⟨rfl, published⟩ := List.append_inj' split rfl
      exact .inl ⟨List.head_eq_of_cons_eq published, opened⟩
    · rw [List.concat_eq_append] at split unrepeated uncleaned
      rw [← List.cons_append, ← List.append_assoc] at split
      obtain ⟨rfl, same⟩ := List.append_inj' split rfl
      obtain rfl := List.head_eq_of_cons_eq same
      refine .inr ⟨⟨before, rest, rfl, opened, ?_, ?_⟩, ?_, ?_⟩
      · exact fun now member => unrepeated now (List.mem_append_left _ member)
      · exact fun now member => uncleaned now (List.mem_append_left _ member)
      · rintro now rfl
        exact unrepeated now (List.mem_append_right _ List.mem_cons_self)
      · rintro now rfl
        exact uncleaned now (List.mem_append_right _ List.mem_cons_self)
  · rintro (⟨rfl, opened⟩ | ⟨⟨before, later, rfl, opened, unrepeated, uncleaned⟩, other, fresh⟩)
    · exact ⟨actions, [], rfl, opened, by simp, by simp⟩
    · refine ⟨before, later ++ [action], by simp, opened, ?_, ?_⟩
      · intro now member
        rcases List.mem_append.mp member with old | new
        · exact unrepeated now old
        · exact other now (List.mem_singleton.mp new).symm
      · intro now member
        rcases List.mem_append.mp member with old | new
        · exact uncleaned now old
        · exact fresh now (List.mem_singleton.mp new).symm

theorem Stands.published (stands : Stands lifetime actions topic payload time) :
    .publish time topic payload ∈ actions := by
  obtain ⟨before, later, rfl, -⟩ := stands
  exact List.mem_append_right before List.mem_cons_self

namespace Orderly

theorem of_concat (orderly : Orderly lifetime (actions ++ [action])) :
    Orderly lifetime actions where
  ascending := by
    have ascending := orderly.ascending
    rw [List.filterMap_append] at ascending
    exact (List.pairwise_append.mp ascending).1
  publishable action member := orderly.publishable action (List.mem_append_left _ member)

/-- At one time there is one action. -/
theorem eq_of_time (orderly : Orderly lifetime actions) {left right : Action}
    (first : left ∈ actions) (second : right ∈ actions) (early : left.time? = some time)
    (late : right.time? = some time) : left = right := by
  have ascending := List.pairwise_filterMap.mp orderly.ascending
  clear orderly
  induction actions with
  | nil => exact absurd first List.not_mem_nil
  | cons action rest ih =>
    obtain ⟨before, ascending⟩ := List.pairwise_cons.mp ascending
    rcases List.mem_cons.mp first with rfl | earlier <;>
      rcases List.mem_cons.mp second with rfl | later
    · rfl
    · exact absurd (before right later time early time late) (Int.lt_irrefl time)
    · exact absurd (before left earlier time late time early) (Int.lt_irrefl time)
    · exact ih earlier later ascending

end Orderly

/-! ### The mailbox -/

/-- The message lies in the mailbox since a time. -/
def Lies (mailbox : Mailbox) (topic : String) (payload : Bytes) (time : Instant) : Prop :=
  ∃ entry ∈ mailbox.messages.entries,
    entry.2.topic = topic ∧ entry.2.payload = payload ∧ entry.2.createdAt = time

theorem topics_publish (digest : Bytes → Bytes) (mailbox : Mailbox) (now : Instant)
    (topic : String) (payload : Bytes) :
    (mailbox.after digest (.publish now topic payload)).topics = mailbox.topics := by
  cases published : mailbox.publish digest now topic payload with
  | error crash => simp only [after, published]
  | ok result =>
    cases result with
    | error error => simp only [after, published]
    | ok result =>
      obtain ⟨name, next⟩ := result
      rw [after_publish published]
      obtain ⟨expiresAt, -, -, rfl⟩ := publish_eq_ok published
      rfl

/-- A topic stays as it is as long as nobody opens one of its name. -/
theorem find?_after (digest : Bytes → Bytes) (mailbox : Mailbox)
    (untouched : ¬ action.Opens topic) :
    (mailbox.after digest action).topics.find? topic = mailbox.topics.find? topic := by
  cases action with
  | createTopic created =>
    rw [after_createTopic]
    split_ifs with valid
    · have differ : topic ≠ created.name := fun same => untouched ⟨same.symm, valid⟩
      rw [putTopic, Table.find?_insert, if_neg (by simpa using differ)]
    · rfl
  | registerNode node registered =>
    rw [after_registerNode]
    split_ifs with valid
    · have differ : topic ≠ registered := fun same => untouched ⟨same.symm, valid⟩
      rw [addSubscriber, Table.find?_insert, if_neg (by simpa using differ), putNode]
    · rfl
  | publish now published payload => rw [topics_publish]
  | putResult kind request payload =>
    rw [after_putResult]
    split_ifs <;> rfl
  | cleanUp now => rfl

theorem find?_run (digest : Bytes → Bytes) (mailbox : Mailbox)
    (untouched : ∀ action ∈ actions, ¬ action.Opens topic) :
    (mailbox.run digest actions).topics.find? topic = mailbox.topics.find? topic := by
  induction actions generalizing mailbox with
  | nil => rfl
  | cons action rest ih =>
    obtain ⟨first, later⟩ := List.forall_mem_cons.mp untouched
    exact (ih (mailbox.after digest action) later).trans (find?_after digest mailbox first)

/-- The topics that exist are those that have been opened. -/
theorem contains_after (digest : Bytes → Bytes) (mailbox : Mailbox) (action : Action)
    (topic : String) : (mailbox.after digest action).topics.contains topic = true ↔
      mailbox.topics.contains topic = true ∨ action.Opens topic := by
  cases action with
  | createTopic created =>
    rw [after_createTopic]
    split_ifs with valid
    · simp only [putTopic, Table.contains_insert, Bool.or_eq_true, beq_iff_eq]
      rw [or_comm]
      exact or_congr_right ⟨fun same => ⟨same.symm, valid⟩, fun opens => opens.1.symm⟩
    · exact (or_iff_left fun opens => valid opens.2).symm
  | registerNode node registered =>
    rw [after_registerNode]
    split_ifs with valid
    · simp only [addSubscriber, putNode, Table.contains_insert, Bool.or_eq_true, beq_iff_eq]
      rw [or_comm]
      exact or_congr_right ⟨fun same => ⟨same.symm, valid⟩, fun opens => opens.1.symm⟩
    · exact (or_iff_left fun opens => valid opens.2).symm
  | publish now published payload =>
    rw [topics_publish]
    exact (or_iff_left id).symm
  | putResult kind request payload =>
    rw [after_putResult]
    split_ifs <;> exact (or_iff_left id).symm
  | cleanUp now => exact (or_iff_left id).symm

/-- A new message puts away the one that bears its name. -/
theorem Coherent.lies_putMessage (coherent : Coherent digest mailbox)
    (injective : Function.Injective digest) :
    Lies (mailbox.putMessage ⟨nameWith digest other content, other, content, now, expiresAt⟩)
        topic payload time ↔
      (other = topic ∧ content = payload) ∧ now = time ∨
      Lies mailbox topic payload time ∧ preimage other content ≠ preimage topic payload := by
  have foreign {entry : String × Message} (member : entry ∈ mailbox.messages.entries) :
      entry.1 ≠ nameWith digest other content ↔
        preimage other content ≠ preimage entry.2.topic entry.2.payload := by
    rw [(coherent.messages.suits entry member).named, ne_eq, nameWith_eq_iff injective, eq_comm]
  constructor
  · rintro ⟨entry, member, rfl, rfl, rfl⟩
    rcases (Table.mem_insert coherent.messages.distinct).mp member with rfl | ⟨old, differs⟩
    · exact .inl ⟨⟨rfl, rfl⟩, rfl⟩
    · exact .inr ⟨⟨entry, old, rfl, rfl, rfl⟩, (foreign old).mp differs⟩
  · rintro (⟨⟨rfl, rfl⟩, rfl⟩ | ⟨⟨entry, member, rfl, rfl, rfl⟩, differs⟩)
    · exact ⟨_, (Table.mem_insert coherent.messages.distinct).mpr (.inl rfl), rfl, rfl, rfl⟩
    · exact ⟨entry, (Table.mem_insert coherent.messages.distinct).mpr
        (.inr ⟨member, (foreign member).mpr differs⟩), rfl, rfl, rfl⟩

/-- A new message puts away the one that it repeats and no other, as long as the topics are
without colons. -/
theorem lies_putMessage (injective : Function.Injective digest)
    (coherent : Coherent digest mailbox)
    (plain : ∀ topic payload time, Lies mailbox topic payload time → Plain topic)
    (colonless : Plain other) :
    Lies (mailbox.putMessage ⟨nameWith digest other content, other, content, now, expiresAt⟩)
        topic payload time ↔
      (other = topic ∧ content = payload) ∧ now = time ∨
      Lies mailbox topic payload time ∧ ¬ (other = topic ∧ content = payload) := by
  rw [coherent.lies_putMessage injective]
  apply or_congr_right
  apply and_congr_right
  intro lies
  have own : Plain topic := plain topic payload time lies
  rw [ne_eq, ← nameWith_eq_iff injective, colonless.nameWith_inj own injective]

theorem lies_cleanUp (coherent : Coherent digest mailbox) :
    Lies (mailbox.cleanUp now) topic payload time ↔
      Lies mailbox topic payload time ∧ now < time + mailbox.lifetime * nanosPerSecond := by
  constructor
  · rintro ⟨entry, member, rfl, rfl, rfl⟩
    obtain ⟨old, fresh⟩ := List.mem_filter.mp member
    exact ⟨⟨entry, old, rfl, rfl, rfl⟩,
      (coherent.messages.suits entry old).lasting ▸ of_decide_eq_true fresh⟩
  · rintro ⟨⟨entry, member, rfl, rfl, rfl⟩, fresh⟩
    rw [← (coherent.messages.suits entry member).lasting] at fresh
    exact ⟨entry, List.mem_filter.mpr ⟨member, decide_eq_true fresh⟩, rfl, rfl, rfl⟩

/-- What an action does to a message. -/
theorem lies_after (injective : Function.Injective digest) (coherent : Coherent digest mailbox)
    (plain : ∀ topic payload time, Lies mailbox topic payload time → Plain topic)
    (publishable : action.Publishable mailbox.lifetime) :
    Lies (mailbox.after digest action) topic payload time ↔
      action = .publish time topic payload ∧ mailbox.topics.contains topic = true ∨
      Lies mailbox topic payload time ∧ (∀ now, action ≠ .publish now topic payload) ∧
        ∀ now, action = .cleanUp now → now < time + mailbox.lifetime * nanosPerSecond := by
  have change := change_after digest mailbox action
  cases action with
  | publish now other content =>
    obtain ⟨colonless, expiresAt, later⟩ := publishable
    cases there : mailbox.topics.contains other with
    | true =>
      rw [after_publish (publish_of_contains digest content there later),
        lies_putMessage injective coherent plain colonless]
      constructor
      · rintro (⟨⟨rfl, rfl⟩, rfl⟩ | ⟨lies, unrepeated⟩)
        · exact .inl ⟨rfl, there⟩
        · refine .inr ⟨lies, fun _ same => unrepeated (Action.publish.inj same).2, ?_⟩
          rintro _ ⟨⟩
      · rintro (⟨same, -⟩ | ⟨lies, unrepeated, -⟩)
        · obtain ⟨rfl, rfl, rfl⟩ := Action.publish.inj same
          exact .inl ⟨⟨rfl, rfl⟩, rfl⟩
        · refine .inr ⟨lies, ?_⟩
          rintro ⟨rfl, rfl⟩
          exact unrepeated now rfl
    | false =>
      simp only [after, publish_of_missing digest now content there]
      constructor
      · intro lies
        refine .inr ⟨lies, ?_, ?_⟩
        · rintro _ ⟨⟩
          obtain ⟨entry, member, rfl, -⟩ := lies
          exact Bool.noConfusion (there.symm.trans (coherent.messages.suits entry member).opened)
        · rintro _ ⟨⟩
      · rintro (⟨same, opened⟩ | ⟨lies, -⟩)
        · obtain ⟨-, rfl, -⟩ := Action.publish.inj same
          exact Bool.noConfusion (there.symm.trans opened)
        · exact lies
  | cleanUp now =>
    refine (lies_cleanUp coherent).trans ⟨?_, ?_⟩
    · rintro ⟨lies, fresh⟩
      refine .inr ⟨lies, ?_, ?_⟩
      · rintro _ ⟨⟩
      · rintro _ ⟨⟩
        exact fresh
    · rintro (⟨⟨⟩, -⟩ | ⟨lies, -, fresh⟩)
      exact ⟨lies, fresh now rfl⟩
  | _ =>
    generalize mailbox.after digest _ = next at change
    cases change with
    | unseen _ _ messages _ => simp [Lies, messages]

/-! ### The mailbox tells its past -/

/-- A mailbox holds what its past tells. -/
structure Recounts (digest : Bytes → Bytes) (lifetime : Int) (actions : List Action)
    (mailbox : Mailbox) : Prop where
  coherent : Coherent digest mailbox
  lifetime_eq : mailbox.lifetime = lifetime
  topics : ∀ topic, mailbox.topics.contains topic = true ↔ Opened topic actions
  messages : ∀ topic payload time,
    Lies mailbox topic payload time ↔ Stands lifetime actions topic payload time

theorem Recounts.after (injective : Function.Injective digest)
    (orderly : Orderly lifetime (actions ++ [action]))
    (recounts : Recounts digest lifetime actions mailbox) :
    Recounts digest lifetime (actions ++ [action]) (mailbox.after digest action) where
  coherent := recounts.coherent.after action
  lifetime_eq := (lifetime_after digest mailbox action).trans recounts.lifetime_eq
  topics topic := by
    rw [contains_after, opened_concat, recounts.topics]
  messages topic payload time := by
    have plain : ∀ topic payload time, Lies mailbox topic payload time → Plain topic := by
      intro topic payload time lies
      have published := ((recounts.messages topic payload time).mp lies).published
      exact (orderly.publishable _ (List.mem_append_left _ published)).1
    have publishable : action.Publishable mailbox.lifetime :=
      recounts.lifetime_eq ▸ orderly.publishable action (List.mem_append_right _ List.mem_cons_self)
    rw [lies_after injective recounts.coherent plain publishable, stands_concat,
      recounts.topics, recounts.messages, recounts.lifetime_eq]

/-- Along every orderly sequence of actions the mailbox holds what its past tells. -/
theorem recounts_run (injective : Function.Injective digest) (orderly : Orderly lifetime actions) :
    Recounts digest lifetime actions (ofActions digest lifetime actions) := by
  induction actions using List.reverseRecOn with
  | nil =>
    refine ⟨coherent_start digest lifetime, rfl, fun topic => ?_, fun topic payload time => ?_⟩
    · exact iff_of_false Bool.false_ne_true fun ⟨_, member, _⟩ => absurd member List.not_mem_nil
    · exact iff_of_false (fun ⟨_, member, _⟩ => absurd member List.not_mem_nil)
        fun stands => absurd stands.published List.not_mem_nil
  | append_singleton actions action ih =>
    rw [ofActions_concat]
    exact (ih orderly.of_concat).after injective orderly

/-! ### Reading -/

/-- A message that is read is what its topic, its content and its time make of it. -/
theorem Coherent.mem_messagesOf_iff (coherent : Coherent digest mailbox) :
    message ∈ mailbox.messagesOf topic ↔
      Lies mailbox topic message.payload message.createdAt ∧
        message = ⟨nameWith digest topic message.payload, topic, message.payload,
          message.createdAt, message.createdAt + mailbox.lifetime * nanosPerSecond⟩ := by
  rw [mem_messagesOf]
  constructor
  · rintro ⟨rfl, name, member⟩
    have fits := coherent.messages.suits (name, message) member
    refine ⟨⟨_, member, rfl, rfl, rfl⟩, ?_⟩
    obtain ⟨hash, _, _, _, _⟩ := message
    exact Message.mk.injEq .. ▸ ⟨fits.hash.trans fits.named, rfl, rfl, rfl, fits.lasting⟩
  · rintro ⟨⟨⟨name, found⟩, member, sameTopic, samePayload, sameTime⟩, whole⟩
    have fits := coherent.messages.suits (name, found) member
    have same : found = message := by
      rw [whole]
      obtain ⟨hash, _, _, _, _⟩ := found
      subst sameTopic
      rw [← samePayload, ← sameTime]
      exact Message.mk.injEq .. ▸ ⟨fits.hash.trans fits.named, rfl, rfl, rfl, fits.lasting⟩
    exact ⟨by rw [whole], name, same ▸ member⟩

/-- No content comes twice on a topic: it would have the same name. -/
theorem Coherent.nodup_payloads (coherent : Coherent digest mailbox) (topic : String) :
    ((mailbox.messagesOf topic).map (·.payload)).Nodup := by
  rw [((messagesOf_perm mailbox topic).map _).nodup_iff]
  apply List.Nodup.of_map (nameWith digest topic)
  have keys : ((mailbox.lyingOn topic).map (·.payload)).map (nameWith digest topic) =
      (mailbox.messages.entries.filter fun entry => decide (entry.2.topic = topic)).map (·.1) := by
    simp only [lyingOn, List.map_map]
    refine List.map_congr_left fun entry member => ?_
    obtain ⟨stored, here⟩ := List.mem_filter.mp member
    rw [(coherent.messages.suits entry stored).named, of_decide_eq_true here]
    rfl
  rw [keys]
  exact coherent.messages.distinct.sublist (List.filter_sublist.map _)

theorem ascending_messagesOf (mailbox : Mailbox) (topic : String) :
    (mailbox.messagesOf topic).Pairwise fun left right => left.createdAt ≤ right.createdAt := by
  rw [messagesOf_eq]
  refine (List.pairwise_mergeSort ?_ ?_ (mailbox.lyingOn topic)).imp of_decide_eq_true
  · exact fun _ _ _ first second => decide_eq_true
      (Int.le_trans (of_decide_eq_true first) (of_decide_eq_true second))
  · exact fun left right => by simpa using Int.le_total left.createdAt right.createdAt

namespace Recounts

variable (recounts : Recounts digest lifetime actions mailbox)

include recounts

/-- What is read on a topic is what stands on it. -/
theorem mem_messagesOf_iff : message ∈ mailbox.messagesOf topic ↔
    Stands lifetime actions topic message.payload message.createdAt ∧
      message = ⟨nameWith digest topic message.payload, topic, message.payload,
        message.createdAt, message.createdAt + lifetime * nanosPerSecond⟩ := by
  rw [recounts.coherent.mem_messagesOf_iff, recounts.messages, recounts.lifetime_eq]

/-- No two messages on a topic are of one time, since no two publications are. -/
theorem ascending (orderly : Orderly lifetime actions) (topic : String) :
    (mailbox.messagesOf topic).Pairwise fun left right => left.createdAt < right.createdAt := by
  have distinct := List.pairwise_map.mp (recounts.coherent.nodup_payloads topic)
  refine ((ascending_messagesOf mailbox topic).and distinct).imp_of_mem ?_
  rintro left right first second ⟨ordered, differ⟩
  refine Int.lt_iff_le_and_ne.mpr ⟨ordered, fun same => differ ?_⟩
  have early := (recounts.mem_messagesOf_iff.mp first).1.published
  have late := (recounts.mem_messagesOf_iff.mp second).1.published
  rw [← same] at late
  exact (Action.publish.inj (orderly.eq_of_time early late rfl rfl)).2.2

/-- A publication on a topic that exists moves its message to the end. -/
theorem messagesOf_publish (injective : Function.Injective digest)
    (orderly : Orderly lifetime (actions ++ [.publish now topic payload]))
    (opened : Opened topic actions) : ∃ next,
      mailbox.publish digest now topic payload = .ok (.ok (nameWith digest topic payload, next)) ∧
      next.messagesOf topic =
        (mailbox.messagesOf topic).filter (fun message => decide (message.payload ≠ payload)) ++
          [⟨nameWith digest topic payload, topic, payload, now,
            now + lifetime * nanosPerSecond⟩] := by
  obtain ⟨-, expiresAt, later⟩ := orderly.publishable (.publish now topic payload)
    (List.mem_append_right _ List.mem_cons_self)
  have there := (recounts.topics topic).mpr opened
  have published := publish_of_contains digest payload there (recounts.lifetime_eq ▸ later)
  obtain rfl := addSeconds_eq_ok later
  refine ⟨_, published, ?_⟩
  have next := recounts.after injective orderly
  rw [after_publish published] at next
  -- Both sides are in the order of their times, so it is enough to compare their members.
  have strict : Std.Irrefl fun left right : Message => left.createdAt < right.createdAt :=
    ⟨fun message => Int.lt_irrefl message.createdAt⟩
  have antisymm : Std.Antisymm fun left right : Message => left.createdAt < right.createdAt :=
    ⟨fun _ _ less greater => absurd (Int.lt_trans less greater) (Int.lt_irrefl _)⟩
  refine (next.ascending orderly topic).eq_of_mem_iff (List.pairwise_append.mpr ⟨?_, ?_, ?_⟩) ?_
  · exact (recounts.ascending orderly.of_concat topic).filter _
  · exact List.pairwise_singleton _ _
  · intro old stood new last
    obtain rfl := List.mem_singleton.mp last
    have before := (recounts.mem_messagesOf_iff.mp (List.mem_filter.mp stood).1).1.published
    have ascending := orderly.ascending
    rw [List.filterMap_append] at ascending
    exact (List.pairwise_append.mp ascending).2.2 _ (List.mem_filterMap.mpr ⟨_, before, rfl⟩) _
      List.mem_cons_self
  · intro message
    rw [next.mem_messagesOf_iff, stands_concat, List.mem_append, List.mem_filter,
      recounts.mem_messagesOf_iff, List.mem_singleton, decide_eq_true_eq]
    constructor
    · rintro ⟨⟨same, -⟩ | ⟨stands, unrepeated, -⟩, whole⟩
      · obtain ⟨time, -, content⟩ := Action.publish.inj same
        exact .inr (by rw [whole, ← time, ← content])
      · exact .inl ⟨⟨stands, whole⟩, fun same => unrepeated now (by rw [same])⟩
    · rintro (⟨⟨stands, whole⟩, differs⟩ | rfl)
      · refine ⟨.inr ⟨stands, fun _ same => differs ?_, fun _ same => nomatch same⟩, whole⟩
        exact (Action.publish.inj same).2.2.symm
      · exact ⟨.inl ⟨rfl, opened⟩, rfl⟩

/-- What is refused is a publication on a topic that nothing has opened. -/
theorem publish_eq_error_iff {error : MailboxError} :
    mailbox.publish digest now topic payload = .ok (.error error) ↔
      error = .noTopic topic ∧ ¬ Opened topic actions := by
  rw [← recounts.topics topic]
  cases there : mailbox.topics.contains topic with
  | false =>
    rw [publish_of_missing digest now payload there]
    simp [eq_comm]
  | true =>
    rw [publish, if_pos there]
    cases made : makeMessage digest mailbox now topic payload <;>
      simp [bind, Except.bind, pure, Except.pure]

end Recounts

/-- Reading and publishing, told from the past. On each topic there are the messages that stand,
each once and in the order of their last publications, under their names. A message published
again keeps its name and comes last, with a new end. A publication is refused exactly if nothing
has opened its topic, and then it changes nothing. -/
theorem history_tells_messages (injective : Function.Injective digest)
    (orderly : Orderly lifetime actions) :
    (∀ topic,
      (((ofActions digest lifetime actions).messagesOf topic).Pairwise fun left right =>
        left.createdAt < right.createdAt) ∧
      (((ofActions digest lifetime actions).messagesOf topic).map (·.payload)).Nodup ∧
      ∀ message, message ∈ (ofActions digest lifetime actions).messagesOf topic ↔
        Stands lifetime actions topic message.payload message.createdAt ∧
          message = ⟨nameWith digest topic message.payload, topic, message.payload,
            message.createdAt, message.createdAt + lifetime * nanosPerSecond⟩) ∧
    (∀ now topic payload, Orderly lifetime (actions ++ [.publish now topic payload]) →
      Opened topic actions → ∃ next,
        (ofActions digest lifetime actions).publish digest now topic payload =
          .ok (.ok (nameWith digest topic payload, next)) ∧
        next.messagesOf topic =
          ((ofActions digest lifetime actions).messagesOf topic).filter
              (fun message => decide (message.payload ≠ payload)) ++
            [⟨nameWith digest topic payload, topic, payload, now,
              now + lifetime * nanosPerSecond⟩]) ∧
    ∀ now topic payload,
      (∀ error, (ofActions digest lifetime actions).publish digest now topic payload =
          .ok (.error error) ↔ error = .noTopic topic ∧ ¬ Opened topic actions) ∧
      (¬ Opened topic actions → (ofActions digest lifetime actions).after digest
          (.publish now topic payload) = ofActions digest lifetime actions) := by
  have recounts := recounts_run injective orderly
  refine ⟨fun topic => ⟨?_, ?_, ?_⟩, ?_, fun now topic payload => ⟨?_, ?_⟩⟩
  · exact recounts.ascending orderly topic
  · exact recounts.coherent.nodup_payloads topic
  · exact fun message => recounts.mem_messagesOf_iff
  · exact fun now topic payload orderly opened =>
      recounts.messagesOf_publish injective orderly opened
  · exact fun error => recounts.publish_eq_error_iff
  · intro unopened
    simp only [after, recounts.publish_eq_error_iff.mpr ⟨rfl, unopened⟩]

/-- A message is said again, and another one expires at the moment of the look. -/
def renewed : List Action :=
  [.createTopic ⟨"a", ["1"]⟩, .publish 0 "a" [1], .publish 1 "a" [2], .publish 2 "a" [1],
    .cleanUp 1000000001]

/-- What was said again stays, with its last time and under the name that it has in use. -/
theorem history_tells_messages_renewed :
    let said := [preimage "a" [1], preimage "a" [2]]
    Function.Injective (digestOn said) ∧ Orderly 1 renewed ∧
      ⟨name "a" [1], "a", [1], 2, 1000000002⟩ ∈
        (ofActions Blake3.digest 1 renewed).messagesOf "a" := by
  intro said
  have injective : Function.Injective (digestOn said) := digestOn_injective (by decide +kernel)
  have orderly : Orderly 1 renewed := by
    refine ⟨by decide, fun action member => ?_⟩
    simp only [renewed, List.mem_cons, List.not_mem_nil, or_false] at member
    rcases member with rfl | rfl | rfl | rfl | rfl
    · trivial
    · exact ⟨by unfold Plain; decide, _, rfl⟩
    · exact ⟨by unfold Plain; decide, _, rfl⟩
    · exact ⟨by unfold Plain; decide, _, rfl⟩
    · trivial
  have same : ofActions (digestOn said) 1 renewed = ofActions Blake3.digest 1 renewed :=
    run_digestOn (by decide +kernel)
  have named : name "a" [1] = nameWith (digestOn said) "a" [1] :=
    congrArg Hex.encode (digestOn_of_mem List.mem_cons_self).symm
  refine ⟨injective, orderly, ?_⟩
  rw [← same, named]
  refine (((history_tells_messages injective orderly).1 "a").2.2 _).mpr ⟨?_, rfl⟩
  refine ⟨renewed.take 3, renewed.drop 4, rfl, ⟨_, List.mem_cons_self, ?_⟩, ?_, ?_⟩
  · exact ⟨rfl, by decide, by decide⟩
  · exact fun now member => nomatch List.mem_singleton.mp member
  · intro now member
    obtain rfl := Action.cleanUp.inj (List.mem_singleton.mp member)
    decide

end Resharing.Mailbox
