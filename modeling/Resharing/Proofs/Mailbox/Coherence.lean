import Resharing.Proofs.Mailbox.Isolation

/-!
# What holds between the tables of a mailbox

Each of the steps that operations are made of touches one table. Every table keeps its values
under the keys that they tell themselves, a topic has subscribers, and a message belongs to a
topic that exists. The last of these ties two tables together: it stands because topics are
replaced and extended but never removed.

## Main definitions

* `Mailbox.Coherent`: what holds between the four tables
* `Mailbox.sweep`: the part of a look for what has expired that concerns one name

## Main results

* `Mailbox.Coherent.putTopic`, `Mailbox.Coherent.addSubscriber`, `Mailbox.Coherent.putMessage`
  and so on: each step keeps it
* `Mailbox.after_createTopic`, `Mailbox.after_registerNode`, `Mailbox.after_putResult`,
  `Mailbox.publish_of_contains`, `Mailbox.publish_of_missing`: operations as steps
* `Mailbox.cleanUp_eq_sweeps`: a look for what has expired is one look at each name
* `Mailbox.Coherent.after`, `Mailbox.Coherent.run`: operations keep it
-/

namespace Resharing.Mailbox

variable {digest : Bytes → Bytes} {mailbox : Mailbox} {now expiresAt : Instant}
  {topic : String} {payload : Bytes} {name : String} {message : Message} {lifetime : Int}

/-! ### Subscribing -/

theorem name_subscribe (topic : Topic) (name : String) :
    (subscribe topic name).name = topic.name := by
  unfold subscribe
  split_ifs <;> rfl

/-- Whoever subscribes is among the subscribers, behind those who were there. -/
theorem mem_subscribe {topic : Topic} {name other : String} :
    other ∈ (subscribe topic name).subscribers ↔ other ∈ topic.subscribers ∨ other = name := by
  unfold subscribe
  split_ifs with there
  · exact ⟨.inl, fun either => either.elim id fun same => same ▸ there⟩
  · simp only [List.mem_append, List.mem_singleton]

/-! ### The tables -/

/-- A topic lies under its name and has subscribers. -/
def TopicFits (name : String) (topic : Topic) : Prop :=
  topic.name = name ∧ topic.subscribers ≠ []

/-- A message lies under its name, lasts as long as messages last, and its topic exists. -/
structure MessageFits (digest : Bytes → Bytes) (mailbox : Mailbox) (name : String)
    (message : Message) : Prop where
  hash : message.hash = name
  named : name = nameWith digest message.topic message.payload
  lasting : message.expiresAt = message.createdAt + mailbox.lifetime * nanosPerSecond
  opened : mailbox.topics.contains message.topic = true

/-- Everything lies under its own key, topics have subscribers, and messages have topics. -/
structure Coherent (digest : Bytes → Bytes) (mailbox : Mailbox) : Prop where
  topics : mailbox.topics.Keyed TopicFits
  nodes : mailbox.nodes.Keyed fun name node => node.name = name
  messages : mailbox.messages.Keyed (MessageFits digest mailbox)
  results : mailbox.results.Keyed fun key result => key = (result.kind, result.request)

theorem coherent_start (digest : Bytes → Bytes) (lifetime : Int) :
    Coherent digest (start lifetime) :=
  ⟨.empty, .empty, .empty, .empty⟩

/-- The message that publishing on a topic that exists makes. -/
theorem messageFits_make (there : mailbox.topics.contains topic = true)
    (made : makeMessage digest mailbox now topic payload = .ok message) :
    MessageFits digest mailbox message.hash message := by
  unfold makeMessage at made
  cases later : now.addSeconds mailbox.lifetime with
  | error crash =>
    rw [later] at made
    cases made
  | ok expiresAt =>
    rw [later] at made
    cases made
    exact ⟨rfl, rfl, addSeconds_eq_ok later, there⟩

/-- What lies under a name goes if it has expired. -/
def sweep (mailbox : Mailbox) (now : Instant) (name : String) : Mailbox :=
  { mailbox with
    messages := mailbox.messages.filter fun other message =>
      other != name || decide (now < message.expiresAt) }

theorem mem_sweep {entry : String × Message} :
    entry ∈ (mailbox.sweep now name).messages.entries ↔
      entry ∈ mailbox.messages.entries ∧ (entry.1 = name → now < entry.2.expiresAt) := by
  simp only [sweep, Table.filter, List.mem_filter, Bool.or_eq_true, bne_iff_ne, decide_eq_true_eq,
    ne_eq, imp_iff_not_or]

/-! ### Steps -/

namespace Coherent

/-- Messages keep their topics where a topic is put in. -/
private theorem messages_insert (coherent : Coherent digest mailbox) (name : String)
    (topic : Topic) :
    mailbox.messages.Keyed
      (MessageFits digest { mailbox with topics := mailbox.topics.insert name topic }) := by
  refine coherent.messages.mono fun _ _ fits => ⟨fits.hash, fits.named, fits.lasting, ?_⟩
  rw [Table.contains_insert, fits.opened, Bool.or_true]

theorem putTopic (coherent : Coherent digest mailbox) {topic : Topic}
    (inhabited : topic.subscribers ≠ []) : Coherent digest (mailbox.putTopic topic) where
  topics := coherent.topics.insert ⟨rfl, inhabited⟩
  nodes := coherent.nodes
  messages := coherent.messages_insert topic.name topic
  results := coherent.results

theorem putNode (coherent : Coherent digest mailbox) (node : Subscriber) :
    Coherent digest (mailbox.putNode node) where
  topics := coherent.topics
  nodes := coherent.nodes.insert rfl
  messages := coherent.messages.mono fun _ _ fits =>
    ⟨fits.hash, fits.named, fits.lasting, fits.opened⟩
  results := coherent.results

theorem addSubscriber (coherent : Coherent digest mailbox) (topic name : String) :
    Coherent digest (mailbox.addSubscriber topic name) where
  topics := by
    refine coherent.topics.insert ⟨?_, List.ne_nil_of_mem (mem_subscribe.mpr (.inr rfl))⟩
    -- What was found keeps its own name, and that is the one it was found under.
    rw [name_subscribe]
    cases found : mailbox.topics.find? topic with
    | none => rfl
    | some known => exact (coherent.topics.find? found).1
  nodes := coherent.nodes
  messages := coherent.messages_insert topic _
  results := coherent.results

theorem putMessage (coherent : Coherent digest mailbox)
    (fits : MessageFits digest mailbox message.hash message) :
    Coherent digest (mailbox.putMessage message) where
  topics := coherent.topics
  nodes := coherent.nodes
  messages := (coherent.messages.insert fits).mono fun _ _ fits =>
    ⟨fits.hash, fits.named, fits.lasting, fits.opened⟩
  results := coherent.results

theorem keepResult (coherent : Coherent digest mailbox) (result : Result) :
    Coherent digest (mailbox.keepResult result) where
  topics := coherent.topics
  nodes := coherent.nodes
  messages := coherent.messages.mono fun _ _ fits =>
    ⟨fits.hash, fits.named, fits.lasting, fits.opened⟩
  results := coherent.results.insert rfl

/-- Messages may go. -/
theorem filter (coherent : Coherent digest mailbox) (keeps : String → Message → Bool) :
    Coherent digest { mailbox with messages := mailbox.messages.filter keeps } where
  topics := coherent.topics
  nodes := coherent.nodes
  messages := (coherent.messages.filter keeps).mono fun _ _ fits =>
    ⟨fits.hash, fits.named, fits.lasting, fits.opened⟩
  results := coherent.results

end Coherent

/-! ### Operations as steps -/

theorem after_createTopic (digest : Bytes → Bytes) (mailbox : Mailbox) (topic : Topic) :
    mailbox.after digest (.createTopic topic) =
      if topic.name ≠ "" ∧ topic.subscribers ≠ [] then mailbox.putTopic topic else mailbox := by
  by_cases unnamed : topic.name = "" <;> by_cases empty : topic.subscribers = [] <;>
    simp [after, createTopic, unnamed, empty, Except.toOption]

theorem after_registerNode (digest : Bytes → Bytes) (mailbox : Mailbox) (node : Subscriber)
    (topic : String) :
    mailbox.after digest (.registerNode node topic) =
      if node.name ≠ "" ∧ node.address ≠ "" then
        (mailbox.putNode node).addSubscriber topic node.name
      else mailbox := by
  by_cases unnamed : node.name = "" <;> by_cases nowhere : node.address = "" <;>
    simp [after, registerNode, unnamed, nowhere, Except.toOption]

theorem after_putResult (digest : Bytes → Bytes) (mailbox : Mailbox) (kind request : String)
    (payload : Bytes) :
    mailbox.after digest (.putResult kind request payload) =
      if request ≠ "" then mailbox.keepResult ⟨kind, request, payload⟩ else mailbox := by
  by_cases unnamed : request = "" <;> simp [after, putResult, unnamed, Except.toOption]

theorem publish_of_contains (digest : Bytes → Bytes) (payload : Bytes)
    (there : mailbox.topics.contains topic = true)
    (later : now.addSeconds mailbox.lifetime = .ok expiresAt) :
    mailbox.publish digest now topic payload =
      .ok (.ok (nameWith digest topic payload,
        mailbox.putMessage ⟨nameWith digest topic payload, topic, payload, now, expiresAt⟩)) := by
  rw [publish, if_pos there, makeMessage, later]
  rfl

theorem publish_of_missing (digest : Bytes → Bytes) (now : Instant) (payload : Bytes)
    (missing : mailbox.topics.contains topic = false) :
    mailbox.publish digest now topic payload = .ok (.error (.noTopic topic)) := by
  rw [publish, missing]
  rfl

theorem foldl_sweep (mailbox : Mailbox) (now : Instant) (names : List String) :
    names.foldl (sweep · now) mailbox =
      { mailbox with
        messages := mailbox.messages.filter fun name message =>
          decide (name ∉ names) || decide (now < message.expiresAt) } := by
  induction names generalizing mailbox with
  | nil => simp [Table.filter]
  | cons name rest ih =>
    rw [List.foldl_cons, ih]
    simp only [sweep, Table.filter, List.filter_filter]
    congr 2
    refine List.filter_congr fun entry _ => ?_
    by_cases fresh : now < entry.2.expiresAt <;> by_cases same : entry.1 = name <;>
      simp [fresh, same]

/-- A look for what has expired is a look at each of some names among which are all that
there is something under. -/
theorem cleanUp_eq_sweeps {names : List String}
    (covers : ∀ entry ∈ mailbox.messages.entries, entry.1 ∈ names) :
    mailbox.cleanUp now = names.foldl (sweep · now) mailbox := by
  rw [foldl_sweep, cleanUp]
  congr 1
  simp only [Table.filter]
  congr 1
  refine List.filter_congr fun entry member => ?_
  simp [covers entry member]

/-! ### Runs of operations -/

theorem Coherent.after (coherent : Coherent digest mailbox) (action : Action) :
    Coherent digest (mailbox.after digest action) := by
  cases action with
  | createTopic topic =>
    rw [after_createTopic]
    split_ifs with valid
    · exact coherent.putTopic valid.2
    · exact coherent
  | registerNode node topic =>
    rw [after_registerNode]
    split_ifs
    · exact (coherent.putNode node).addSubscriber topic node.name
    · exact coherent
  | publish now topic payload =>
    cases there : mailbox.topics.contains topic with
    | false =>
      simp only [Mailbox.after, publish_of_missing digest now payload there]
      exact coherent
    | true =>
      cases later : now.addSeconds mailbox.lifetime with
      | error crash =>
        have crashed : mailbox.publish digest now topic payload = .error crash := by
          rw [publish, if_pos there, makeMessage, later]
          rfl
        simp only [Mailbox.after, crashed]
        exact coherent
      | ok expiresAt =>
        rw [after_publish (publish_of_contains digest payload there later)]
        exact coherent.putMessage ⟨rfl, rfl, addSeconds_eq_ok later, there⟩
  | putResult kind request payload =>
    rw [after_putResult]
    split_ifs
    · exact coherent.keepResult ⟨kind, request, payload⟩
    · exact coherent
  | cleanUp now => exact coherent.filter _

theorem Coherent.run (coherent : Coherent digest mailbox) (actions : List Action) :
    Coherent digest (mailbox.run digest actions) := by
  induction actions generalizing mailbox with
  | nil => exact coherent
  | cons action rest ih => exact ih (coherent.after action)

end Resharing.Mailbox
