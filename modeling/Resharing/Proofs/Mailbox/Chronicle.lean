import Mathlib.Data.List.DropRight
import Resharing.Proofs.Mailbox.History
import Resharing.Proofs.Mailbox.Interleaving

/-!
# Topics, nodes and results told from the past

What is looked up in a mailbox can be told from the actions that were met, without the tables.
A topic is there once somebody has created it or has been registered on it. Its subscribers are
those whom it was last created with and, behind them, the others who came since, each once and
in the order in which they came first. Of a node and of a result the last word counts. Messages
play no part in any of this.

Creating a topic anew forgets whoever had been registered, while registering only ever adds, so
the subscribers depend on how the two are interleaved. An action that was refused, or that
crashed, is not part of the past.

## Main definitions

* `Mailbox.meets`, `Mailbox.met`: the actions of a sequence that were met
* `Mailbox.lastTold`, `Mailbox.sinceCreation`: the last word of a past, and what came after a
  creation
* `Mailbox.subscribersTold`: the subscribers that a past tells
* `Mailbox.Retells`: a mailbox answers as its past tells

## Main results

* `Mailbox.after_of_not_meets`: what is not met changes nothing
* `Mailbox.subscribersTold_concat`: what one more action does to the subscribers
* `Mailbox.subscribersOf_after`, `Mailbox.find?_nodes_after`, `Mailbox.find?_results_after`:
  what it does to the tables
* `Mailbox.retells_run`: along every sequence of actions the mailbox answers as its past tells
* `Mailbox.history_tells_lookups`: topics, nodes and results, told from the past
-/

namespace Resharing.Mailbox

/-! ### What was met -/

/-- Whether the mailbox meets an action. If not, the action is refused, or it crashes. -/
def meets (digest : Bytes → Bytes) (mailbox : Mailbox) : Action → Bool
  | .createTopic topic => (mailbox.createTopic topic).isOk
  | .registerNode node topic => (mailbox.registerNode node topic).isOk
  | .publish now topic payload =>
    match mailbox.publish digest now topic payload with
    | .ok (.ok _) => true
    | _ => false
  | .putResult kind request payload => (mailbox.putResult kind request payload).isOk
  | .cleanUp _ => true

/-- Those of some actions that are met, each by the mailbox that the earlier ones leave. -/
def met (digest : Bytes → Bytes) (mailbox : Mailbox) : List Action → List Action
  | [] => []
  | action :: rest =>
    (if mailbox.meets digest action then [action] else []) ++
      met digest (mailbox.after digest action) rest

variable {digest : Bytes → Bytes} {mailbox : Mailbox} {lifetime : Int} {action : Action}
  {actions past : List Action} {topic name kind request : String} {given names : List String}

theorem meets_createTopic {created : Topic} :
    mailbox.meets digest (.createTopic created) = true ↔
      created.name ≠ "" ∧ created.subscribers ≠ [] := by
  by_cases unnamed : created.name = "" <;> by_cases empty : created.subscribers = [] <;>
    simp [meets, createTopic, unnamed, empty, Except.isOk, Except.toBool]

theorem meets_registerNode {node : Subscriber} :
    mailbox.meets digest (.registerNode node topic) = true ↔
      node.name ≠ "" ∧ node.address ≠ "" := by
  by_cases unnamed : node.name = "" <;> by_cases nowhere : node.address = "" <;>
    simp [meets, registerNode, unnamed, nowhere, Except.isOk, Except.toBool]

theorem meets_putResult {payload : Bytes} :
    mailbox.meets digest (.putResult kind request payload) = true ↔ request ≠ "" := by
  by_cases unnamed : request = "" <;>
    simp [meets, putResult, unnamed, Except.isOk, Except.toBool]

/-- What is not met changes nothing. -/
theorem after_of_not_meets (unmet : mailbox.meets digest action = false) :
    mailbox.after digest action = mailbox := by
  cases action with
  | createTopic created =>
    rw [after_createTopic, if_neg]
    exact fun valid => Bool.noConfusion (unmet.symm.trans (meets_createTopic.mpr valid))
  | registerNode node topic =>
    rw [after_registerNode, if_neg]
    exact fun valid => Bool.noConfusion (unmet.symm.trans (meets_registerNode.mpr valid))
  | publish now topic payload =>
    cases published : mailbox.publish digest now topic payload with
    | error crash => simp only [after, published]
    | ok result =>
      cases result with
      | error error => simp only [after, published]
      | ok result => simp [meets, published] at unmet
  | putResult kind request payload =>
    rw [after_putResult, if_neg]
    exact fun named => Bool.noConfusion (unmet.symm.trans (meets_putResult.mpr named))
  | cleanUp now => cases unmet

theorem met_concat (digest : Bytes → Bytes) (mailbox : Mailbox) (actions : List Action)
    (action : Action) :
    met digest mailbox (actions ++ [action]) = met digest mailbox actions ++
      if (mailbox.run digest actions).meets digest action then [action] else [] := by
  induction actions generalizing mailbox with
  | nil => exact List.append_nil _
  | cons first rest ih =>
    rw [List.cons_append, met, met, ih, List.append_assoc]
    rfl

theorem met_sublist (digest : Bytes → Bytes) (mailbox : Mailbox) (actions : List Action) :
    (met digest mailbox actions).Sublist actions := by
  induction actions generalizing mailbox with
  | nil => exact .slnil
  | cons action rest ih =>
    rw [met]
    split_ifs
    · exact (ih _).cons_cons action
    · exact (ih _).cons action

/-! ### What the past tells -/

namespace Action

/-- With whom the action creates the topic, if it does. -/
def given? (topic : String) : Action → Option (List String)
  | .createTopic created => if created.name = topic then some created.subscribers else none
  | _ => none

/-- Who is registered on the topic by the action, if anybody is. -/
def joining? (topic : String) : Action → Option String
  | .registerNode node registered => if registered = topic then some node.name else none
  | _ => none

/-- Which address the action gives to the node, on whatever topic. -/
def address? (name : String) : Action → Option String
  | .registerNode node _ => if node.name = name then some node.address else none
  | _ => none

/-- What the action puts under exactly this kind and request. -/
def payload? (kind request : String) : Action → Option Bytes
  | .putResult ofKind ofRequest payload =>
    if ofKind = kind ∧ ofRequest = request then some payload else none
  | _ => none

/-- The action creates the topic or registers somebody on it. -/
def Names (topic : String) (action : Action) : Prop :=
  (action.given? topic).isSome ∨ (action.joining? topic).isSome

end Action

/-- The last thing of some kind that is told by a past. -/
def lastTold {α : Type} (tells : Action → Option α) (past : List Action) : Option α :=
  (past.filterMap tells).getLast?

/-- What has happened since the topic was last created; everything, if it never was. -/
def sinceCreation (topic : String) (past : List Action) : List Action :=
  past.rtakeWhile fun action => (action.given? topic).isNone

/-- Some subscribers and behind them, each once, the names that are not among them. -/
def enrol (given names : List String) : List String :=
  given ++ (names.filter fun name => name ∉ given).eraseDups

/-- The subscribers of a topic that a past tells: those whom it was last created with, and those
who have been registered on it since. -/
def subscribersTold (topic : String) (past : List Action) : List String :=
  enrol ((lastTold (Action.given? topic) past).getD [])
    ((sinceCreation topic past).filterMap (Action.joining? topic))

theorem lastTold_concat {α : Type} (tells : Action → Option α) (past : List Action)
    (action : Action) :
    lastTold tells (past ++ [action]) = (tells action).or (lastTold tells past) := by
  rw [lastTold, List.filterMap_append, List.getLast?_append, lastTold]
  cases told : tells action <;> simp [told]

theorem enrol_nil (given : List String) : enrol given [] = given := by
  simp [enrol]

/-- Enrolling one more is subscribing: whoever is there already is not added again. -/
theorem enrol_concat (topic : String) (given names : List String) (name : String) :
    enrol given (names ++ [name]) =
      (subscribe ⟨topic, enrol given names⟩ name).subscribers := by
  have there : name ∈ enrol given names ↔ name ∈ given ∨ name ∈ names := by
    simp only [enrol, List.mem_append, List.mem_eraseDups, List.mem_filter, decide_eq_true_eq]
    tauto
  unfold subscribe
  -- Whoever was given is filtered out, and whoever enrolled before is dropped as a duplicate.
  by_cases known : name ∈ given
  · rw [if_pos (there.mpr (.inl known))]
    simp [enrol, List.filter_append, known]
  · by_cases old : name ∈ names
    · rw [if_pos (there.mpr (.inr old))]
      simp [enrol, List.filter_append, List.eraseDups_append, known, old, List.removeAll]
    · rw [if_neg (by simp [there, known, old])]
      simp [enrol, List.filter_append, List.eraseDups_append, List.eraseDups_cons, known, old,
        List.removeAll]

/-- A creation replaces the subscribers, a registration adds to them, and nothing else bears on
them. -/
theorem subscribersTold_concat (topic : String) (past : List Action) (action : Action) :
    subscribersTold topic (past ++ [action]) =
      match action.given? topic, action.joining? topic with
      | some given, _ => given
      | none, some name => (subscribe ⟨topic, subscribersTold topic past⟩ name).subscribers
      | none, none => subscribersTold topic past := by
  rw [subscribersTold, lastTold_concat, sinceCreation, List.rtakeWhile_concat]
  cases given : action.given? topic with
  | some given => simp [enrol_nil]
  | none =>
    cases joining : action.joining? topic with
    | some name => simp [joining, ← enrol_concat, subscribersTold, sinceCreation]
    | none => simp [joining, subscribersTold, sinceCreation]

/-! ### One action and the tables -/

/-- An action that is met opens exactly the topics that it names. -/
theorem opens_iff_names (fits : mailbox.meets digest action = true) :
    action.Opens topic ↔ action.Names topic := by
  cases action with
  | createTopic created =>
    have valid := meets_createTopic.mp fits
    simp [Action.Opens, Action.Names, Action.given?, Action.joining?, valid.1, valid.2]
  | registerNode node registered =>
    have valid := meets_registerNode.mp fits
    simp [Action.Opens, Action.Names, Action.given?, Action.joining?, valid.1, valid.2]
  | _ => simp [Action.Opens, Action.Names, Action.given?, Action.joining?]

/-- A publication touches nothing but the messages. -/
theorem exists_messages_publish (digest : Bytes → Bytes) (mailbox : Mailbox) (now : Instant)
    (topic : String) (payload : Bytes) :
    ∃ messages, mailbox.after digest (.publish now topic payload) =
      { mailbox with messages := messages } := by
  cases published : mailbox.publish digest now topic payload with
  | error crash => exact ⟨mailbox.messages, by simp only [after, published]⟩
  | ok result =>
    cases result with
    | error error => exact ⟨mailbox.messages, by simp only [after, published]⟩
    | ok result =>
      obtain ⟨name, next⟩ := result
      obtain ⟨expiresAt, -, -, rfl⟩ := publish_eq_ok published
      exact ⟨_, after_publish published⟩

/-- What an action that is met does to the subscribers of a topic. -/
theorem subscribersOf_after (fits : mailbox.meets digest action = true) (topic : String) :
    (mailbox.after digest action).subscribersOf topic =
      match action.given? topic, action.joining? topic with
      | some given, _ => given
      | none, some name => (subscribe ⟨topic, mailbox.subscribersOf topic⟩ name).subscribers
      | none, none => mailbox.subscribersOf topic := by
  cases action with
  | createTopic created =>
    rw [after_createTopic, if_pos (meets_createTopic.mp fits), subscribersOf_create]
    by_cases own : created.name = topic <;> simp [Action.given?, Action.joining?, own]
  | registerNode node registered =>
    rw [after_registerNode, if_pos (meets_registerNode.mp fits), subscribersOf_subscribe]
    by_cases own : registered = topic <;> simp only [Action.given?, Action.joining?, own, if_true,
      if_false] <;> rfl
  | publish now published payload =>
    obtain ⟨messages, same⟩ := exists_messages_publish digest mailbox now published payload
    rw [same]
    rfl
  | putResult kind request payload =>
    rw [after_putResult, if_pos (meets_putResult.mp fits)]
    rfl
  | cleanUp now => rfl

/-- What an action that is met does to a node. -/
theorem find?_nodes_after (fits : mailbox.meets digest action = true) (name : String) :
    (mailbox.after digest action).nodes.find? name =
      ((action.address? name).map (⟨name, ·⟩)).or (mailbox.nodes.find? name) := by
  cases action with
  | createTopic created =>
    rw [after_createTopic, if_pos (meets_createTopic.mp fits)]
    rfl
  | registerNode node registered =>
    rw [after_registerNode, if_pos (meets_registerNode.mp fits)]
    simp only [addSubscriber, putNode, Table.find?_insert, Action.address?, beq_iff_eq,
      eq_comm (a := name)]
    split_ifs with own
    · subst own
      rfl
    · rfl
  | publish now published payload =>
    obtain ⟨messages, same⟩ := exists_messages_publish digest mailbox now published payload
    rw [same]
    rfl
  | putResult kind request payload =>
    rw [after_putResult, if_pos (meets_putResult.mp fits)]
    rfl
  | cleanUp now => rfl

/-- What an action that is met does to a result. -/
theorem find?_results_after (fits : mailbox.meets digest action = true) (kind request : String) :
    (mailbox.after digest action).results.find? (kind, request) =
      ((action.payload? kind request).map (⟨kind, request, ·⟩)).or
        (mailbox.results.find? (kind, request)) := by
  cases action with
  | createTopic created =>
    rw [after_createTopic, if_pos (meets_createTopic.mp fits)]
    rfl
  | registerNode node registered =>
    rw [after_registerNode, if_pos (meets_registerNode.mp fits)]
    rfl
  | publish now published payload =>
    obtain ⟨messages, same⟩ := exists_messages_publish digest mailbox now published payload
    rw [same]
    rfl
  | putResult ofKind ofRequest payload =>
    rw [after_putResult, if_pos (meets_putResult.mp fits)]
    simp only [keepResult, Table.find?_insert, Action.payload?, beq_iff_eq, Prod.mk.injEq,
      eq_comm (a := kind), eq_comm (a := request)]
    split_ifs with own
    · obtain ⟨rfl, rfl⟩ := own
      rfl
    · rfl
  | cleanUp now => rfl

/-! ### The mailbox answers as its past tells -/

/-- A mailbox answers as its past tells. -/
structure Retells (past : List Action) (mailbox : Mailbox) : Prop where
  topics : ∀ topic,
    mailbox.topics.contains topic = true ↔ ∃ action ∈ past, action.Names topic
  subscribers : ∀ topic, mailbox.subscribersOf topic = subscribersTold topic past
  nodes : ∀ name,
    mailbox.nodes.find? name = (lastTold (Action.address? name) past).map (⟨name, ·⟩)
  results : ∀ kind request, mailbox.results.find? (kind, request) =
    (lastTold (Action.payload? kind request) past).map (⟨kind, request, ·⟩)

theorem retells_start (lifetime : Int) : Retells [] (start lifetime) where
  topics topic := by
    refine iff_of_false Bool.false_ne_true ?_
    rintro ⟨_, member, -⟩
    exact absurd member List.not_mem_nil
  subscribers topic := rfl
  nodes name := rfl
  results kind request := rfl

/-- What is met becomes part of the past. -/
theorem Retells.after (retells : Retells past mailbox)
    (fits : mailbox.meets digest action = true) :
    Retells (past ++ [action]) (mailbox.after digest action) where
  topics topic := by
    rw [contains_after, opens_iff_names fits, retells.topics]
    simp only [List.mem_append, List.mem_singleton, or_and_right, exists_or, exists_eq_left]
  subscribers topic := by
    rw [subscribersOf_after fits, subscribersTold_concat, retells.subscribers]
  nodes name := by
    rw [find?_nodes_after fits, lastTold_concat, retells.nodes, Option.map_or]
  results kind request := by
    rw [find?_results_after fits, lastTold_concat, retells.results, Option.map_or]

/-- Along every sequence of actions the mailbox answers as what was met tells. -/
theorem retells_run (digest : Bytes → Bytes) (lifetime : Int) (actions : List Action) :
    Retells (met digest (start lifetime) actions) (ofActions digest lifetime actions) := by
  -- From the end: the last action is met, or not, by the mailbox of all that came before.
  induction actions using List.reverseRecOn with
  | nil => exact retells_start lifetime
  | append_singleton actions action ih =>
    rw [met_concat, ofActions_concat]
    change Retells (_ ++ if meets digest (ofActions digest lifetime actions) action = true then
      [action] else []) _
    cases fits : (ofActions digest lifetime actions).meets digest action with
    | true => exact ih.after fits
    | false =>
      rw [after_of_not_meets fits, if_neg Bool.false_ne_true, List.append_nil]
      exact ih

/-! ### What is looked up -/

theorem getTopic_eq_error_iff : mailbox.getTopic topic = .error (.noTopic topic) ↔
    mailbox.topics.contains topic = false := by
  unfold getTopic Table.contains
  cases mailbox.topics.find? topic <;> simp

/-- A topic that is there is found under its name, with its subscribers. -/
theorem Coherent.getTopic_eq_ok (coherent : Coherent digest mailbox)
    (there : mailbox.topics.contains topic = true) :
    mailbox.getTopic topic = .ok ⟨topic, mailbox.subscribersOf topic⟩ := by
  obtain ⟨known, found⟩ := Option.isSome_iff_exists.mp there
  have named := (coherent.topics.find? found).1
  rw [getTopic, subscribersOf, found]
  subst named
  rfl

/-- Lookups of topics, nodes and results have the same answers in two mailboxes. -/
structure SameLookups (left right : Mailbox) : Prop where
  topics : left.getTopic = right.getTopic
  nodes : left.getNode = right.getNode
  results : left.getResult = right.getResult

theorem sameLookups_messages (mailbox : Mailbox) (messages : Table String Message) :
    SameLookups { mailbox with messages := messages } mailbox :=
  ⟨rfl, rfl, rfl⟩

/-- Topics, nodes and results, told from the past. A topic is missing exactly if nothing that
was met has named it. Otherwise it has the subscribers whom it was last created with and, behind
them, each once and in the order in which they first came, the others who were registered since.
A node has the address that it was last registered with, on whatever topic, and a result is what
was last put under exactly its kind and request. Publications and looks for what has expired
change none of this. -/
theorem history_tells_lookups (digest : Bytes → Bytes) (lifetime : Int)
    (actions : List Action) :
    let mailbox := ofActions digest lifetime actions
    let past := met digest (start lifetime) actions
    (∀ topic,
      (mailbox.getTopic topic = .error (.noTopic topic) ↔
        ¬ ∃ action ∈ past, action.Names topic) ∧
      (mailbox.getTopic topic = .ok ⟨topic, subscribersTold topic past⟩ ↔
        ∃ action ∈ past, action.Names topic)) ∧
    (∀ name, mailbox.getNode name =
      match lastTold (Action.address? name) past with
      | some address => .ok ⟨name, address⟩
      | none => .error (.noNode name)) ∧
    (∀ kind request, mailbox.getResult kind request =
      match lastTold (Action.payload? kind request) past with
      | some payload => .ok ⟨kind, request, payload⟩
      | none => .error (.noResult kind request)) ∧
    (∀ now topic payload,
      SameLookups (mailbox.after digest (.publish now topic payload)) mailbox) ∧
    ∀ now, SameLookups (mailbox.after digest (.cleanUp now)) mailbox := by
  intro mailbox past
  have retells : Retells past mailbox := retells_run digest lifetime actions
  have coherent : Coherent digest mailbox := (coherent_start digest lifetime).run actions
  have missing (topic : String) : mailbox.getTopic topic = .error (.noTopic topic) ↔
      ¬ ∃ action ∈ past, action.Names topic := by
    rw [getTopic_eq_error_iff, ← retells.topics, Bool.not_eq_true]
  refine ⟨fun topic => ⟨missing topic, fun found => ?_, fun named => ?_⟩, fun name => ?_,
    fun kind request => ?_, fun now topic payload => ?_, fun now => ?_⟩
  · by_contra unnamed
    exact nomatch ((missing topic).mpr unnamed).symm.trans found
  · rw [coherent.getTopic_eq_ok ((retells.topics topic).mpr named), retells.subscribers]
  · rw [getNode, retells.nodes]
    cases lastTold (Action.address? name) past <;> rfl
  · rw [getResult, retells.results]
    cases lastTold (Action.payload? kind request) past <;> rfl
  · obtain ⟨messages, same⟩ := exists_messages_publish digest mailbox now topic payload
    rw [same]
    exact sameLookups_messages mailbox messages
  · exact sameLookups_messages mailbox _

/-- Who came before the topic was created anew is forgotten, and a name that was given twice
stays twice. -/
example : (ofActions id 1 [.registerNode ⟨"a", "x"⟩ "t", .createTopic ⟨"t", ["z", "z"]⟩,
    .registerNode ⟨"b", "x"⟩ "t", .registerNode ⟨"z", "x"⟩ "t", .registerNode ⟨"c", ""⟩ "t",
    .registerNode ⟨"b", "y"⟩ "t"]).getTopic "t" = .ok ⟨"t", ["z", "z", "b"]⟩ := by
  decide +kernel

end Resharing.Mailbox
