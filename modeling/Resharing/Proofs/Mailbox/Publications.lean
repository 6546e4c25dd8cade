import Mathlib.Data.List.Dedup
import Resharing.Proofs.Mailbox.Chronicle

/-!
# What is left of the publications on a topic

A message lies in the mailbox from its publication until something displaces it: a publication
whose message bears the same name, or a look that finds it expired. The same content published
again on the topic bears the same name, and the message is only made younger by that. But the name
can also be that of a message on another topic, one that goes on behind this topic and a colon.
Then nothing is left of the message.

Nothing is asked here of the topics or of the order of the actions. Only to tell in which order
the contents are read, the publications on the topic have to come at ever later times.

## Main definitions

* `Mailbox.publications`: when and what was published on a topic
* `Mailbox.publishedContents`: what was published on it, in the order of the last publications
* `Mailbox.Action.Displaces`: an action that puts a message away
* `Mailbox.Remains`: a message was published at a time, and nothing has displaced it since
* `Mailbox.Recalls`: what lies in a mailbox is what remains of its past
* `Mailbox.Timely`: no look for what has expired comes too late for a content
* `Mailbox.LeftOf`: contents that are left of the publications on a topic

## Main results

* `Mailbox.remains_concat`, `Mailbox.Coherent.lies_after_met`: what one more action does to a
  message, in the past and in the table
* `Mailbox.Recalls.after`: mailboxes recall their past
* `Mailbox.Recalls.mem_contents_iff`, `Mailbox.Recalls.contents_sublist`: which contents are read
  on a topic, and in which order
* `Mailbox.Recalls.contents_eq_iff`: when all that was published is read
* `Mailbox.exists_remains`: where topics are apart only expiry puts messages away
* `Mailbox.Recalls.leftOf`: what is read on a topic is what is left of the publications on it
-/

namespace Resharing.Mailbox

/-! ### The past -/

/-- When and what the action publishes on the topic, if it does. -/
def Action.publication? (topic : String) : Action → Option (Instant × Bytes)
  | .publish now other payload => if other = topic then some (now, payload) else none
  | _ => none

/-- When and what was published on a topic, in order. -/
def publications (topic : String) (past : List Action) : List (Instant × Bytes) :=
  past.filterMap (Action.publication? topic)

/-- The contents that were published on a topic, each once, in the order in which they were last
published. -/
def publishedContents (topic : String) (past : List Action) : List Bytes :=
  ((publications topic past).map Prod.snd).dedup

/-- The action puts away a message that was published on a topic at a time. -/
def Action.Displaces (lifetime : Int) (topic : String) (payload : Bytes) (time : Instant) :
    Action → Prop
  | .publish _ other content => preimage other content = preimage topic payload
  | .cleanUp now => time + lifetime * nanosPerSecond ≤ now
  | _ => False

/-- A message was published on a topic at a time, and nothing has displaced it since. -/
def Remains (lifetime : Int) (past : List Action) (topic : String) (payload : Bytes)
    (time : Instant) : Prop :=
  ∃ before later, past = before ++ .publish time topic payload :: later ∧
    ∀ action ∈ later, ¬ action.Displaces lifetime topic payload time

variable {digest : Bytes → Bytes} {mailbox : Mailbox} {lifetime : Int} {action : Action}
  {past : List Action} {topic other : String} {payload content : Bytes} {now time : Instant}

theorem Action.publication?_eq_some_iff :
    action.publication? topic = some (now, payload) ↔ action = .publish now topic payload := by
  cases action with
  | publish when other content =>
    by_cases same : other = topic <;> simp [publication?, same, and_comm]
  | _ => simp [publication?]

theorem mem_publications_iff :
    (time, payload) ∈ publications topic past ↔ .publish time topic payload ∈ past := by
  simp only [publications, List.mem_filterMap, Action.publication?_eq_some_iff]
  exact ⟨fun ⟨_, member, same⟩ => same ▸ member, fun member => ⟨_, member, rfl⟩⟩

theorem mem_publishedContents_iff :
    payload ∈ publishedContents topic past ↔ ∃ time, .publish time topic payload ∈ past := by
  rw [publishedContents, List.mem_dedup]
  constructor
  · intro member
    obtain ⟨⟨time, _⟩, there, rfl⟩ := List.mem_map.mp member
    exact ⟨time, mem_publications_iff.mp there⟩
  · rintro ⟨time, there⟩
    exact List.mem_map.mpr ⟨_, mem_publications_iff.mpr there, rfl⟩

/-- A publication displaces the message that it repeats. -/
theorem displaces_publish : (Action.publish now topic payload).Displaces lifetime topic payload
    time := rfl

/-- What one more action does to what remains. -/
theorem remains_concat : Remains lifetime (past ++ [action]) topic payload time ↔
    action = .publish time topic payload ∨
      Remains lifetime past topic payload time ∧
        ¬ action.Displaces lifetime topic payload time := by
  constructor
  · rintro ⟨before, later, split, undisplaced⟩
    rcases List.eq_nil_or_concat later with rfl | ⟨rest, last, rfl⟩
    · exact .inl (List.head_eq_of_cons_eq (List.append_inj' split rfl).2)
    · rw [List.concat_eq_append] at split undisplaced
      rw [← List.cons_append, ← List.append_assoc] at split
      obtain ⟨rfl, same⟩ := List.append_inj' split rfl
      obtain rfl := List.head_eq_of_cons_eq same
      refine .inr ⟨⟨before, rest, rfl, fun action member => ?_⟩, ?_⟩
      · exact undisplaced action (List.mem_append_left _ member)
      · exact undisplaced _ (List.mem_append_right _ List.mem_cons_self)
  · rintro (rfl | ⟨⟨before, later, rfl, undisplaced⟩, spared⟩)
    · exact ⟨past, [], rfl, by simp⟩
    · refine ⟨before, later ++ [action], by simp, fun other member => ?_⟩
      rcases List.mem_append.mp member with old | new
      · exact undisplaced other old
      · exact List.mem_singleton.mp new ▸ spared

/-! ### The table -/

/-- What an action that is met does to a message. -/
theorem Coherent.lies_after_met (coherent : Coherent digest mailbox)
    (injective : Function.Injective digest) (fits : mailbox.meets digest action = true) :
    Lies (mailbox.after digest action) topic payload time ↔
      action = .publish time topic payload ∨
        Lies mailbox topic payload time ∧
          ¬ action.Displaces mailbox.lifetime topic payload time := by
  cases action with
  | publish now other content =>
    cases published : mailbox.publish digest now other content with
    | error crash => simp [meets, published] at fits
    | ok result =>
      cases result with
      | error error => simp [meets, published] at fits
      | ok stored =>
        obtain ⟨name, next⟩ := stored
        rw [after_publish published]
        obtain ⟨expiresAt, -, rfl, rfl⟩ := publish_eq_ok published
        rw [coherent.lies_putMessage injective, Action.publish.injEq, and_comm]
        rfl
  | cleanUp now =>
    refine (lies_cleanUp coherent).trans ?_
    simp [Action.Displaces]
  | createTopic created =>
    rw [after_createTopic, if_pos (meets_createTopic.mp fits)]
    simp only [Action.Displaces, not_false_eq_true, and_true, reduceCtorEq, false_or]
    rfl
  | registerNode node registered =>
    rw [after_registerNode, if_pos (meets_registerNode.mp fits)]
    simp only [Action.Displaces, not_false_eq_true, and_true, reduceCtorEq, false_or]
    rfl
  | putResult kind request result =>
    rw [after_putResult, if_pos (meets_putResult.mp fits)]
    simp only [Action.Displaces, not_false_eq_true, and_true, reduceCtorEq, false_or]
    rfl

/-- What lies in a mailbox is what remains of its past. -/
structure Recalls (digest : Bytes → Bytes) (lifetime : Int) (past : List Action)
    (mailbox : Mailbox) : Prop where
  coherent : Coherent digest mailbox
  lifetime_eq : mailbox.lifetime = lifetime
  messages : ∀ topic payload time,
    Lies mailbox topic payload time ↔ Remains lifetime past topic payload time

theorem recalls_start (digest : Bytes → Bytes) (lifetime : Int) :
    Recalls digest lifetime [] (start lifetime) where
  coherent := coherent_start digest lifetime
  lifetime_eq := rfl
  messages topic payload time := by
    apply iff_of_false
    · rintro ⟨entry, member, -⟩
      exact List.not_mem_nil member
    · rintro ⟨before, later, split, -⟩
      exact List.append_ne_nil_of_right_ne_nil before (List.cons_ne_nil _ _) split.symm

theorem Recalls.after (recalls : Recalls digest lifetime past mailbox)
    (injective : Function.Injective digest) (fits : mailbox.meets digest action = true) :
    Recalls digest lifetime (past ++ [action]) (mailbox.after digest action) where
  coherent := recalls.coherent.after action
  lifetime_eq := (lifetime_after digest mailbox action).trans recalls.lifetime_eq
  messages topic payload time := by
    rw [recalls.coherent.lies_after_met injective fits, remains_concat, recalls.messages,
      recalls.lifetime_eq]

/-! ### Contents in the order of their last publications -/

/-- An entry behind which no equal value comes is kept. -/
theorem mem_pwFilter_of_last {entry : Instant × Bytes} {later : List (Instant × Bytes)}
    (before : List (Instant × Bytes)) (unrepeated : entry.2 ∉ later.map Prod.snd) :
    entry ∈ (before ++ entry :: later).pwFilter fun left right => left.2 ≠ right.2 := by
  induction before with
  | nil =>
    rw [List.nil_append, List.pwFilter_cons_of_pos]
    · exact List.mem_cons_self
    · intro other kept same
      apply unrepeated
      exact same ▸ List.mem_map_of_mem ((List.pwFilter_sublist later).subset kept)
  | cons first before ih =>
    by_cases kept : ∀ other ∈ (before ++ entry :: later).pwFilter fun left right =>
        left.2 ≠ right.2, first.2 ≠ other.2
    · rw [List.cons_append, List.pwFilter_cons_of_pos kept]
      exact List.mem_cons_of_mem first ih
    · rw [List.cons_append, List.pwFilter_cons_of_neg kept]
      exact ih

/-- Entries behind which no equal value comes have, at ever later times, their values in the
order of the values without duplicates. -/
theorem sublist_dedup {all kept : List (Instant × Bytes)}
    (ascending : all.Pairwise fun left right => left.1 < right.1)
    (ordered : kept.Pairwise fun left right => left.1 < right.1)
    (last : ∀ entry ∈ kept, ∃ before later,
      all = before ++ entry :: later ∧ entry.2 ∉ later.map Prod.snd) :
    (kept.map Prod.snd).Sublist (all.map Prod.snd).dedup := by
  rw [List.dedup, List.pwFilter_map]
  apply List.Sublist.map
  have irreflexive : Std.Irrefl fun left right : Instant × Bytes => left.1 < right.1 :=
    ⟨fun entry => Int.lt_irrefl entry.1⟩
  have antisymmetric : Std.Antisymm fun left right : Instant × Bytes => left.1 < right.1 :=
    ⟨fun _ _ less greater => absurd (Int.lt_trans less greater) (Int.lt_irrefl _)⟩
  -- Both are in the order of their times, so it is enough to compare their members.
  refine List.sublist_of_subperm_of_pairwise (List.subperm_of_subset ordered.nodup ?_) ordered
    (ascending.sublist (List.pwFilter_sublist all))
  intro entry member
  obtain ⟨before, later, rfl, unrepeated⟩ := last entry member
  exact mem_pwFilter_of_last before unrepeated

/-- A message that remains was not published again on its topic. -/
theorem Remains.last (remains : Remains lifetime past topic payload time) :
    ∃ before later, publications topic past = before ++ (time, payload) :: later ∧
      payload ∉ later.map Prod.snd := by
  obtain ⟨before, later, rfl, undisplaced⟩ := remains
  refine ⟨publications topic before, publications topic later, ?_, fun member => ?_⟩
  · rw [publications, List.filterMap_append, List.filterMap_cons_some
      (Action.publication?_eq_some_iff.mpr rfl)]
    rfl
  · obtain ⟨⟨again, _⟩, published, rfl⟩ := List.mem_map.mp member
    exact undisplaced _ (mem_publications_iff.mp published) displaces_publish

theorem Remains.published (remains : Remains lifetime past topic payload time) :
    (time, payload) ∈ publications topic past := by
  obtain ⟨before, later, split, -⟩ := remains.last
  exact split ▸ List.mem_append_right before List.mem_cons_self

namespace Recalls

variable (recalls : Recalls digest lifetime past mailbox)

include recalls

theorem mem_messagesOf {message : Message} (member : message ∈ mailbox.messagesOf topic) :
    Remains lifetime past topic message.payload message.createdAt := by
  apply (recalls.messages ..).mp
  exact (recalls.coherent.mem_messagesOf_iff.mp member).1

/-- Read are the contents that remain. -/
theorem mem_contents_iff :
    payload ∈ (mailbox.messagesOf topic).map (·.payload) ↔
      ∃ time, Remains lifetime past topic payload time := by
  constructor
  · intro member
    obtain ⟨message, there, rfl⟩ := List.mem_map.mp member
    exact ⟨message.createdAt, recalls.mem_messagesOf there⟩
  · rintro ⟨time, remains⟩
    have lies := (recalls.messages topic payload time).mpr remains
    let message : Message := ⟨nameWith digest topic payload, topic, payload, time,
      time + mailbox.lifetime * nanosPerSecond⟩
    have there : message ∈ mailbox.messagesOf topic :=
      recalls.coherent.mem_messagesOf_iff.mpr ⟨lies, rfl⟩
    exact List.mem_map_of_mem there

/-- They are read in the order of their last publications. -/
theorem contents_sublist
    (ascending : (publications topic past).Pairwise fun left right => left.1 < right.1) :
    ((mailbox.messagesOf topic).map (·.payload)).Sublist (publishedContents topic past) := by
  have ordered : ((mailbox.messagesOf topic).map fun message =>
      (message.createdAt, message.payload)).Pairwise fun left right => left.1 < right.1 := by
    have distinct := List.pairwise_map.mp (recalls.coherent.nodup_payloads topic)
    refine List.pairwise_map.mpr
      (((ascending_messagesOf mailbox topic).and distinct).imp_of_mem ?_)
    rintro left right first second ⟨earlier, differ⟩
    refine Int.lt_iff_le_and_ne.mpr ⟨earlier, fun same => differ ?_⟩
    have early := (recalls.mem_messagesOf first).published
    have late := (recalls.mem_messagesOf second).published
    have times : ((publications topic past).map Prod.fst).Nodup :=
      (List.pairwise_map.mpr ascending).imp Int.ne_of_lt
    exact congrArg Prod.snd (List.inj_on_of_nodup_map times early late same)
  have whole := sublist_dedup ascending ordered fun entry member => by
    obtain ⟨message, there, rfl⟩ := List.mem_map.mp member
    exact (recalls.mem_messagesOf there).last
  rwa [List.map_map] at whole

/-- All that was published is read if all of it remains. -/
theorem contents_eq_iff
    (ascending : (publications topic past).Pairwise fun left right => left.1 < right.1) :
    (mailbox.messagesOf topic).map (·.payload) = publishedContents topic past ↔
      ∀ payload ∈ publishedContents topic past,
        ∃ time, Remains lifetime past topic payload time := by
  constructor
  · intro whole payload published
    rwa [← recalls.mem_contents_iff, whole]
  · intro all
    apply (recalls.contents_sublist ascending).eq_of_length_le
    apply List.Subperm.length_le
    apply List.subperm_of_subset (List.nodup_dedup _)
    exact fun payload published => recalls.mem_contents_iff.mpr (all payload published)

end Recalls

/-! ### Only expiry puts messages away where topics are apart -/

/-- No look for what has expired comes when the last publication of a content on the topic has. -/
def Timely (lifetime : Int) (past : List Action) (topic : String) (payload : Bytes) : Prop :=
  ∀ before time later, past = before ++ .publish time topic payload :: later →
    (∀ now, .publish now topic payload ∉ later) →
      ∀ now, .cleanUp now ∈ later → now < time + lifetime * nanosPerSecond

theorem Timely.of_concat (timely : Timely lifetime (past ++ [action]) topic payload)
    (new : ∀ now, action ≠ .publish now topic payload) :
    Timely lifetime past topic payload := by
  rintro before time later rfl unrepeated now cleaned
  refine timely before time (later ++ [action]) (by simp) (fun now again => ?_) now
    (List.mem_append_left _ cleaned)
  rcases List.mem_append.mp again with old | last
  · exact unrepeated now old
  · exact new now (List.mem_singleton.mp last).symm

/-- What was published on a topic remains there if what else is published is on topics apart from
it, until it expires. -/
theorem exists_remains (published : payload ∈ publishedContents topic past)
    (apart : ∀ now other content, .publish now other content ∈ past →
      other ≠ topic → Apart topic other)
    (timely : Timely lifetime past topic payload) :
    ∃ time, Remains lifetime past topic payload time := by
  -- From the last action back: it publishes the same again, or must not displace what was there.
  induction past using List.reverseRecOn with
  | nil => exact absurd published List.not_mem_nil
  | append_singleton past action ih =>
    by_cases again : ∃ now, action = .publish now topic payload
    · obtain ⟨now, same⟩ := again
      exact ⟨now, remains_concat.mpr (.inl same)⟩
    have new : ∀ now, action ≠ .publish now topic payload := not_exists.mp again
    have old : payload ∈ publishedContents topic past := by
      obtain ⟨now, member⟩ := mem_publishedContents_iff.mp published
      rcases List.mem_append.mp member with old | last
      · exact mem_publishedContents_iff.mpr ⟨now, old⟩
      · exact absurd (List.mem_singleton.mp last).symm (new now)
    obtain ⟨time, remains⟩ := ih old
      (fun now other content member => apart now other content (List.mem_append_left _ member))
      (timely.of_concat new)
    refine ⟨time, remains_concat.mpr (.inr ⟨remains, fun displaces => ?_⟩)⟩
    cases action with
    | publish now other content =>
      by_cases own : other = topic
      · subst own
        exact new now (by rw [preimage_inj.mp displaces])
      · have foreign := apart now other content (List.mem_append_right _ List.mem_cons_self) own
        exact foreign.preimage_ne (Ne.symm own) payload content displaces.symm
    | cleanUp now =>
      obtain ⟨before, later, rfl, undisplaced⟩ := remains
      refine Int.not_lt.mpr displaces (timely before time (later ++ [.cleanUp now]) (by simp) ?_ now
        (List.mem_append_right _ List.mem_cons_self))
      intro when repeated
      rcases List.mem_append.mp repeated with old | last
      · exact undisplaced _ old displaces_publish
      · exact nomatch List.mem_singleton.mp last
    | _ => exact displaces

/-- Some contents are what is left of the publications on a topic. -/
structure LeftOf (lifetime : Int) (past : List Action) (topic : String) (contents : List Bytes) :
    Prop where
  ordered : contents.Sublist (publishedContents topic past)
  remaining : ∀ payload, payload ∈ contents ↔ ∃ time, Remains lifetime past topic payload time
  /-- Nothing is missing if everything remains. -/
  whole : contents = publishedContents topic past ↔
    ∀ payload ∈ publishedContents topic past, ∃ time, Remains lifetime past topic payload time
  /-- Everything remains where others publish apart from the topic and nothing expires. -/
  undisturbed : (∀ now other content, .publish now other content ∈ past →
      other ≠ topic → Apart topic other) →
    (∀ payload, Timely lifetime past topic payload) → contents = publishedContents topic past

/-- What is read on a topic is what is left of the publications on it. -/
theorem Recalls.leftOf (recalls : Recalls digest lifetime past mailbox)
    (ascending : (publications topic past).Pairwise fun left right => left.1 < right.1) :
    LeftOf lifetime past topic ((mailbox.messagesOf topic).map (·.payload)) where
  ordered := recalls.contents_sublist ascending
  remaining _ := recalls.mem_contents_iff
  whole := recalls.contents_eq_iff ascending
  undisturbed apart timely := (recalls.contents_eq_iff ascending).mpr fun _ published =>
    exists_remains published apart (timely _)

/-- Looks for what has expired that come early enough for all publications are no matter. -/
theorem timely_of_early (early : ∀ now, .cleanUp now ∈ past → ∀ time,
    .publish time topic payload ∈ past → now < time + lifetime * nanosPerSecond) :
    Timely lifetime past topic payload := by
  rintro before time later rfl - now cleaned
  apply early now
  · exact List.mem_append_right before (List.mem_cons_of_mem _ cleaned)
  · exact List.mem_append_right before List.mem_cons_self

end Resharing.Mailbox
