import Resharing.Proofs.Mailbox.Requests

/-!
# Well-formed topics

A topic should have a name and subscribers, and nobody should subscribe to it twice. Two
operations write topics, and each of them sees to one half of this. A creation refuses the empty
name, but it takes the subscribers as they are given. A registration adds nobody twice, but it
opens whatever topic it is handed, the one without a name as well. Subscribers are there in any
case.

So whether a topic is well-formed can be told from the past: it has to have a name, and whoever
last created it must not have given anybody twice. Registrations do not make this worse, and
they do not mend it.

## Main definitions

* `Topic.WellFormed`: a topic has a name and distinct subscribers
* `Mailbox.WellKept`: every topic that is kept is well-formed
* `Mailbox.Action.Tidy`: the action leaves well-formed topics behind

## Main results

* `Mailbox.nodup_subscribersTold`: whether somebody comes twice
* `Mailbox.Retells.wellFormed_iff`, `Mailbox.wellKept_iff`: which topics are well-formed
* `Mailbox.wellKept_after_iff`: which actions leave all of them so
* `Mailbox.topics_wellFormed_iff`: along every run of actions, and so of a service
* `Mailbox.requests_reach_illFormed_topics`: requests that lead to topics that are not
-/

namespace Resharing

/-- A topic has a name and subscribers, and nobody subscribes to it twice. -/
structure Topic.WellFormed (topic : Topic) : Prop where
  named : topic.name ≠ ""
  inhabited : topic.subscribers ≠ []
  distinct : topic.subscribers.Nodup

namespace Mailbox

variable {digest : Bytes → Bytes} {mailbox : Mailbox} {lifetime : Int} {action : Action}
  {actions past : List Action} {topic : String} {given names : List String}

/-- Every topic that is kept is well-formed. -/
def WellKept (mailbox : Mailbox) : Prop :=
  ∀ entry ∈ mailbox.topics.entries, entry.2.WellFormed

/-- The action gives nobody twice, and it registers nobody on the topic without a name. -/
def Action.Tidy : Action → Prop
  | .createTopic created => created.subscribers.Nodup
  | .registerNode _ topic => topic ≠ ""
  | _ => True

/-! ### Who comes twice -/

private theorem nodup_eraseDups : ∀ names : List String, names.eraseDups.Nodup
  | [] => List.nodup_nil
  | name :: rest => by
    rw [List.eraseDups_cons, List.nodup_cons]
    exact ⟨by simp, nodup_eraseDups (rest.filter fun other => !other == name)⟩
termination_by names => names.length
decreasing_by exact Nat.lt_succ_of_le (List.length_filter_le _ _)

/-- Whoever enrols does not come twice by that. -/
theorem nodup_enrol : (enrol given names).Nodup ↔ given.Nodup := by
  rw [enrol, List.nodup_append']
  refine ⟨And.left, fun distinct => ⟨distinct, nodup_eraseDups _, fun name old new => ?_⟩⟩
  have fresh := (List.mem_filter.mp (List.mem_eraseDups.mp new)).2
  exact of_decide_eq_true fresh old

/-- Somebody subscribes twice to a topic only if it was last created like that. -/
theorem nodup_subscribersTold :
    (subscribersTold topic past).Nodup ↔ ((lastTold (Action.given? topic) past).getD []).Nodup :=
  nodup_enrol

/-! ### Which topics are well-formed -/

/-- What was met is met by some mailbox. -/
theorem exists_meets_of_mem_met (member : action ∈ met digest mailbox actions) :
    ∃ earlier : Mailbox, earlier.meets digest action = true := by
  induction actions generalizing mailbox with
  | nil => cases member
  | cons first rest ih =>
    rcases List.mem_append.mp member with here | later
    · split_ifs at here with fits
      · obtain rfl := List.mem_singleton.mp here
        exact ⟨mailbox, fits⟩
      · cases here
    · exact ih later

/-- The topic without a name is never created. -/
theorem given?_unnamed (fits : mailbox.meets digest action = true) :
    action.given? "" = none := by
  cases action with
  | createTopic created => exact if_neg (meets_createTopic.mp fits).1
  | _ => rfl

/-- What is kept under a name is the topic that the past tells. -/
theorem Retells.eq_of_mem (retells : Retells past mailbox) (coherent : Coherent digest mailbox)
    {entry : String × Topic} (member : entry ∈ mailbox.topics.entries) :
    entry.2 = ⟨entry.1, subscribersTold entry.1 past⟩ := by
  have found := coherent.topics.distinct.find?_of_mem member
  rw [← retells.subscribers, subscribersOf, found, ← (coherent.topics.suits entry member).1]
  rfl

/-- A topic is well-formed if it has a name and was last created with nobody twice. -/
theorem Retells.wellFormed_iff (retells : Retells past mailbox)
    (coherent : Coherent digest mailbox) {entry : String × Topic}
    (member : entry ∈ mailbox.topics.entries) :
    entry.2.WellFormed ↔
      entry.1 ≠ "" ∧ ((lastTold (Action.given? entry.1) past).getD []).Nodup := by
  have inhabited := (coherent.topics.suits entry member).2
  rw [retells.eq_of_mem coherent member] at inhabited ⊢
  rw [← nodup_subscribersTold]
  exact ⟨fun fits => ⟨fits.named, fits.distinct⟩, fun ⟨named, distinct⟩ =>
    ⟨named, inhabited, distinct⟩⟩

/-- A topic that was named by the past is kept. -/
theorem Retells.exists_entry (retells : Retells past mailbox) (member : action ∈ past)
    (names : action.Names topic) : ∃ kept, (topic, kept) ∈ mailbox.topics.entries := by
  have there := (retells.topics topic).mpr ⟨action, member, names⟩
  obtain ⟨kept, found⟩ := Option.isSome_iff_exists.mp there
  obtain ⟨before, later, split, -⟩ := List.lookup_eq_some_iff.mp found
  exact ⟨kept, split ▸ List.mem_append_right before List.mem_cons_self⟩

/-- Every topic is well-formed exactly if nobody was registered on the topic without a name and
no topic was last created with somebody twice. -/
theorem wellKept_iff (digest : Bytes → Bytes) (lifetime : Int) (actions : List Action) :
    WellKept (ofActions digest lifetime actions) ↔
      (∀ action ∈ met digest (start lifetime) actions, action.joining? "" = none) ∧
        ∀ topic, ((lastTold (Action.given? topic)
          (met digest (start lifetime) actions)).getD []).Nodup := by
  have retells : Retells _ (ofActions digest lifetime actions) :=
    retells_run digest lifetime actions
  have coherent : Coherent digest (ofActions digest lifetime actions) :=
    (coherent_start digest lifetime).run actions
  constructor
  · intro kept
    -- Either spoils the topic that it names, and that topic is still kept.
    refine ⟨fun action member => ?_, fun topic => ?_⟩
    · rw [Option.eq_none_iff_forall_ne_some]
      intro name joining
      have names : action.Names "" := .inr (Option.isSome_iff_exists.mpr ⟨name, joining⟩)
      obtain ⟨unnamed, among⟩ := retells.exists_entry member names
      exact ((retells.wellFormed_iff coherent among).mp (kept _ among)).1 rfl
    · cases told : lastTold (Action.given? topic) (met digest (start lifetime) actions) with
      | none => exact List.nodup_nil
      | some given =>
        obtain ⟨action, member, creates⟩ := List.mem_filterMap.mp (List.mem_of_getLast? told)
        obtain ⟨created, among⟩ := retells.exists_entry member
          (.inl (Option.isSome_iff_exists.mpr ⟨given, creates⟩))
        have distinct := ((retells.wellFormed_iff coherent among).mp (kept _ among)).2
        rwa [told] at distinct
  · rintro ⟨unjoined, distinct⟩ entry among
    refine (retells.wellFormed_iff coherent among).mpr ⟨?_, distinct entry.1⟩
    intro unnamed
    have there : (ofActions digest lifetime actions).topics.contains entry.1 = true :=
      Option.isSome_iff_exists.mpr ⟨_, coherent.topics.distinct.find?_of_mem among⟩
    obtain ⟨action, member, created | joined⟩ := (retells.topics entry.1).mp there
    · obtain ⟨earlier, fits⟩ := exists_meets_of_mem_met member
      rw [unnamed, given?_unnamed fits] at created
      cases created
    · rw [unnamed, unjoined action member] at joined
      cases joined

/-- What an action that is met leaves behind: all topics stay well-formed exactly if it is
tidy. -/
theorem wellKept_after_iff (kept : WellKept (ofActions digest lifetime actions))
    (fits : (ofActions digest lifetime actions).meets digest action = true) :
    WellKept ((ofActions digest lifetime actions).after digest action) ↔ action.Tidy := by
  have met_after : met digest (start lifetime) (actions ++ [action]) =
      met digest (start lifetime) actions ++ [action] := by
    rw [met_concat]
    exact congrArg _ (if_pos fits)
  obtain ⟨unjoined, distinct⟩ := (wellKept_iff digest lifetime actions).mp kept
  rw [← ofActions_concat, wellKept_iff, met_after]
  simp only [List.forall_mem_append, List.forall_mem_singleton, lastTold_concat]
  constructor
  · rintro ⟨⟨-, joining⟩, given⟩
    cases action with
    | createTopic created => simpa [Action.given?, Action.Tidy] using given created.name
    | registerNode node topic =>
      rintro rfl
      simp [Action.joining?] at joining
    | _ => trivial
  · intro tidy
    refine ⟨⟨unjoined, ?_⟩, fun topic => ?_⟩
    · cases action with
      | registerNode node topic => exact if_neg tidy
      | _ => rfl
    · cases action with
      | createTopic created =>
        by_cases own : created.name = topic
        · simpa [Action.given?, Action.Tidy, own] using tidy
        · simpa [Action.given?, own] using distinct topic
      | _ => exact distinct topic

/-- Which topics are well-formed, along every run of actions. A topic that is kept under a name
has that name and subscribers; it is well-formed exactly if the name is not empty and nobody
came twice when it was last created. So all of them are exactly if nobody was registered on the
topic without a name and no topic was last created with somebody twice. Where all of them are,
an action that is met leaves them so exactly if it is tidy. A service comes to nothing but such
runs. -/
theorem topics_wellFormed_iff (service : Service) (lifetime : Int) :
    (∀ actions,
      let mailbox := ofActions service.digest lifetime actions
      let past := met service.digest (start lifetime) actions
      (∀ entry ∈ mailbox.topics.entries, entry.2.name = entry.1 ∧ entry.2.subscribers ≠ [] ∧
        (entry.2.WellFormed ↔
          entry.1 ≠ "" ∧ ((lastTold (Action.given? entry.1) past).getD []).Nodup)) ∧
      (WellKept mailbox ↔
        (∀ action ∈ past, action.joining? "" = none) ∧
          ∀ topic, ((lastTold (Action.given? topic) past).getD []).Nodup) ∧
      ∀ action, WellKept mailbox → mailbox.meets service.digest action = true →
        (WellKept (mailbox.after service.digest action) ↔ action.Tidy)) ∧
    ∀ mailbox, service.Reaches lifetime mailbox → Reachable service.digest lifetime mailbox := by
  refine ⟨fun actions => ?_, fun _ reaches => reaches.exists_actions⟩
  intro mailbox past
  have retells : Retells past mailbox := retells_run service.digest lifetime actions
  have coherent : Coherent service.digest mailbox :=
    (coherent_start service.digest lifetime).run actions
  refine ⟨fun entry among => ?_, wellKept_iff service.digest lifetime actions,
    fun action => wellKept_after_iff⟩
  obtain ⟨named, inhabited⟩ := coherent.topics.suits entry among
  exact ⟨named, inhabited, retells.wellFormed_iff coherent among⟩

/-- Two requests that are answered with success. One registers a node on the topic without a
name, the other creates a topic with a subscriber who comes twice. -/
theorem requests_reach_illFormed_topics :
    let service : Service := ⟨Blake3.digest, fun _ => ""⟩
    (∃ mailbox, service.Reaches 1 mailbox ∧ ("", ⟨"", ["1"]⟩) ∈ mailbox.topics.entries) ∧
    (∃ mailbox, service.Reaches 1 mailbox ∧ ("a", ⟨"a", ["1", "1"]⟩) ∈ mailbox.topics.entries) ∧
    ¬ ∀ mailbox, Reachable service.digest 1 mailbox → WellKept mailbox := by
  intro service
  have reached {request : Http.Request} {action : Action} (asks : Service.Asks 0 request action)
      (fits : (start 1).meets service.digest action = true) :
      service.Reaches 1 ((start 1).after service.digest action) := by
    obtain ⟨response, responded⟩ := asks.answered fits
    exact .answer .start responded
  have registers : Service.Asks 0 ⟨"POST", Bytes.ofText "/register_node?subscribes_to=",
      some "application/json", Bytes.ofText "\x7b\"name\":\"1\",\"address\":\"http://a\"\x7d"⟩
      (.registerNode ⟨"1", "http://a"⟩ "") := by
    refine ⟨rfl, ⟨[Route.word "register_node"], Bytes.ofText "subscribes_to="⟩, .nodes,
      by decide +kernel, by decide +kernel, .registerNode ?_ ⟨?_, ?_, ?_⟩⟩
    · unfold Service.Told
      decide +kernel
    all_goals decide +kernel
  have creates : Service.Asks 0 ⟨"POST", Bytes.ofText "/topics", some "application/json",
      Bytes.ofText "\x7b\"topic_name\":\"a\",\"subscribers\":[\"1\",\"1\"]\x7d"⟩
      (.createTopic ⟨"a", ["1", "1"]⟩) := by
    refine ⟨rfl, ⟨[Route.word "topics"], []⟩, .topics, by decide +kernel,
      by decide +kernel, .createTopic ⟨?_, ?_, ?_⟩⟩
    all_goals decide +kernel
  have unnamed := reached registers (by decide +kernel)
  refine ⟨⟨_, unnamed, by decide +kernel⟩,
    ⟨_, reached creates (by decide +kernel), by decide +kernel⟩, fun kept => ?_⟩
  exact (kept _ unnamed.exists_actions ("", ⟨"", ["1"]⟩) (by decide +kernel)).named rfl

end Mailbox

end Resharing
