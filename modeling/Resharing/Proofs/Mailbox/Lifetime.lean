import Resharing.Proofs.Mailbox.Requests

/-!
# Lifetimes that messages can have

The lifetime of messages is taken as it is given, whatever it is. It matters for the first time
when a message is published on a topic that is there: then it is made a span of time, which it can
be too long for, and the span is added to the time of the publication, which can lead out of the
calendar. In both cases the publication crashes and nothing is kept. Within the calendar only the
second limit counts, because a span that leads from one of its points to another is always short
enough. So the times at which a lifetime lets something be published make an interval. Only the
lifetime zero lets it be published throughout the calendar.

## Main definitions

* `Instant.InCalendar`: the calendar reaches to a point in time
* `Instant.HasLater`: a point in time has one so many seconds later

## Main results

* `Instant.hasLater_iff_inCalendar`, `Instant.hasLater_between_iff`: which points in time have a
  later one
* `Instant.hasLater_always_iff`, `Instant.exists_hasLater_iff`: when all of them have, and when any
* `Mailbox.publish_eq_ok_iff`, `Mailbox.publish_eq_error_iff`: what becomes of a publication
* `Mailbox.hasLater_of_mem`: what a mailbox keeps
* `Service.respond_eq_error_iff`: when a service does not answer
* `Mailbox.lifetime_decides`: what the lifetime decides
* `Mailbox.long_lifetime_crashes`: lifetimes that are too long
-/

namespace Resharing

/-! ### Later points in time -/

namespace Instant

variable {now later first last : Instant} {seconds : Int} {crash : Crash}

/-- The calendar reaches to a point in time. -/
structure InCalendar (nanos : Int) : Prop where
  begun : firstSecond * nanosPerSecond ≤ nanos
  unfinished : nanos < (lastSecond + 1) * nanosPerSecond

/-- A point in time has one that is so many seconds later: they make a span, and it does not lead
out of the calendar. -/
structure HasLater (now : Instant) (seconds : Int) : Prop where
  back : -longestSpan ≤ seconds
  ahead : seconds ≤ longestSpan
  inCalendar : InCalendar (now + seconds * nanosPerSecond)

theorem addSeconds_of_hasLater (has : HasLater now seconds) :
    now.addSeconds seconds = .ok (now + seconds * nanosPerSecond) := by
  have short : ¬ (seconds < -longestSpan ∨ longestSpan < seconds) :=
    not_or.mpr ⟨Int.not_lt.mpr has.back, Int.not_lt.mpr has.ahead⟩
  rw [addSeconds, if_neg short]
  exact if_pos ⟨has.inCalendar.begun, has.inCalendar.unfinished⟩

theorem addSeconds_of_not_hasLater (without : ¬ HasLater now seconds) :
    now.addSeconds seconds = .error .timeOutOfRange := by
  rw [addSeconds]
  split_ifs with long
  · rfl
  · rw [not_or, Int.not_lt, Int.not_lt] at long
    exact if_neg fun within => without ⟨long.1, long.2, within.1, within.2⟩

/-- Within the calendar, there is a later point in time if the calendar still reaches to it. -/
theorem hasLater_iff_inCalendar (here : InCalendar now) :
    HasLater now seconds ↔ InCalendar (now + seconds * nanosPerSecond) := by
  refine ⟨HasLater.inCalendar, fun there => ?_⟩
  obtain ⟨begun, unfinished⟩ := here
  obtain ⟨since, before⟩ := there
  simp only [firstSecond, lastSecond, nanosPerSecond] at begun unfinished since before
  refine ⟨?_, ?_, since, before⟩ <;> rw [longestSpan] <;> omega

/-- The points in time that have a later one make an interval. -/
theorem hasLater_between_iff (ordered : first ≤ last) :
    (∀ now, first ≤ now → now ≤ last → HasLater now seconds) ↔
      HasLater first seconds ∧ HasLater last seconds := by
  constructor
  · exact fun all => ⟨all first le_rfl ordered, all last ordered le_rfl⟩
  · rintro ⟨early, late⟩ now since before
    refine ⟨early.back, early.ahead, ?_, ?_⟩
    · exact early.inCalendar.begun.trans (Int.add_le_add_right since _)
    · exact (Int.add_le_add_right before _).trans_lt late.inCalendar.unfinished

/-- Only zero seconds do not lead out of the calendar from anywhere in it. -/
theorem hasLater_always_iff :
    (∀ now, InCalendar now → HasLater now seconds) ↔ seconds = 0 := by
  constructor
  · intro all
    have early := (all (firstSecond * nanosPerSecond) ⟨le_rfl, by decide⟩).inCalendar.begun
    have late := (all (lastSecond * nanosPerSecond) ⟨by decide, by decide⟩).inCalendar.unfinished
    simp only [firstSecond, lastSecond, nanosPerSecond] at early late
    omega
  · rintro rfl now here
    rw [hasLater_iff_inCalendar here, Int.zero_mul, Int.add_zero]
    exact here

/-- Seconds lead from somewhere in the calendar to somewhere in it if there are no more of them
than the calendar has. -/
theorem exists_hasLater_iff :
    (∃ now, InCalendar now ∧ HasLater now seconds) ↔
      firstSecond - lastSecond ≤ seconds ∧ seconds ≤ lastSecond - firstSecond := by
  constructor
  · rintro ⟨now, here, has⟩
    obtain ⟨begun, unfinished⟩ := here
    obtain ⟨since, before⟩ := has.inCalendar
    simp only [firstSecond, lastSecond, nanosPerSecond] at *
    omega
  · rintro ⟨back, ahead⟩
    simp only [firstSecond, lastSecond] at back ahead
    -- One starts from the beginning of the calendar, or goes back from its end.
    rcases Int.le_total 0 seconds with forward | backward
    · have here : InCalendar (firstSecond * nanosPerSecond) := ⟨le_rfl, by decide⟩
      refine ⟨_, here, (hasLater_iff_inCalendar here).mpr ⟨?_, ?_⟩⟩ <;>
        simp only [firstSecond, lastSecond, nanosPerSecond] <;> omega
    · have here : InCalendar (lastSecond * nanosPerSecond) := ⟨by decide, by decide⟩
      refine ⟨_, here, (hasLater_iff_inCalendar here).mpr ⟨?_, ?_⟩⟩ <;>
        simp only [firstSecond, lastSecond, nanosPerSecond] <;> omega

end Instant

open Instant (HasLater InCalendar)

/-! ### Publications -/

namespace Mailbox

variable {digest : Bytes → Bytes} {mailbox next : Mailbox} {now : Instant} {topic name : String}
  {payload : Bytes} {crash : Crash} {lifetime : Int} {actions : List Action} {message : Message}

/-- The message that a publication makes if it can have a date. -/
def datedMessage (digest : Bytes → Bytes) (lifetime : Int) (now : Instant) (topic : String)
    (payload : Bytes) : Message :=
  ⟨nameWith digest topic payload, topic, payload, now, now + lifetime * nanosPerSecond⟩

theorem publish_of_hasLater (digest : Bytes → Bytes) (payload : Bytes)
    (there : mailbox.topics.contains topic = true) (has : HasLater now mailbox.lifetime) :
    mailbox.publish digest now topic payload = .ok (.ok (nameWith digest topic payload,
      mailbox.putMessage (datedMessage digest mailbox.lifetime now topic payload))) :=
  publish_of_contains digest payload there (Instant.addSeconds_of_hasLater has)

theorem publish_of_not_hasLater (digest : Bytes → Bytes) (payload : Bytes)
    (there : mailbox.topics.contains topic = true) (without : ¬ HasLater now mailbox.lifetime) :
    mailbox.publish digest now topic payload = .error .timeOutOfRange := by
  rw [publish, if_pos there, makeMessage, Instant.addSeconds_of_not_hasLater without]
  rfl

/-- Something is published if the topic is there and the message can have a date. -/
theorem publish_eq_ok_iff :
    mailbox.publish digest now topic payload = .ok (.ok (name, next)) ↔
      mailbox.topics.contains topic = true ∧ HasLater now mailbox.lifetime ∧
        name = nameWith digest topic payload ∧
        next = mailbox.putMessage (datedMessage digest mailbox.lifetime now topic payload) := by
  cases there : mailbox.topics.contains topic with
  | false => simp [publish_of_missing digest now payload there]
  | true =>
    by_cases has : HasLater now mailbox.lifetime
    · simp [publish_of_hasLater digest payload there has, has, eq_comm]
    · simp [publish_of_not_hasLater digest payload there has, has]

/-- A publication crashes if the topic is there and the message cannot have a date. -/
theorem publish_eq_error_iff :
    mailbox.publish digest now topic payload = .error crash ↔
      mailbox.topics.contains topic = true ∧ ¬ HasLater now mailbox.lifetime ∧
        crash = .timeOutOfRange := by
  cases there : mailbox.topics.contains topic with
  | false => simp [publish_of_missing digest now payload there]
  | true =>
    by_cases has : HasLater now mailbox.lifetime
    · simp [publish_of_hasLater digest payload there has, has]
    · simp [publish_of_not_hasLater digest payload there has, has, eq_comm]

/-! ### Runs -/

theorem lifetime_ofActions (digest : Bytes → Bytes) (lifetime : Int) (actions : List Action) :
    (ofActions digest lifetime actions).lifetime = lifetime := by
  induction actions using List.reverseRecOn with
  | nil => rfl
  | append_singleton actions action ih => rw [ofActions_concat, lifetime_after, ih]

/-- All messages that are kept could have their dates. -/
def AllDated (mailbox : Mailbox) : Prop :=
  ∀ entry ∈ mailbox.messages.entries, HasLater entry.2.createdAt mailbox.lifetime

theorem AllDated.after (dated : AllDated mailbox) (filed : Filed digest mailbox) (action : Action) :
    AllDated (mailbox.after digest action) := by
  have change := change_after digest mailbox action
  generalize mailbox.after digest action = next at change
  cases change with
  | unseen action next messages lifetime =>
    rw [AllDated, messages, lifetime]
    exact dated
  | written now topic payload expiresAt later =>
    intro entry member
    rcases (Table.mem_insert filed.distinct).mp member with rfl | ⟨old, -⟩
    · by_contra without
      cases later.symm.trans (Instant.addSeconds_of_not_hasLater without)
    · exact dated entry old
  | cleaned now => exact fun entry member => dated entry (List.mem_filter.mp member).1

theorem allDated_ofActions (digest : Bytes → Bytes) (lifetime : Int) (actions : List Action) :
    AllDated (ofActions digest lifetime actions) := by
  induction actions using List.reverseRecOn with
  | nil => exact fun entry member => absurd member List.not_mem_nil
  | append_singleton actions action ih =>
    rw [ofActions_concat]
    exact ih.after ((filed_start digest lifetime).run actions) action

end Mailbox

/-! ### Requests -/

namespace Service

open Mailbox (datedMessage)

variable {service : Service} {now : Instant} {request : Http.Request} {mailbox : Mailbox}
  {topic : String} {payload : Bytes} {crash : Crash}

/-- There is no response to a request for a publication that crashes. -/
theorem Asks.crashes (asks : Asks now request (.publish now topic payload))
    (crashed : mailbox.publish service.digest now topic payload = .error crash) :
    service.respond now request mailbox = .error crash := by
  obtain ⟨posted, target, route, read, found, orders⟩ := asks
  cases orders with
  | publish query short =>
    have allowed : request.method ∈ Route.publish.methods := by rw [posted]; decide
    have told : queryText target "topic_name" = .ok topic := by rw [queryText, query]
    have body : bodyOf request = .ok request.body := if_pos short
    rw [respond, read]
    simp only [found, if_pos allowed, handle, told, body, bind, Except.bind, pure, Except.pure,
      crashed]

/-- A service does not answer if it is asked for a publication on a topic that is there, and the
message cannot have a date. -/
theorem respond_eq_error_iff :
    service.respond now request mailbox = .error crash ↔
      ∃ topic payload, Asks now request (.publish now topic payload) ∧
        mailbox.topics.contains topic = true ∧ ¬ HasLater now mailbox.lifetime ∧
        crash = .timeOutOfRange := by
  constructor
  · intro silent
    obtain ⟨topic, payload, asks, crashed⟩ := respond_eq_error silent
    exact ⟨topic, payload, asks, Mailbox.publish_eq_error_iff.mp crashed⟩
  · rintro ⟨topic, payload, asks, crashed⟩
    exact asks.crashes (Mailbox.publish_eq_error_iff.mpr crashed)

/-- A publication on a topic that is there succeeds if the message can have a date. -/
theorem Asks.published_iff (asks : Asks now request (.publish now topic payload))
    (there : mailbox.topics.contains topic = true) :
    (∃ response, service.respond now request mailbox = .ok (response,
        mailbox.putMessage (datedMessage service.digest mailbox.lifetime now topic payload)) ∧
      response.isSuccess = true) ↔ HasLater now mailbox.lifetime := by
  constructor
  · rintro ⟨response, responded, -⟩
    by_contra without
    have silent : service.respond now request mailbox = .error .timeOutOfRange :=
      respond_eq_error_iff.mpr ⟨topic, payload, asks, there, without, rfl⟩
    cases responded.symm.trans silent
  · intro has
    have published := Mailbox.publish_of_hasLater service.digest payload there has
    have fits : mailbox.meets service.digest (.publish now topic payload) = true := by
      rw [Mailbox.meets, published]
    obtain ⟨response, responded⟩ := asks.answered fits
    rw [Mailbox.after_publish published] at responded
    refine ⟨response, responded, ?_⟩
    rcases respond_eq_ok responded with ⟨-, -, unmet⟩ | ⟨-, -, -, success, -⟩
    · exact Bool.noConfusion ((unmet _ asks).symm.trans fits)
    · exact success

end Service

namespace Mailbox

/-- Whether something can be published is decided by the lifetime and the time, for every mailbox
that comes about with the lifetime and every topic in it. If the time has a later one, the message
is kept with it as the date on which it expires, and its name is told; otherwise the publication
crashes, and nothing else crashes it. So all that is kept has its date. In the calendar a time has a
later one if that is in the calendar as well, and with two times all those between them have one.
Thus no lifetime but zero is good throughout the calendar, and a lifetime longer than the calendar
is good nowhere in it. A service answers every request but one for a publication that crashes. -/
theorem lifetime_decides (service : Service) (lifetime : Int) :
    (∀ actions now topic payload,
      let mailbox := ofActions service.digest lifetime actions
      (∀ name next, mailbox.publish service.digest now topic payload = .ok (.ok (name, next)) ↔
        mailbox.topics.contains topic = true ∧ HasLater now lifetime ∧
          name = nameWith service.digest topic payload ∧
          next = mailbox.putMessage ⟨nameWith service.digest topic payload, topic, payload, now,
            now + lifetime * nanosPerSecond⟩) ∧
      (∀ crash, mailbox.publish service.digest now topic payload = .error crash ↔
        mailbox.topics.contains topic = true ∧ ¬ HasLater now lifetime ∧
          crash = .timeOutOfRange) ∧
      ∀ entry ∈ mailbox.messages.entries, HasLater entry.2.createdAt lifetime ∧
        entry.2.expiresAt = entry.2.createdAt + lifetime * nanosPerSecond) ∧
    ((∀ now, InCalendar now →
        (HasLater now lifetime ↔ InCalendar (now + lifetime * nanosPerSecond))) ∧
      (∀ first last, first ≤ last → ((∀ now, first ≤ now → now ≤ last → HasLater now lifetime) ↔
        HasLater first lifetime ∧ HasLater last lifetime)) ∧
      ((∀ now, InCalendar now → HasLater now lifetime) ↔ lifetime = 0) ∧
      ((∃ now, InCalendar now ∧ HasLater now lifetime) ↔
        Instant.firstSecond - Instant.lastSecond ≤ lifetime ∧
          lifetime ≤ Instant.lastSecond - Instant.firstSecond)) ∧
    ∀ mailbox, service.Reaches lifetime mailbox → ∀ now request,
      (∀ topic payload, Service.Asks now request (.publish now topic payload) →
        mailbox.topics.contains topic = true →
        ((∃ response, service.respond now request mailbox = .ok (response,
            mailbox.putMessage ⟨nameWith service.digest topic payload, topic, payload, now,
              now + lifetime * nanosPerSecond⟩) ∧
          response.isSuccess = true) ↔ HasLater now lifetime)) ∧
      ∀ crash, service.respond now request mailbox = .error crash ↔
        ∃ topic payload, Service.Asks now request (.publish now topic payload) ∧
          mailbox.topics.contains topic = true ∧ ¬ HasLater now lifetime ∧
          crash = .timeOutOfRange := by
  refine ⟨fun actions now topic payload => ?_, ⟨fun now => Instant.hasLater_iff_inCalendar,
    fun first last => Instant.hasLater_between_iff, Instant.hasLater_always_iff,
    Instant.exists_hasLater_iff⟩, fun mailbox reaches now request => ?_⟩
  · have lasting := lifetime_ofActions service.digest lifetime actions
    have filed := (filed_start service.digest lifetime).run actions
    have dated := allDated_ofActions service.digest lifetime actions
    refine ⟨fun name next => ?_, fun crash => ?_, fun entry member => ⟨?_, ?_⟩⟩
    · rw [publish_eq_ok_iff, lasting]
      rfl
    · rw [publish_eq_error_iff, lasting]
    · exact lasting ▸ dated entry member
    · exact lasting ▸ filed.lasting entry member
  · obtain ⟨actions, rfl⟩ := reaches.exists_actions
    have lasting := lifetime_ofActions service.digest lifetime actions
    refine ⟨fun topic payload asks there => ?_, fun crash => ?_⟩
    · have answered := @Service.Asks.published_iff service now request _ topic payload asks there
      rw [lasting] at answered
      exact answered
    · rw [Service.respond_eq_error_iff, lasting]

/-- The greatest number of seconds is no span, and nine trillion of them lead from the beginning of
the year 2026 out of the calendar. An hour does not. -/
theorem long_lifetime_crashes :
    let mailbox (lifetime : Int) := ofActions Blake3.digest lifetime [.createTopic ⟨"t", ["1"]⟩]
    let publish (lifetime : Int) :=
      (mailbox lifetime).publish Blake3.digest 1767225600000000000 "t" [97]
    (∀ lifetime, (mailbox lifetime).topics.contains "t" = true) ∧
    publish 9223372036854775807 = .error .timeOutOfRange ∧
    publish 9000000000000 = .error .timeOutOfRange ∧
    ∃ name next, publish 3600 = .ok (.ok (name, next)) := by
  intro mailbox publish
  have there (lifetime : Int) : (mailbox lifetime).topics.contains "t" = true := rfl
  refine ⟨there, publish_eq_error_iff.mpr ⟨there _, fun has => ?_, rfl⟩,
    publish_eq_error_iff.mpr ⟨there _, fun has => ?_, rfl⟩,
    ⟨_, _, publish_eq_ok_iff.mpr ⟨there _, ?_, rfl, rfl⟩⟩⟩
  · exact absurd has.ahead (by decide)
  · exact absurd has.inCalendar.unfinished (by decide)
  · exact ⟨by decide, by decide, by decide, by decide⟩

end Mailbox

end Resharing
