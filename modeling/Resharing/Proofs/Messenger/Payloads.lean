import Resharing.Proofs.Mailbox.Publications
import Resharing.Proofs.Messenger.ReadBack

/-!
# Contents come back as they were published

A client publishes on the topic of a session and reads the topic later. Its contents go out as
bodies and come back in base sixty-four, in a list of messages that the client has another form
for than the service. On the way nothing is lost: what is read is what remains in the mailbox,
byte for byte. If the publications come at ever later times, it is in the order in which the
contents were last published.

Whether everything remains is decided in the mailbox, and others have a hand in it. They need not
publish on the topic for that. A topic that goes on behind it and a colon is enough.

A client does not know the service that it reads from. Of any list it reads either all payloads or
none.

## Main definitions

* `RemoteMessenger.Publishing`: a client publishes on a topic while others use the mailbox

## Main results

* `RemoteMessenger.publish_eq_ok_iff`: when something is published
* `RemoteMessenger.Publishing.recalls`: along the way the mailbox recalls its past
* `RemoteMessenger.reads_listed`: all payloads of a list are read, or none
* `RemoteMessenger.contents_come_back`: what is read on the topic of a session
* `RemoteMessenger.colon_takes_content`: a content that does not come back
-/

namespace Resharing.RemoteMessenger

open Http (Url)
open Mailbox (Opened Remains Timely Recalls publications publishedContents)

variable {scheme host authority slashes topic : String} {service : Service} {lifetime : Int}
  {past : List Mailbox.Action} {peers : Peers} {now later : Instant} {mailbox : Mailbox}
  {payload : Bytes}

/-! ### Publishing -/

/-- A client publishes on a topic of the mailbox at an authority, and is told each time that this
is done. Others use the mailbox meanwhile, but publish nothing on the topic. The past is what was
met. -/
inductive Publishing (remote : RemoteMessenger) (authority : String) (service : Service)
    (lifetime : Int) (topic : String) : List Mailbox.Action → Peers → Prop
  | start {peers : Peers} {now : Instant}
      (there : peers.find? authority = some (.mailbox service now (.start lifetime))) :
      Publishing remote authority service lifetime topic [] peers
  | own {past : List Mailbox.Action} {peers next : Peers} {now : Instant} {mailbox : Mailbox}
      {payload : Bytes} (earlier : Publishing remote authority service lifetime topic past peers)
      (there : peers.find? authority = some (.mailbox service now mailbox))
      (told : ((remote.messenger Peers.network).publish topic payload).perform peers =
        (.ok (), next)) :
      Publishing remote authority service lifetime topic (past ++ [.publish now topic payload]) next
  | other {past : List Mailbox.Action} {peers next : Peers} {now later : Instant}
      {mailbox : Mailbox} {action : Mailbox.Action}
      (earlier : Publishing remote authority service lifetime topic past peers)
      (there : peers.find? authority = some (.mailbox service now mailbox))
      (elsewhere : action.publication? topic = none)
      (fits : mailbox.meets service.digest action = true)
      (left : next.find? authority =
        some (.mailbox service later (mailbox.after service.digest action))) :
      Publishing remote authority service lifetime topic (past ++ [action]) next
  /-- Time goes by, and if something is asked, it is not met or it changes nothing. -/
  | pause {past : List Mailbox.Action} {peers next : Peers} {now later : Instant}
      {mailbox : Mailbox}
      (earlier : Publishing remote authority service lifetime topic past peers)
      (there : peers.find? authority = some (.mailbox service now mailbox))
      (left : next.find? authority = some (.mailbox service later mailbox)) :
      Publishing remote authority service lifetime topic past next

/-- How long what is sent to publish on a topic is. -/
theorem length_target_publish (topic : String) (payload : Bytes) :
    (Bytes.ofText topic).length + 20 ≤ (Call.publish topic payload).target.length := by
  have path : (Bytes.ofText "/publish").length = 8 := by decide +kernel
  have name : (Form.encodePart "topic_name").length = 10 := by decide +kernel
  have value := Form.length_le_encodePart topic
  have whole : (Call.publish topic payload).target = Bytes.ofText "/publish" ++
      '?'.toUInt8 :: (Form.encodePart "topic_name" ++ '='.toUInt8 :: Form.encodePart topic) := rfl
  rw [whole]
  simp only [List.length_append, List.length_cons]
  omega

/-- When a client is told that something is published, and what that leaves. -/
theorem publish_eq_ok_iff (known : scheme ∈ Url.schemes) (hosted : Url.Host host authority)
    (there : peers.find? authority = some (.mailbox service now mailbox)) {next : Peers} :
    ((messenger ⟨scheme ++ "://" ++ host⟩ Peers.network).publish topic payload).perform peers =
        (.ok (), next) ↔
      (scheme.utf8ByteSize + 3 + authority.utf8ByteSize +
          (Call.publish topic payload).target.length ≤ Url.maxLength ∧
        payload.length ≤ Service.bodyLimit) ∧
      mailbox.meets service.digest (.publish now topic payload) = true ∧
        next = peers.insert authority (.mailbox service (now + Peer.tick)
          (mailbox.after service.digest (.publish now topic payload))) := by
  refine (@Call.perform_eq_ok_iff peers (.publish topic payload) scheme host authority service now
    mailbox known hosted there next).trans ?_
  rw [← and_assoc]
  apply and_congr_right'
  simp only [Call.operate, Mailbox.meets, Mailbox.after]
  rcases published : mailbox.publish service.digest now topic payload with
    crash | error | ⟨name, made⟩ <;> simp [Except.map]

/-- A publication that is done is met, and its address was short enough to be sent. -/
theorem Publishing.recalls (known : scheme ∈ Url.schemes) (hosted : Url.Host host authority)
    (injective : Function.Injective service.digest)
    (course : Publishing ⟨scheme ++ "://" ++ host⟩ authority service lifetime topic past peers) :
    ∃ now mailbox, peers.find? authority = some (.mailbox service now mailbox) ∧
      Recalls service.digest lifetime past mailbox ∧
      (mailbox.topics.contains topic = true ↔ Opened topic past) := by
  have meet {past : List Mailbox.Action} {mailbox : Mailbox} {action : Mailbox.Action}
      (recalls : Recalls service.digest lifetime past mailbox)
      (opened : mailbox.topics.contains topic = true ↔ Opened topic past)
      (fits : mailbox.meets service.digest action = true) :
      Recalls service.digest lifetime (past ++ [action]) (mailbox.after service.digest action) ∧
        ((mailbox.after service.digest action).topics.contains topic = true ↔
          Opened topic (past ++ [action])) := by
    refine ⟨recalls.after injective fits, ?_⟩
    rw [Mailbox.contains_after, opened, Mailbox.opened_concat]
  induction course with
  | @start peers now there =>
    refine ⟨now, .start lifetime, there, Mailbox.recalls_start service.digest lifetime, ?_⟩
    exact iff_of_false Bool.false_ne_true fun ⟨_, member, _⟩ => absurd member List.not_mem_nil
  | own earlier there told ih =>
    obtain ⟨_, _, found, recalls, opened⟩ := ih
    cases there.symm.trans found
    obtain ⟨-, fits, rfl⟩ := (publish_eq_ok_iff known hosted there).mp told
    exact ⟨_, _, Table.find?_insert_self _ _ _, meet recalls opened fits⟩
  | other earlier there elsewhere fits left ih =>
    obtain ⟨_, _, found, recalls, opened⟩ := ih
    cases there.symm.trans found
    exact ⟨_, _, left, meet recalls opened fits⟩
  | pause earlier there left ih =>
    obtain ⟨_, _, found, recalls, opened⟩ := ih
    cases there.symm.trans found
    exact ⟨_, _, left, recalls, opened⟩

/-- Where something has been published, there is room to ask for it. -/
theorem Publishing.room (known : scheme ∈ Url.schemes) (hosted : Url.Host host authority)
    (course : Publishing ⟨scheme ++ "://" ++ host⟩ authority service lifetime topic past peers)
    (published : publications topic past ≠ []) :
    scheme.utf8ByteSize + authority.utf8ByteSize + (Bytes.ofText topic).length + 20 ≤
      Url.maxLength := by
  induction course with
  | start there => exact absurd rfl published
  | @own _ _ _ _ _ payload earlier there told ih =>
    have long := length_target_publish topic payload
    have short := ((publish_eq_ok_iff known hosted there).mp told).1.1
    omega
  | other earlier there elsewhere fits left ih =>
    apply ih
    rwa [publications, List.filterMap_append, List.filterMap_cons_none elsewhere,
      List.filterMap_nil, List.append_nil] at published
  | pause earlier there left ih => exact ih published

/-- Actions that are met one after the other come about in this way, as long as the contents on
the topic are small enough to be taken. -/
theorem exists_publishing (known : scheme ∈ Url.schemes) (hosted : Url.Host host authority)
    (short : scheme.utf8ByteSize + 3 + authority.utf8ByteSize +
      (Call.publish topic []).target.length ≤ Url.maxLength)
    {actions : List Mailbox.Action}
    (small : ∀ now payload, .publish now topic payload ∈ actions →
      payload.length ≤ Service.bodyLimit)
    (fit : (Mailbox.met service.digest (.start lifetime) actions).length = actions.length) :
    ∃ peers now, Publishing ⟨scheme ++ "://" ++ host⟩ authority service lifetime topic actions
        peers ∧
      peers.find? authority =
        some (.mailbox service now (Mailbox.ofActions service.digest lifetime actions)) := by
  induction actions using List.reverseRecOn with
  | nil =>
    have there : (Table.empty.insert authority (.mailbox service 0 (.start lifetime)) :
        Peers).find? authority = some (.mailbox service 0 (.start lifetime)) :=
      Table.find?_insert_self _ _ _
    exact ⟨_, 0, .start there, there⟩
  | append_singleton actions action ih =>
    have fewer := (Mailbox.met_sublist service.digest (.start lifetime) actions).length_le
    rw [Mailbox.met_concat, List.length_append, List.length_append, List.length_singleton] at fit
    split_ifs at fit with fits
    swap
    · rw [List.length_nil] at fit
      omega
    obtain ⟨peers, now, course, there⟩ := ih
      (fun now payload member => small now payload (List.mem_append_left _ member))
      (Nat.add_right_cancel fit)
    rw [Mailbox.ofActions_concat]
    change (Mailbox.ofActions service.digest lifetime actions).meets service.digest action = true
      at fits
    generalize Mailbox.ofActions service.digest lifetime actions = mailbox at there fits
    let next (time : Instant) : Peers :=
      peers.insert authority (.mailbox service time (mailbox.after service.digest action))
    cases elsewhere : action.publication? topic with
    | none =>
      have left : (next now).find? authority = some _ := Table.find?_insert_self _ _ _
      exact ⟨next now, now, course.other there elsewhere fits left, left⟩
    | some publication =>
      obtain ⟨time, payload⟩ := publication
      obtain rfl := Mailbox.Action.publication?_eq_some_iff.mp elsewhere
      let ready : Peers := peers.insert authority (.mailbox service time mailbox)
      have found : ready.find? authority = some (.mailbox service time mailbox) :=
        Table.find?_insert_self _ _ _
      have little := small time payload (List.mem_append_right _ List.mem_cons_self)
      have told := (@publish_eq_ok_iff scheme host authority topic service ready time mailbox
        payload known hosted found _).mpr ⟨⟨short, little⟩, fits, rfl⟩
      exact ⟨_, time + Peer.tick, (course.pause there found).own found told,
        Table.find?_insert_self _ _ _⟩

/-! ### Reading -/

/-- What is read on a topic is what lies on it. -/
theorem reads_contents (known : scheme ∈ Url.schemes) (hosted : Url.Host host authority)
    (session : SessionId)
    (short : scheme.utf8ByteSize + authority.utf8ByteSize + 52 ≤ Url.maxLength)
    (there : peers.find? authority = some (.mailbox service now mailbox))
    (coherent : Mailbox.Coherent service.digest mailbox)
    (opened : mailbox.topics.contains session.hex = true) :
    (messagesOf ⟨scheme ++ "://" ++ host⟩ Peers.network session.hex).perform peers =
      (.ok ((mailbox.messagesOf session.hex).map Mailbox.Message.payload),
        peers.insert authority (.mailbox service (now + Peer.tick) mailbox)) := by
  obtain ⟨known_topic, found⟩ := Option.isSome_iff_exists.mp opened
  have size : (Percent.encode Url.passesPath (Bytes.ofText session.hex)).length = 32 := by
    rw [Url.encode_path_of_alphanumeric (isAlphanumeric_session session), length_session]
  have tells := tells_messagesOf known hosted (legible_session session) (by omega) service found
  rw [(coherent.topics.find? found).1] at tells
  exact tells peers now there

/-- Texts are written forms, or there is a first that is none. -/
theorem written_cases (written : List String) :
    (∃ told : List Bytes, written = told.map Base64.encode) ∨
      ∃ (before : List Bytes) (text : String) (rest : List String) (fault : Base64.Fault),
        written = before.map Base64.encode ++ text :: rest ∧ Base64.decode text = .error fault := by
  induction written with
  | nil => exact .inl ⟨[], rfl⟩
  | cons text rest ih =>
    cases read : Base64.decode text with
    | error fault => exact .inr ⟨[], text, rest, fault, rfl, read⟩
    | ok payload =>
      obtain rfl := Base64.decode_eq_ok_iff.mp read
      rcases ih with ⟨told, rfl⟩ | ⟨before, text, rest, fault, rfl, unread⟩
      · exact .inl ⟨payload :: told, rfl⟩
      · exact .inr ⟨payload :: before, text, rest, fault, rfl, unread⟩

/-- The first text that is no written form is reported. -/
theorem payloads_eq_error {text : String} {fault : Base64.Fault}
    (unread : Base64.decode text = .error fault) (before : List Bytes) (rest : List String) :
    payloads (before.map Base64.encode ++ text :: rest) =
      .error (.unreadable (.payload fault)) := by
  induction before with
  | nil =>
    rw [payloads, List.map_nil, List.nil_append, List.mapM_cons, unread]
    rfl
  | cons payload before ih =>
    rw [payloads] at ih ⊢
    rw [List.map_cons, List.cons_append, List.mapM_cons, Base64.decode_encode, ih]
    rfl

/-- A list of messages in a response that says that all is well is read payload by payload. -/
theorem perform_messagesOf {σ : Type} {network : Http.Network σ} {remote : RemoteMessenger}
    {state next : σ} {response : Http.Response} {written : List String}
    (answered : network.ask (remote.messagesInquiry topic) state = (.ok response, next))
    (success : response.isSuccess = true)
    (listed : (Json.Format.list payloadFormat).decode response.body = .ok written) :
    (remote.messagesOf network topic).perform state = (payloads written, next) := by
  have answer : done "messages" response = .ok response := if_pos success
  have texts : reply (.list payloadFormat) response = .ok written := by
    rw [reply, listed]
    rfl
  rw [messagesOf, perform_call, answered]
  change ((do payloads (← reply (.list payloadFormat) (← done "messages" response))), next) = _
  rw [answer]
  change ((reply (.list payloadFormat) response >>= payloads), next) = _
  rw [texts]
  rfl

/-- All payloads of a list are read, or none. -/
theorem reads_listed {σ : Type} {network : Http.Network σ} {remote : RemoteMessenger}
    {state next : σ} {response : Http.Response} {written : List String}
    (answered : network.ask (remote.messagesInquiry topic) state = (.ok response, next))
    (success : response.isSuccess = true)
    (listed : (Json.Format.list payloadFormat).decode response.body = .ok written) :
    (∀ told, (remote.messagesOf network topic).perform state = (.ok told, next) ↔
      written = told.map Base64.encode) ∧
    ((¬ ∃ told : List Bytes, written = told.map Base64.encode) →
      ∃ (before : List Bytes) (text : String) (rest : List String) (fault : Base64.Fault),
        (written = before.map Base64.encode ++ text :: rest ∧ Base64.decode text = .error fault) ∧
        (remote.messagesOf network topic).perform state =
          (.error (.unreadable (.payload fault)), next)) := by
  have performed := perform_messagesOf answered success listed
  constructor
  · intro told
    rw [performed, Prod.mk.injEq, and_iff_left rfl]
    exact payloads_eq_ok_iff
  · intro unwritten
    obtain ⟨before, text, rest, fault, rfl, unread⟩ :=
      (written_cases written).resolve_left unwritten
    refine ⟨before, text, rest, fault, ⟨rfl, unread⟩, ?_⟩
    rw [performed, payloads_eq_error unread]

/-! ### What comes back -/

/-- On the topic of a session a client reads what is left of the publications, byte for byte and
in the order in which the contents were last published. That is everything if others publish only
on topics apart from that of the session and nothing expires. From any service, a list of messages
is read as a whole, if each payload is the written form of some bytes, or it is not read at all
and the first payload that is none is reported. -/
theorem contents_come_back (known : scheme ∈ Url.schemes) (hosted : Url.Host host authority)
    (trimmed : ∀ c ∈ slashes.toList, c = '/') (injective : Function.Injective service.digest)
    (session : SessionId)
    (course : Publishing (atAddress (scheme ++ "://" ++ host ++ slashes)) authority service lifetime
      session.hex past peers)
    (opened : Opened session.hex past)
    (ascending : (publications session.hex past).Pairwise fun left right => left.1 < right.1)
    (room : publications session.hex past = [] →
      scheme.utf8ByteSize + authority.utf8ByteSize + 52 ≤ Url.maxLength) :
    (∃ told next, ((atAddress (scheme ++ "://" ++ host ++ slashes)).messagesOf Peers.network
        session.hex).perform peers = (.ok told, next) ∧
      Mailbox.LeftOf lifetime past session.hex told) ∧
    ∀ {σ : Type} (network : Http.Network σ) (remote : RemoteMessenger) (topic : String)
      (state next : σ) (response : Http.Response) (written : List String),
      network.ask (remote.messagesInquiry topic) state = (.ok response, next) →
      response.isSuccess = true →
      (Json.Format.list payloadFormat).decode response.body = .ok written →
        (∀ told, (remote.messagesOf network topic).perform state = (.ok told, next) ↔
          written = told.map Base64.encode) ∧
        ((¬ ∃ told : List Bytes, written = told.map Base64.encode) →
          ∃ (before : List Bytes) (text : String) (rest : List String) (fault : Base64.Fault),
            (written = before.map Base64.encode ++ text :: rest ∧
              Base64.decode text = .error fault) ∧
            (remote.messagesOf network topic).perform state =
              (.error (.unreadable (.payload fault)), next)) := by
  rw [atAddress_of_host hosted trimmed] at course ⊢
  constructor
  · obtain ⟨now, mailbox, there, recalls, known_topic⟩ := course.recalls known hosted injective
    have short : scheme.utf8ByteSize + authority.utf8ByteSize + 52 ≤ Url.maxLength := by
      by_cases silent : publications session.hex past = []
      · exact room silent
      · have short := course.room known hosted silent
        rw [length_session] at short
        omega
    exact ⟨_, _, reads_contents known hosted session short there recalls.coherent
      (known_topic.mpr opened), recalls.leftOf ascending⟩
  · intro σ network remote topic state next response written answered success listed
    exact reads_listed answered success listed

/-- The session of the following courses. -/
def sevens : SessionId := ⟨List.replicate 16 7, rfl⟩

/-- What happens while something is published twice, with something else and a publication on the
topic of another session in between. -/
def twice : List Mailbox.Action :=
  [.createTopic ⟨sevens.hex, ["1"]⟩, .publish 1 sevens.hex [0, 255], .publish 2 sevens.hex [],
    .registerNode ⟨"2", "http://b"⟩ "0000", .publish 3 "0000" [9], .cleanUp 4,
    .publish 5 sevens.hex [0, 255]]

/-- What is published again comes last, and what is empty comes back too. -/
theorem contents_come_back_twice :
    let remote := atAddress ("http" ++ "://" ++ "Mail:3000" ++ "/")
    let said := [Mailbox.preimage sevens.hex [0, 255], Mailbox.preimage sevens.hex [],
      Mailbox.preimage "0000" [9]]
    Function.Injective (Mailbox.digestOn said) ∧
      Mailbox.ofActions (Mailbox.digestOn said) 3600 twice =
        Mailbox.ofActions Blake3.digest 3600 twice ∧
      ∃ peers next,
        Publishing remote "mail:3000" ⟨Mailbox.digestOn said, fun _ => ""⟩ 3600 sevens.hex twice
            peers ∧
          (remote.messagesOf Peers.network sevens.hex).perform peers =
            (.ok [[], [0, 255]], next) := by
  intro remote said
  have injective : Function.Injective (Mailbox.digestOn said) :=
    Mailbox.digestOn_injective (by decide +kernel)
  have known : "http" ∈ Url.schemes := by simp [Url.schemes]
  have hosted : Url.Host "Mail:3000" "mail:3000" := ⟨by decide +kernel, by decide +kernel⟩
  have trimmed : ∀ c ∈ "/".toList, c = '/' := by simp
  have small : ∀ now payload, .publish now sevens.hex payload ∈ twice →
      payload.length ≤ Service.bodyLimit := by
    intro now payload member
    simp only [twice, List.mem_cons, List.not_mem_nil, or_false, reduceCtorEq, false_or,
      Mailbox.Action.publish.injEq] at member
    rcases member with ⟨-, -, rfl⟩ | ⟨-, -, rfl⟩ | ⟨-, -, rfl⟩ | ⟨-, -, rfl⟩ <;> decide
  obtain ⟨peers, now, course, -⟩ := @exists_publishing "http" "Mail:3000" "mail:3000" sevens.hex
    ⟨Mailbox.digestOn said, fun _ => ""⟩ 3600 known hosted (by decide +kernel) twice small
    (by decide +kernel)
  rw [← atAddress_of_host hosted trimmed] at course
  have opened : Opened sevens.hex twice := ⟨_, List.mem_cons_self, rfl, by decide +kernel, by simp⟩
  obtain ⟨⟨told, next, read, left⟩, -⟩ := contents_come_back known hosted trimmed
    injective sevens course opened (by decide +kernel)
    (fun silent => absurd silent (by decide +kernel))
  refine ⟨injective, Mailbox.run_digestOn (by decide +kernel), peers, next, course,
    read.trans ?_⟩
  rw [left.undisturbed]
  · exact congrArg (fun told => (Except.ok told, next))
      (by decide +kernel : publishedContents sevens.hex twice = [[], [0, 255]])
  · intro now other content member foreign
    simp only [twice, List.mem_cons, List.not_mem_nil, or_false, reduceCtorEq, false_or,
      Mailbox.Action.publish.injEq] at member
    rcases member with ⟨-, rfl, -⟩ | ⟨-, rfl, -⟩ | ⟨-, rfl, -⟩ | ⟨-, rfl, -⟩
    · exact absurd rfl foreign
    · exact absurd rfl foreign
    · unfold Mailbox.Apart
      decide +kernel
    · exact absurd rfl foreign
  · intro payload
    apply Mailbox.timely_of_early
    intro now cleaned time published
    simp only [twice, List.mem_cons, List.not_mem_nil, or_false, reduceCtorEq, false_or,
      Mailbox.Action.cleanUp.injEq, Mailbox.Action.publish.injEq] at cleaned published
    subst cleaned
    have positive : 1 ≤ time := by
      rcases published with ⟨rfl, -⟩ | ⟨rfl, -⟩ | ⟨rfl, -⟩ | ⟨rfl, -⟩ <;> decide
    simp only [nanosPerSecond]
    omega

/-- What happens while a topic behind the session and a colon is used. -/
def overheard : List Mailbox.Action :=
  [.createTopic ⟨sevens.hex, ["1"]⟩, .createTopic ⟨sevens.hex ++ ":b", ["1"]⟩,
    .publish 1 sevens.hex (Bytes.ofText "b:c"),
    .publish 2 (sevens.hex ++ ":b") (Bytes.ofText "c")]

/-- Publishing `c` behind the session, a colon and `b` takes `b:c` from the session, although
nobody else has published on its topic and nothing has expired. -/
theorem colon_takes_content :
    let remote := atAddress ("http" ++ "://" ++ "Mail:3000" ++ "/")
    let said := [Mailbox.preimage sevens.hex (Bytes.ofText "b:c")]
    ∃ peers next,
      Function.Injective (Mailbox.digestOn said) ∧
      Publishing remote "mail:3000" ⟨Mailbox.digestOn said, fun _ => ""⟩ 3600 sevens.hex overheard
        peers ∧
      Opened sevens.hex overheard ∧
      ((publications sevens.hex overheard).Pairwise fun left right => left.1 < right.1) ∧
      (∀ payload, Timely 3600 overheard sevens.hex payload) ∧
      publishedContents sevens.hex overheard = [Bytes.ofText "b:c"] ∧
      (remote.messagesOf Peers.network sevens.hex).perform peers = (.ok [], next) := by
  intro remote said
  have known : "http" ∈ Url.schemes := by simp [Url.schemes]
  have hosted : Url.Host "Mail:3000" "mail:3000" := ⟨by decide +kernel, by decide +kernel⟩
  have address : remote = ⟨"http" ++ "://" ++ "Mail:3000"⟩ := atAddress_of_host hosted (by simp)
  rw [address]
  have small : ∀ now payload, .publish now sevens.hex payload ∈ overheard →
      payload.length ≤ Service.bodyLimit := by
    intro now payload member
    simp only [overheard, List.mem_cons, List.not_mem_nil, or_false, reduceCtorEq, false_or,
      Mailbox.Action.publish.injEq] at member
    rcases member with ⟨-, -, rfl⟩ | ⟨-, -, rfl⟩ <;> decide +kernel
  obtain ⟨peers, now, course, there⟩ := @exists_publishing "http" "Mail:3000" "mail:3000"
    sevens.hex ⟨Mailbox.digestOn said, fun _ => ""⟩ 3600 known hosted (by decide +kernel) overheard
    small (by decide +kernel)
  have read := reads_contents known hosted sevens (by decide +kernel) there
    ((Mailbox.coherent_start (Mailbox.digestOn said) 3600).run overheard) (by decide +kernel)
  have taken : ((Mailbox.ofActions (Mailbox.digestOn said) 3600 overheard).messagesOf
      sevens.hex).map Mailbox.Message.payload = [] := by
    decide +kernel
  refine ⟨peers, _, Mailbox.digestOn_injective (by decide +kernel), course, ⟨_, List.mem_cons_self,
    rfl, by decide +kernel, by simp⟩, by decide +kernel, fun payload => ?_, by decide +kernel,
    taken ▸ read⟩
  exact Mailbox.timely_of_early fun now cleaned => by simp [overheard] at cleaned

end Resharing.RemoteMessenger
