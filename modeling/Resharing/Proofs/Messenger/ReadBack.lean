import Resharing.Proofs.Http.Segment
import Resharing.Proofs.Mailbox.History
import Resharing.Proofs.Messenger.Remote
import Resharing.Proofs.Text.Base64

/-!
# Topics are read back if their names are legible

A topic is created with its name in the body of a request, but it is asked for with its name put
into the path of an address as it is. So what is asked for is the topic only if the name is
legible as a segment of a path. The names of sessions are. For any other name there is a mailbox
that holds the topic and does not tell it: a mailbox that holds nothing else tells the topic only
to someone who has asked for its name.

## Main definitions

* `RemoteMessenger.Tells`: what is told by a service with a given mailbox
* `RemoteMessenger.Creatable`: topics that are taken at an address
* `RemoteMessenger.ReadsBack`: what has been created under a name is read back

## Main results

* `RemoteMessenger.createTopic_eq_ok_iff`: when a topic is created
* `RemoteMessenger.tells_getTopic`, `RemoteMessenger.tells_messagesOf`: what is told of a topic
  with a legible name
* `RemoteMessenger.legible_of_tells`: no other topic is told by every mailbox that holds it
* `RemoteMessenger.legible_session`: the names of sessions are legible
* `RemoteMessenger.readsBack_iff`: the names that are read back
-/

namespace Resharing

open Http (Url Target Inquiry)
open Http.Url (Legible ascii)

namespace Http

/-- Something is asked for at an address that has been read, if that is not too long. -/
theorem Inquiry.request?_get {address : String} {url : Url}
    (read : Url.ofText? address = some url) : (Inquiry.get address).request? =
      if Url.maxLength < url.length then none else some (url, ⟨"GET", url.target, none, []⟩) := by
  have shown : (Inquiry.get address).address = address := rfl
  rw [request?, shown, read]
  rfl

end Http

/-- The words in the paths of topics, and what is read and written of them. -/
private theorem word_facts :
    (∀ word ∈ ["topics", "messages"], Route.word word ≠ [] ∧
      ∀ byte ∈ Route.word word, Form.isAlphanumeric byte = true) ∧
    Bytes.ofText "/topics/" = ascii '/' :: Route.word "topics" ++ [ascii '/'] ∧
    Bytes.ofText "/messages" = ascii '/' :: Route.word "messages" ∧
    (Percent.encode Url.passesPath (Route.word "topics")).length = 6 ∧
    (Percent.encode Url.passesPath (Route.word "messages")).length = 8 ∧
    (Bytes.ofText "/topics").length = 7 := by
  decide +kernel

/-- A path that ends with a slash has an empty segment at its end. -/
private theorem unnamed_facts :
    ((Bytes.ofText "/topics/").head? = some (ascii '/') ∧ ∀ byte ∈ Bytes.ofText "/topics/",
      Url.endsPath byte = false ∧ Url.isBreak byte = false ∧ Url.isMargin byte = false) ∧
    Url.segmentsOf (Bytes.ofText "/topics/") = [Route.word "topics", []] ∧
    (Route.word "topics").length = 6 := by
  decide +kernel

/-- What the service answers with success, other than a topic, is not read as one. -/
private theorem untold_facts :
    ∀ body ∈ [[], Service.health.compact, (Json.Value.list []).compact],
      (Topic.format.decode body).toOption = none := by
  decide

/-- The one path under which a topic is told. -/
theorem Route.find?_eq_topic {segments : List Bytes} {part : Bytes}
    (found : Route.find? segments = some (.topic part)) :
    segments = [Route.word "topics", part] ∧ part ≠ [] := by
  unfold Route.find? at found
  split at found
  · split_ifs at found <;> cases found
  · split_ifs at found with empty topics
    · cases found
      exact ⟨by rw [topics], empty⟩
    · cases found
  · split_ifs at found <;> cases found
  · cases found

namespace Service

variable {service : Service} {now : Instant} {mailbox : Mailbox} {name : String} {part : Bytes}
  {target : Bytes} {query : Bytes}

/-! ### What the service answers -/

/-- What comes of a request: a refusal leaves the mailbox as it was. -/
def settled (mailbox : Mailbox) : Handled → Http.Response × Mailbox
  | .error refusal => (refusal, mailbox)
  | .ok done => done

/-- A reading request is answered as it is handled. -/
theorem respond_get {segments : List Bytes} {route : Route}
    (read : Target.ofBytes target = .ok ⟨segments, query⟩)
    (found : Route.find? segments = some route) (unwritten : route.isWritten = false) :
    service.respond now ⟨"GET", target, none, []⟩ mailbox =
      (service.handle now route ⟨segments, query⟩ ⟨"GET", target, none, []⟩ mailbox).map
        (settled mailbox) := by
  have allowed : "GET" ∈ route.methods := by simp [Route.methods, unwritten]
  rw [respond, read]
  simp only [found, if_pos allowed]
  rcases service.handle now route ⟨segments, query⟩ ⟨"GET", target, none, []⟩ mailbox with
    crash | refusal | done <;> rfl

theorem pathText_of_decode (named : Percent.decode part = Bytes.ofText name) :
    pathText part = .ok name := by
  rw [pathText, named, Bytes.text?_ofText]

theorem pathText_cases (part : Bytes) :
    (∃ text, pathText part = .ok text ∧ Bytes.ofText text = Percent.decode part) ∨
      pathText part = .error (.refusal 400) := by
  unfold pathText
  cases spelled : Bytes.text? (Percent.decode part) with
  | none => exact .inr rfl
  | some text => exact .inl ⟨text, rfl, Bytes.ofText_of_text? spelled⟩

/-- Who asks for a topic is told the one that the table has. -/
theorem respond_topic (read : Target.ofBytes target = .ok ⟨[Route.word "topics", part], query⟩)
    (filled : part ≠ []) (named : Percent.decode part = Bytes.ofText name) :
    service.respond now ⟨"GET", target, none, []⟩ mailbox =
      .ok (match mailbox.topics.find? name with
        | some topic => .json 200 (topicFormat.value topic)
        | none => errorResponse (.noTopic name), mailbox) := by
  have route : Route.find? [Route.word "topics", part] = some (.topic part) := by
    simp only [Route.find?, if_neg filled, if_true]
  rw [respond_get read route rfl]
  simp only [handle, pathText_of_decode named, Mailbox.getTopic, bind, Except.bind]
  cases mailbox.topics.find? name <;> rfl

theorem respond_messages {topic : Topic}
    (read : Target.ofBytes target =
      .ok ⟨[Route.word "topics", part, Route.word "messages"], query⟩)
    (named : Percent.decode part = Bytes.ofText name)
    (there : mailbox.topics.find? name = some topic) :
    service.respond now ⟨"GET", target, none, []⟩ mailbox =
      .ok (.json 200 (.list ((mailbox.messagesOf topic.name).map service.messageJson)),
        mailbox) := by
  have route : Route.find? [Route.word "topics", part, Route.word "messages"] =
      some (.messages part) := by
    have filled : Route.word "messages" ≠ [] := (word_facts.1 "messages" (by simp)).1
    simp only [Route.find?, if_neg filled, and_self, if_true]
  rw [respond_get read route rfl]
  simp only [handle, pathText_of_decode named, Mailbox.getTopic, bind, Except.bind, there]
  rfl

/-- A client reads the payloads of the messages that are listed, and passes over the rest. -/
theorem reads_messageJson (service : Service) (message : Mailbox.Message) :
    RemoteMessenger.payloadFormat.Reads (service.messageJson message)
      (Base64.encode message.payload) :=
  @Json.Format.reads_single _ _ _ .refused _ _ _ _ _ [("hash", message.hash)]
    [("created_at", service.timestamp message.createdAt)]
    (Json.Format.faithful_text (Base64.encode message.payload)) (by simp)

theorem decode_messages (service : Service) (messages : List Mailbox.Message) :
    (Json.Format.list RemoteMessenger.payloadFormat).decode
        (Json.Value.list (messages.map service.messageJson)).compact =
      .ok (messages.map fun message => Base64.encode message.payload) := by
  refine (Json.Format.reads_list ?_).decode_compact
  rw [List.forall₂_map_left_iff, List.forall₂_map_right_iff, List.forall₂_same]
  exact fun message _ => service.reads_messageJson message

end Service

namespace RemoteMessenger

variable {peers next : Peers} {url : Url} {request : Http.Request} {response : Http.Response}
  {service : Service} {now : Instant} {mailbox : Mailbox} {topic : Topic} {name address : String}
  {scheme host authority slashes : String}

/-! ### What the client is told -/

/-- Payloads are read if each of them is a written form, and none if one is not. -/
theorem payloads_eq_ok_iff {written : List String} {told : List Bytes} :
    payloads written = .ok told ↔ written = told.map Base64.encode := by
  induction written generalizing told with
  | nil =>
    constructor
    · intro read
      obtain rfl := Except.ok.inj read
      rfl
    · intro same
      obtain rfl := List.map_eq_nil_iff.mp same.symm
      rfl
  | cons text rest ih =>
    rw [payloads, List.mapM_cons]
    change ((Base64.decode text).mapError _ >>= fun payload => payloads rest >>= fun later =>
      pure (payload :: later)) = _ ↔ _
    constructor
    · intro read
      cases first : Base64.decode text with
      | error fault => simp [first, Except.mapError, bind, Except.bind] at read
      | ok payload =>
        cases others : payloads rest with
        | error error => simp [first, others, Except.mapError, bind, Except.bind] at read
        | ok later =>
          simp only [first, others, Except.mapError, bind, Except.bind] at read
          obtain rfl := Except.ok.inj read
          rw [List.map_cons, Base64.decode_eq_ok_iff.mp first, ih.mp others]
    · intro same
      obtain ⟨payload, later, rfl, rfl, others⟩ := List.map_eq_cons_iff.mp same.symm
      rw [Base64.decode_encode, ih.mpr others.symm]
      rfl

/-- Asked over the network, a service with the given mailbox tells something, and the mailbox
stays as it is. -/
def Tells {α : Type} (effect : Effect Peers α) (authority : String) (service : Service)
    (mailbox : Mailbox) (told : α) : Prop :=
  ∀ peers now, peers.find? authority = some (.mailbox service now mailbox) →
    effect.perform peers =
      (.ok told, peers.insert authority (.mailbox service (now + Peer.tick) mailbox))

/-- What is told is what is judged of the answer to the segments that the address has. -/
theorem tells_call {α : Type} {context : String} {judge : Http.Response → Except Error α}
    {told : α} (read : Url.ofText? address = some url) (short : url.length ≤ Url.maxLength)
    (answered : ∀ now target, Target.ofBytes target = .ok ⟨url.segments, url.query.getD []⟩ →
      service.respond now ⟨"GET", target, none, []⟩ mailbox = .ok (response, mailbox))
    (final : Http.Status.isFinal response.status = true)
    (whole : Http.Status.isBodiless response.status = false)
    (judged : judge response = .ok told) :
    Tells (call Peers.network (.get address) context judge) url.authority service mailbox told := by
  intro peers now there
  have sent : (Inquiry.get address).request? = some (url, ⟨"GET", url.target, none, []⟩) := by
    rw [Inquiry.request?_get read, if_neg (Nat.not_lt.mpr short)]
  have target := Target.ofBytes_target read (le_trans url.length_target_le short)
  rw [perform_sent context judge sent there, Peer.answer, answered now _ target]
  simp only [judged_whole context judge final whole, judged]

theorem judged_topic (found? : Option Topic) :
    found (match found? with
      | some topic => .json 200 (Service.topicFormat.value topic)
      | none => Service.errorResponse (.noTopic name)) = .ok found? := by
  cases found? with
  | none => rfl
  | some topic =>
    have read : Topic.format.decode (Service.topicFormat.value topic).compact = .ok topic :=
      (Topic.faithful_format topic).decode_encode
    have answer : reply Topic.format (.json 200 (Service.topicFormat.value topic)) = .ok topic := by
      rw [reply, Http.Response.json, read]
      rfl
    exact congrArg (Except.map some) answer

theorem judged_messages (service : Service) (messages : List Mailbox.Message) :
    (do payloads (← reply (.list payloadFormat) (← done "messages"
      (.json 200 (.list (messages.map service.messageJson)))))) =
        .ok (messages.map Mailbox.Message.payload) := by
  have answer : reply (.list payloadFormat)
      (.json 200 (.list (messages.map service.messageJson))) =
        .ok (messages.map fun message => Base64.encode message.payload) := by
    rw [reply, Http.Response.json, Service.decode_messages]
    rfl
  refine Eq.trans ?_ (payloads_eq_ok_iff.mpr List.map_map.symm)
  exact congrArg (fun listed => listed >>= payloads) answer

theorem getTopic_messenger {σ : Type} (remote : RemoteMessenger) (network : Http.Network σ)
    (name : String) : (remote.messenger network).getTopic name =
      call network (remote.topicInquiry name) (contextOf "getTopic") found :=
  rfl

/-! ### Legible names -/

/-- The words in the paths of topics. -/
theorem legible_word {word : String} (among : word ∈ ["topics", "messages"]) :
    Legible (Route.word word) :=
  Url.legible_of_alphanumeric (word_facts.1 word among).1 (word_facts.1 word among).2

/-- The names of sessions are made of letters and digits, two for each byte. -/
theorem isAlphanumeric_session (id : SessionId) :
    ∀ byte ∈ Bytes.ofText id.hex, Form.isAlphanumeric byte = true := by
  have facts : ∀ n < 16, Form.isAlphanumeric (Hex.digit (UInt8.ofNat n)) = true := by
    decide
  intro byte member
  rw [SessionId.hex, Hex.ofText_encode] at member
  obtain ⟨whole, -, half⟩ := List.mem_flatMap.mp member
  simp only [List.mem_cons, List.not_mem_nil, or_false] at half
  rcases half with rfl | rfl
  · have letter := facts _ (Hex.high_lt whole)
    rwa [UInt8.ofNat_toNat] at letter
  · have letter := facts _ (Hex.low_lt whole)
    rwa [UInt8.ofNat_toNat] at letter

theorem length_session (id : SessionId) : (Bytes.ofText id.hex).length = 32 := by
  rw [SessionId.hex, Hex.ofText_encode, Hex.length_digits, id.length_bytes]

/-- The names of sessions are legible. -/
theorem legible_session (id : SessionId) : Legible (Bytes.ofText id.hex) := by
  refine Url.legible_of_alphanumeric (fun empty => ?_) (isAlphanumeric_session id)
  have size := length_session id
  rw [empty] at size
  cases size

/-- What stands behind the host when a topic is asked for. -/
theorem path_topic (name : String) : Bytes.ofText ("/topics/" ++ name) =
    ascii '/' :: Route.word "topics" ++ ascii '/' :: Bytes.ofText name := by
  rw [Bytes.ofText_append, word_facts.2.1, List.append_assoc]
  rfl

theorem path_messages (name : String) : Bytes.ofText ("/topics/" ++ name ++ "/messages") =
    ascii '/' :: Route.word "topics" ++ ascii '/' :: Bytes.ofText name ++
      ascii '/' :: Route.word "messages" := by
  rw [Bytes.ofText_append, path_topic, word_facts.2.2.1]

theorem read_topic (known : scheme ∈ Url.schemes) (hosted : Url.Host host authority)
    (legible : Legible (Bytes.ofText name)) :
    Url.ofText? (scheme ++ "://" ++ host ++ "/topics/" ++ name) =
      some (.naming scheme authority [Route.word "topics", Bytes.ofText name]) := by
  rw [String.append_assoc]
  refine Url.ofText?_of_legible known hosted ?_ ?_
  · rw [path_topic]
    simp
  · simp [legible, legible_word]

theorem read_messages (known : scheme ∈ Url.schemes) (hosted : Url.Host host authority)
    (legible : Legible (Bytes.ofText name)) :
    Url.ofText? (scheme ++ "://" ++ host ++ "/topics/" ++ name ++ "/messages") =
      some (.naming scheme authority
        [Route.word "topics", Bytes.ofText name, Route.word "messages"]) := by
  have parted : scheme ++ "://" ++ host ++ "/topics/" ++ name ++ "/messages" =
      scheme ++ "://" ++ host ++ ("/topics/" ++ name ++ "/messages") := by
    simp only [String.append_assoc]
  rw [parted]
  refine Url.ofText?_of_legible known hosted ?_ ?_
  · rw [path_messages]
    simp
  · simp [legible, legible_word]

/-- How long the addresses of a topic and of its messages are. -/
theorem length_naming (scheme authority name : String) :
    (Url.naming scheme authority [Route.word "topics", Bytes.ofText name]).length =
      scheme.utf8ByteSize + authority.utf8ByteSize +
        (Percent.encode Url.passesPath (Bytes.ofText name)).length + 11 ∧
    (Url.naming scheme authority
        [Route.word "topics", Bytes.ofText name, Route.word "messages"]).length =
      scheme.utf8ByteSize + authority.utf8ByteSize +
        (Percent.encode Url.passesPath (Bytes.ofText name)).length + 20 := by
  obtain ⟨-, -, -, topics, messages, -⟩ := word_facts
  simp only [Url.naming, Url.length, Url.target, List.map_cons, List.map_nil, List.flatMap_cons,
    List.flatMap_nil, List.length_append, List.length_cons, List.length_nil, topics, messages]
  omega

/-- What is asked for under a legible name is what the service looks up. -/
theorem segments_topic (legible : Legible (Bytes.ofText name)) :
    Percent.encode Url.passesPath (Bytes.ofText name) ≠ [] ∧
      Percent.decode (Percent.encode Url.passesPath (Bytes.ofText name)) = Bytes.ofText name := by
  have back := (Url.decode_encode_path (Bytes.ofText name)).trans legible.literal
  refine ⟨fun empty => legible.filled ?_, back⟩
  rw [← back, empty, Percent.decode]

/-- Asked for a topic with a legible name, the service tells the one that the table has. -/
theorem tells_getTopic (known : scheme ∈ Url.schemes) (hosted : Url.Host host authority)
    (legible : Legible (Bytes.ofText name))
    (short : scheme.utf8ByteSize + authority.utf8ByteSize +
      (Percent.encode Url.passesPath (Bytes.ofText name)).length + 11 ≤ Url.maxLength)
    (service : Service) (mailbox : Mailbox) :
    Tells ((messenger ⟨scheme ++ "://" ++ host⟩ Peers.network).getTopic name) authority service
      mailbox (mailbox.topics.find? name) := by
  obtain ⟨filled, named⟩ := segments_topic legible
  have read := read_topic known hosted legible
  have fits := (length_naming scheme authority name).1.trans_le short
  rw [getTopic_messenger]
  refine tells_call read fits (fun now target sent => Service.respond_topic sent filled named) ?_ ?_
    (judged_topic _)
  · cases mailbox.topics.find? name <;> rfl
  · cases mailbox.topics.find? name <;> rfl

theorem tells_messagesOf (known : scheme ∈ Url.schemes) (hosted : Url.Host host authority)
    (legible : Legible (Bytes.ofText name))
    (short : scheme.utf8ByteSize + authority.utf8ByteSize +
      (Percent.encode Url.passesPath (Bytes.ofText name)).length + 20 ≤ Url.maxLength)
    (service : Service) (there : mailbox.topics.find? name = some topic) :
    Tells (messagesOf ⟨scheme ++ "://" ++ host⟩ Peers.network name) authority service mailbox
      ((mailbox.messagesOf topic.name).map Mailbox.Message.payload) := by
  obtain ⟨-, named⟩ := segments_topic legible
  have read := read_messages known hosted legible
  have fits := (length_naming scheme authority name).2.trans_le short
  exact tells_call read fits (fun now target sent => Service.respond_messages sent named there)
    rfl rfl (judged_messages service _)

/-! ### Topics are created -/

/-- A topic is taken at an address, whatever the mailbox there holds. -/
structure Creatable (scheme authority : String) (topic : Topic) : Prop where
  short : scheme.utf8ByteSize + authority.utf8ByteSize + 10 ≤ Url.maxLength
  small : (Topic.format.encode topic).length ≤ Service.bodyLimit
  named : topic.name ≠ ""
  subscribed : topic.subscribers ≠ []

theorem length_target_createTopic (topic : Topic) :
    (Call.createTopic topic).target.length = 7 :=
  (congrArg List.length (List.append_nil _)).trans word_facts.2.2.2.2.2

/-- What the mailbox takes a topic for. -/
theorem createTopic_cases (mailbox : Mailbox) (topic : Topic) :
    (topic.name ≠ "" ∧ topic.subscribers ≠ [] ∧
      mailbox.createTopic topic = .ok (mailbox.putTopic topic)) ∨
    ¬ (topic.name ≠ "" ∧ topic.subscribers ≠ []) ∧
      ∃ error, mailbox.createTopic topic = .error error := by
  unfold Mailbox.createTopic
  split_ifs with unnamed empty
  · exact .inr ⟨fun valid => valid.1 unnamed, _, rfl⟩
  · exact .inr ⟨fun valid => valid.2 empty, _, rfl⟩
  · exact .inl ⟨unnamed, empty, rfl⟩

/-- When a topic is created, and what the creation leaves. -/
theorem createTopic_eq_ok_iff (known : scheme ∈ Url.schemes) (hosted : Url.Host host authority)
    (there : peers.find? authority = some (.mailbox service now mailbox)) :
    ((messenger ⟨scheme ++ "://" ++ host⟩ Peers.network).createTopic topic).perform peers =
        (.ok (), next) ↔
      Creatable scheme authority topic ∧
        next = peers.insert authority
          (.mailbox service (now + Peer.tick) (mailbox.putTopic topic)) := by
  have size := length_target_createTopic topic
  refine (@Call.perform_eq_ok_iff peers (.createTopic topic) scheme host authority service now
    mailbox known hosted there next).trans ?_
  constructor
  · rintro ⟨short, small, made, created, rfl⟩
    have operated := Except.ok.inj created
    obtain ⟨named, subscribed, taken⟩ | ⟨-, error, refused⟩ := createTopic_cases mailbox topic
    · obtain rfl := Except.ok.inj (taken.symm.trans operated)
      exact ⟨⟨by omega, small, named, subscribed⟩, rfl⟩
    · exact nomatch refused.symm.trans operated
  · rintro ⟨creatable, rfl⟩
    have short := creatable.short
    refine ⟨by omega, creatable.small, mailbox.putTopic topic, congrArg Except.ok ?_, rfl⟩
    rw [Mailbox.createTopic, if_neg creatable.named, if_neg creatable.subscribed]

/-! ### Only legible names are read back -/

theorem untold {body : Bytes} (among : body ∈ [[], Service.health.compact,
    (Json.Value.list []).compact]) : Topic.format.decode body ≠ .ok topic := by
  intro decoded
  have nothing := untold_facts body among
  rw [decoded] at nothing
  cases nothing

/-- A client finds a topic in the body of a response whose status says that there is one. -/
theorem found_eq_some (told : found response = .ok (some topic)) :
    response.isSuccess = true ∧ Topic.format.decode response.body = .ok topic := by
  unfold found done at told
  split_ifs at told with missing success
  · cases told
  · refine ⟨success, ?_⟩
    simp only [bind, Except.bind, reply] at told
    cases decoded : Topic.format.decode response.body with
    | error fault =>
      rw [decoded] at told
      cases told
    | ok other =>
      rw [decoded] at told
      cases told
      rfl
  · cases told

/-- It does so in no answer without a response, and in none without a body. -/
theorem judged_eq_some {context : String} {answer : Http.Answer}
    (told : (unsent context answer.result).bind found = .ok (some topic)) :
    ∃ response, answer = .response response ∧ response.isSuccess = true ∧
      Topic.format.decode response.body = .ok topic := by
  cases answer with
  | unreachable => cases told
  | silence => cases told
  | response response =>
    refine ⟨response, rfl, ?_⟩
    rw [Http.Answer.result] at told
    split_ifs at told
    · have received := found_eq_some (told : found response.received = .ok (some topic))
      rw [Http.Response.received] at received
      split_ifs at received
      · exact absurd received.2 (untold (by simp [Http.Response.withoutBody]))
      · exact received
    · cases told

/-- What is found in a mailbox with one topic. -/
theorem find?_single (lifetime : Int) (topic : Topic) (other : String) :
    ((Mailbox.start lifetime).putTopic topic).topics.find? other =
      if other == topic.name then some topic else none :=
  Table.find?_insert _ _ _ _

/-- A mailbox with one topic tells it only under a path that has its name. -/
theorem eq_topic_of_handle {route : Route} {target : Target} {told : Topic}
    {lifetime : Int} {after : Mailbox} (unwritten : route.isWritten = false)
    (answered : (service.handle now route target request
      ((Mailbox.start lifetime).putTopic topic)).map (Service.settled mailbox) =
        .ok (response, after))
    (success : response.isSuccess = true)
    (decoded : Topic.format.decode response.body = .ok told) :
    ∃ part, route = .topic part ∧ Percent.decode part = Bytes.ofText topic.name := by
  -- No other answer has a status of success and a body that is read as a topic.
  cases route with
  | topics | nodes | publish | results => cases unwritten
  | health =>
    cases answered
    exact absurd decoded (untold (by simp [Http.Response.json]))
  | topic part =>
    obtain ⟨text, spelled, same⟩ | refused := Service.pathText_cases part
    · simp only [Service.handle, spelled, Mailbox.getTopic, bind, Except.bind, find?_single]
        at answered
      split_ifs at answered with named
      · exact ⟨part, rfl, by rw [← beq_iff_eq.mp named, same]⟩
      · cases answered
        cases success
    · simp only [Service.handle, refused] at answered
      cases answered
      cases success
  | messages part =>
    obtain ⟨text, spelled, -⟩ | refused := Service.pathText_cases part
    · simp only [Service.handle, spelled, Mailbox.getTopic, bind, Except.bind, find?_single]
        at answered
      split_ifs at answered
      · cases answered
        have nothing (name : String) :
            ((Mailbox.start lifetime).putTopic topic).messagesOf name = [] := by
          simp [Mailbox.messagesOf, Mailbox.putTopic, Mailbox.start, Table.empty]
        rw [nothing, List.map_nil] at decoded
        exact absurd decoded (untold (by simp [Http.Response.json]))
      · cases answered
        cases success
    · simp only [Service.handle, refused] at answered
      cases answered
      cases success
  | result kind asked =>
    obtain ⟨text, spelled, -⟩ | refused := Service.pathText_cases kind
    · obtain ⟨text, spelled', -⟩ | refused := Service.pathText_cases asked
      · simp only [Service.handle, spelled, spelled', Mailbox.getResult] at answered
        cases answered
        cases success
      · simp only [Service.handle, spelled, refused] at answered
        cases answered
        cases success
    · simp only [Service.handle, refused] at answered
      cases answered
      cases success

/-- So it is told only to a client that has asked for its name. -/
theorem decode_of_respond {segments : List Bytes} {target query : Bytes} {told : Topic}
    {lifetime : Int} {after : Mailbox}
    (read : Target.ofBytes target = .ok ⟨segments, query⟩)
    (answered : service.respond now ⟨"GET", target, none, []⟩
      ((Mailbox.start lifetime).putTopic topic) = .ok (response, after))
    (success : response.isSuccess = true)
    (decoded : Topic.format.decode response.body = .ok told) :
    ∃ part ∈ segments, part ≠ [] ∧ Percent.decode part = Bytes.ofText topic.name := by
  cases found : Route.find? segments with
  | none =>
    rw [Service.respond, read] at answered
    simp only [found] at answered
    cases answered
    cases success
  | some route =>
    cases written : route.isWritten with
    | true =>
      have disallowed : "GET" ∉ route.methods := by simp [Route.methods, written]
      rw [Service.respond, read] at answered
      simp only [found, if_neg disallowed] at answered
      cases answered
      cases success
    | false =>
      rw [Service.respond_get read found written] at answered
      obtain ⟨part, rfl, named⟩ := eq_topic_of_handle written answered success decoded
      obtain ⟨rfl, filled⟩ := Route.find?_eq_topic found
      exact ⟨part, by simp, filled, named⟩

/-- Where something is told, something has been asked: the address is not too long. -/
theorem Tells.asked {α : Type} {context : String} {judge : Http.Response → Except Error α}
    {told : α} (tells : Tells (call Peers.network (.get address) context judge) authority service
      mailbox told) (read : Url.ofText? address = some url) (same : url.authority = authority) :
    url.length ≤ Url.maxLength ∧
      (unsent context ((Peer.mailbox service 0 mailbox).answer
        ⟨"GET", url.target, none, []⟩).1.result).bind judge = .ok told := by
  subst same
  have there : (Table.empty.insert url.authority (.mailbox service 0 mailbox) : Peers).find?
      url.authority = some (.mailbox service 0 mailbox) :=
    Table.find?_insert_self _ _ _
  have performed := tells _ 0 there
  have sent := Inquiry.request?_get read
  by_cases long : Url.maxLength < url.length
  · rw [if_pos long] at sent
    rw [perform_unsent _ _ _ _ sent] at performed
    cases performed
  · rw [if_neg long] at sent
    rw [perform_sent _ _ sent there] at performed
    exact ⟨Nat.not_lt.mp long, (Prod.ext_iff.mp performed).1⟩

/-- If a mailbox with one topic tells it, its name is legible. -/
theorem legible_of_tells {lifetime : Int} {subscribers : List String}
    (known : scheme ∈ Url.schemes) (hosted : Url.Host host authority)
    (tells : Tells ((messenger ⟨scheme ++ "://" ++ host⟩ Peers.network).getTopic name) authority
      service ((Mailbox.start lifetime).putTopic ⟨name, subscribers⟩)
      (some ⟨name, subscribers⟩)) : Legible (Bytes.ofText name) := by
  have word : Legible (Route.word "topics") := legible_word (by simp)
  have slashed : (Bytes.ofText ("/topics/" ++ name)).head? = some (ascii '/') := by
    rw [path_topic]
    rfl
  have read := Url.ofText?_of_slashed known hosted slashed
  rw [path_topic, Url.path_of_name word, ← String.append_assoc] at read
  rw [getTopic_messenger] at tells
  obtain ⟨short, told⟩ := tells.asked read rfl
  obtain ⟨response, answer, success, decoded⟩ := judged_eq_some told
  have target := Target.ofBytes_target read (le_trans (Url.length_target_le _) short)
  rw [Peer.answer] at answer
  split at answer
  · next answered =>
    cases answer
    obtain ⟨part, inside, filled, named⟩ := decode_of_respond target answered success decoded
    exact Url.legible_of_decode word inside filled named
  · cases answer

/-! ### Reading back -/

/-- What has been created under a name is read back, whatever has been done since, as long as
nothing has opened the topic again. A topic that nothing has opened is reported as missing. -/
structure ReadsBack (remote : RemoteMessenger) (authority name : String) : Prop where
  created : ∀ {peers next : Peers} {service : Service} {now : Instant} {mailbox : Mailbox}
      {subscribers : List String}, peers.find? authority = some (.mailbox service now mailbox) →
    ((remote.messenger Peers.network).createTopic ⟨name, subscribers⟩).perform peers =
      (.ok (), next) →
    ∃ made, next.find? authority = some (.mailbox service (now + Peer.tick) made) ∧
      ∀ later, ¬ Mailbox.Opened name later →
        Tells ((remote.messenger Peers.network).getTopic name) authority service
            (made.run service.digest later) (some ⟨name, subscribers⟩) ∧
          Tells (remote.messagesOf Peers.network name) authority service
            (made.run service.digest later)
            (((made.run service.digest later).messagesOf name).map Mailbox.Message.payload)
  unknown : ∀ (service : Service) lifetime actions, ¬ Mailbox.Opened name actions →
    Tells ((remote.messenger Peers.network).getTopic name) authority service
      (Mailbox.ofActions service.digest lifetime actions) none

/-- There is no topic without a name, and a client that asks for one is told so. -/
theorem tells_unnamed (known : scheme ∈ Url.schemes) (hosted : Url.Host host authority)
    (room : scheme.utf8ByteSize + authority.utf8ByteSize + 11 ≤ Url.maxLength)
    (service : Service) (mailbox : Mailbox) :
    Tells ((messenger ⟨scheme ++ "://" ++ host⟩ Peers.network).getTopic "") authority service
      mailbox none := by
  obtain ⟨simple, segments, size⟩ := unnamed_facts
  have read := Url.ofText?_of_host known hosted ⟨simple.1, simple.2⟩
  rw [segments] at read
  have short : (⟨scheme, authority, [Route.word "topics", []], none⟩ : Url).length ≤
      Url.maxLength := by
    simp only [Url.length, Url.target, List.flatMap_cons, List.flatMap_nil, List.length_append,
      List.length_cons, List.length_nil, size]
    omega
  have judged : found (.bare 404) = .ok none := rfl
  rw [getTopic_messenger, topicInquiry, String.append_empty]
  refine tells_call read short (fun now target sent => ?_) (by rfl) (by rfl) judged
  have missing : Route.find? [Route.word "topics", []] = none := rfl
  rw [Service.respond, sent]
  simp only [missing]

/-- No topic without a name is created. -/
theorem readsBack_unnamed (known : scheme ∈ Url.schemes) (hosted : Url.Host host authority)
    (room : scheme.utf8ByteSize + authority.utf8ByteSize + 11 ≤ Url.maxLength) :
    ReadsBack ⟨scheme ++ "://" ++ host⟩ authority "" where
  created there creation :=
    absurd rfl ((createTopic_eq_ok_iff known hosted there).mp creation).1.named
  unknown service _ _ _ := tells_unnamed known hosted room service _

theorem readsBack_of_legible (known : scheme ∈ Url.schemes) (hosted : Url.Host host authority)
    (legible : Legible (Bytes.ofText name))
    (short : scheme.utf8ByteSize + authority.utf8ByteSize +
      (Percent.encode Url.passesPath (Bytes.ofText name)).length + 20 ≤ Url.maxLength) :
    ReadsBack ⟨scheme ++ "://" ++ host⟩ authority name where
  created {peers next service now mailbox subscribers} there creation := by
    obtain ⟨-, rfl⟩ := (createTopic_eq_ok_iff known hosted there).mp creation
    refine ⟨mailbox.putTopic ⟨name, subscribers⟩, Table.find?_insert_self _ _ _,
      fun later unopened => ?_⟩
    have kept : ((mailbox.putTopic ⟨name, subscribers⟩).run service.digest later).topics.find?
        name = some ⟨name, subscribers⟩ := by
      rw [Mailbox.find?_run _ _ fun action member opens => unopened ⟨action, member, opens⟩,
        Mailbox.putTopic, Table.find?_insert_self]
    have told := tells_getTopic known hosted legible (by omega) service
      ((mailbox.putTopic ⟨name, subscribers⟩).run service.digest later)
    rw [kept] at told
    exact ⟨told, tells_messagesOf known hosted legible short service kept⟩
  unknown service lifetime actions unopened := by
    have missing : (Mailbox.ofActions service.digest lifetime actions).topics.find? name = none :=
      Mailbox.find?_run _ _ fun action member opens => unopened ⟨action, member, opens⟩
    have told := tells_getTopic known hosted legible (by omega) service
      (Mailbox.ofActions service.digest lifetime actions)
    rwa [missing] at told

/-- If a topic can be created and is read back, its name is legible and not too long. -/
theorem ReadsBack.legible {subscribers : List String} (known : scheme ∈ Url.schemes)
    (hosted : Url.Host host authority)
    (back : ReadsBack ⟨scheme ++ "://" ++ host⟩ authority name)
    (creatable : Creatable scheme authority ⟨name, subscribers⟩) :
    Legible (Bytes.ofText name) ∧ scheme.utf8ByteSize + authority.utf8ByteSize +
      (Percent.encode Url.passesPath (Bytes.ofText name)).length + 20 ≤ Url.maxLength := by
  -- The topic is created where there was nothing, and then it is read back at once.
  have there : (Table.empty.insert authority (.mailbox ⟨Blake3.digest, fun _ => ""⟩ 0 (.start 0)) :
      Peers).find? authority = some (.mailbox ⟨Blake3.digest, fun _ => ""⟩ 0 (.start 0)) :=
    Table.find?_insert_self _ _ _
  obtain ⟨made, left, told⟩ :=
    back.created there ((createTopic_eq_ok_iff known hosted there).mpr ⟨creatable, rfl⟩)
  rw [Table.find?_insert_self] at left
  cases left
  obtain ⟨topic, messages⟩ := told [] (by simp [Mailbox.Opened])
  rw [Mailbox.run, List.foldl_nil] at topic
  rw [messagesOf, messagesInquiry] at messages
  have legible := legible_of_tells known hosted topic
  have short := (messages.asked (read_messages known hosted legible) rfl).1
  rw [(length_naming scheme authority name).2] at short
  exact ⟨legible, short⟩

/-- What has been created under a name is read back exactly if the name is legible and not too
long for an address. Without a name nothing is created. -/
theorem readsBack_iff {subscribers : List String} (known : scheme ∈ Url.schemes)
    (hosted : Url.Host host authority) (trimmed : ∀ c ∈ slashes.toList, c = '/')
    (room : scheme.utf8ByteSize + authority.utf8ByteSize + 11 ≤ Url.maxLength)
    (small : (Topic.format.encode ⟨name, subscribers⟩).length ≤ Service.bodyLimit)
    (subscribed : subscribers ≠ []) :
    ReadsBack (atAddress (scheme ++ "://" ++ host ++ slashes)) authority name ↔
      name = "" ∨ Legible (Bytes.ofText name) ∧
        scheme.utf8ByteSize + authority.utf8ByteSize +
          (Percent.encode Url.passesPath (Bytes.ofText name)).length + 20 ≤ Url.maxLength := by
  rw [atAddress_of_host hosted trimmed]
  constructor
  · intro back
    by_cases unnamed : name = ""
    · exact .inl unnamed
    · exact .inr (back.legible known hosted ⟨by omega, small, unnamed, subscribed⟩)
  · rintro (rfl | ⟨legible, short⟩)
    · exact readsBack_unnamed known hosted room
    · exact readsBack_of_legible known hosted legible short

/-- Spaces, letters beyond ASCII and a percent sign without digits are legible. -/
theorem readsBack_iff_spaced :
    ReadsBack (atAddress ("http" ++ "://" ++ "Mail:3000" ++ "/")) "mail:3000" "é 100% ok" := by
  have hosted : Url.Host "Mail:3000" "mail:3000" := ⟨by decide +kernel, by decide +kernel⟩
  have facts : Url.isLegible (Bytes.ofText "é 100% ok") = true ∧
      (Topic.format.encode ⟨"é 100% ok", ["1"]⟩).length ≤ Service.bodyLimit ∧
      "http".utf8ByteSize + "mail:3000".utf8ByteSize +
        (Percent.encode Url.passesPath (Bytes.ofText "é 100% ok")).length + 20 ≤ Url.maxLength := by
    decide +kernel
  obtain ⟨legible, small, short⟩ := facts
  exact (@readsBack_iff "é 100% ok" "http" "Mail:3000" "mail:3000" "/" ["1"]
    (by simp [Url.schemes]) hosted (by simp) (by omega) small (by simp)).mpr
      (.inr ⟨Url.isLegible_iff.mp legible, short⟩)

/-- A topic that has been created under a name with a slash is reported as missing, and instead
of one that nobody has created, with a question mark in its name, another topic is told. -/
theorem slash_hides_topic :
    let peers := Peers.ofList
      [("mail:3000", .mailbox ⟨Blake3.digest, fun _ => ""⟩ 5 (.start Mailbox.standardLifetime))]
    let messenger := (atAddress "http://mail:3000").messenger Peers.network
    let slashed := (messenger.createTopic ⟨"a/b", ["1"]⟩).perform peers
    let plain := (messenger.createTopic ⟨"a", ["1"]⟩).perform peers
    (slashed.1 = .ok () ∧ ((messenger.getTopic "a/b").perform slashed.2).1 = .ok none) ∧
      plain.1 = .ok () ∧
        ((messenger.getTopic "a?b").perform plain.2).1 = .ok (some ⟨"a", ["1"]⟩) := by
  decide +kernel

end RemoteMessenger

end Resharing
