import Resharing.Mailbox.Service
import Resharing.Messenger.Remote
import Resharing.Peer.Basic
import Resharing.Proofs.Http.Address
import Resharing.Proofs.Json.Faithful
import Resharing.Proofs.Json.Records

/-!
# A messenger over the network is the mailbox behind it

A call of the messenger puts its arguments into the path, the query and the body of one request.
The service takes them out again as they were, whatever characters and bytes they are made of,
and does the one operation that the call stands for. The status of the response tells the client
whether the operation was done; if it was refused, or if it crashed and nothing is answered, the
client reports a failure of the messenger.

The address and the request line have to be short enough to be sent, and the body has to be small
enough to be taken.

## Main definitions

* `RemoteMessenger.Call`: a call of the messenger that changes the mailbox
* `RemoteMessenger.Call.operate`, `RemoteMessenger.Call.leaves`: what comes of the operation of
  the mailbox that it stands for, and the mailbox afterwards
* `RemoteMessenger.Call.request`: the request that it sends

## Main results

* `RemoteMessenger.Call.request?_inquiry`: what is sent
* `RemoteMessenger.Call.respond_request`, `RemoteMessenger.Call.respond_oversized`: what the
  service makes of it
* `RemoteMessenger.perform_sent`, `RemoteMessenger.judged_response`: what the client makes of an
  answer
* `RemoteMessenger.Call.perform_eq_ok_iff`: when a call is done
* `RemoteMessenger.calls_refine_mailbox`: a call does what the operation does
-/

namespace Resharing

theorem Topic.faithful_format : Topic.format.Faithful :=
  Json.Format.faithful_record
    ⟨Json.Format.faithful_text, by decide, Json.Format.faithful_list Json.Format.faithful_text,
      by decide, trivial⟩
    fun _ => rfl

theorem Subscriber.faithful_format : Subscriber.format.Faithful :=
  Json.Format.faithful_record
    ⟨Json.Format.faithful_text, by decide, Json.Format.faithful_text, by decide, trivial⟩
    fun _ => rfl

namespace RemoteMessenger

/-- A call of the messenger that changes the mailbox. -/
inductive Call where
  | createTopic (topic : Topic)
  | registerNode (node : Subscriber) (topic : String)
  | publish (topic : String) (payload : Bytes)
  | stream (kind : StreamKind) (request : String) (payload : Bytes)

namespace Call

/-- The call as an effect of a messenger. -/
def effect {σ : Type} (messenger : Messenger σ) : Call → Effect σ Unit
  | .createTopic topic => messenger.createTopic topic
  | .registerNode node topic => messenger.registerNode node topic
  | .publish topic payload => messenger.publish topic payload
  | .stream kind request payload => messenger.stream kind request payload

/-- What comes of the operation of the mailbox that the call stands for: the mailbox that it
leaves, a refusal or a crash. -/
def operate (digest : Bytes → Bytes) (now : Instant) (mailbox : Mailbox) :
    Call → Except Crash (Except MailboxError Mailbox)
  | .createTopic topic => .ok (mailbox.createTopic topic)
  | .registerNode node topic => .ok (mailbox.registerNode node topic)
  | .publish topic payload =>
    (mailbox.publish digest now topic payload).map fun result => result.map Prod.snd
  | .stream kind request payload => .ok (mailbox.putResult kind.name request payload)

/-! ### What is sent -/

/-- The path of the request. -/
def path : Call → String
  | .createTopic _ => "/topics"
  | .registerNode _ _ => "/register_node"
  | .publish _ _ => "/publish"
  | .stream kind _ _ => "/stream/" ++ kind.name

/-- The field of the query, if there is one. -/
def field? : Call → Option (String × String)
  | .createTopic _ => none
  | .registerNode _ topic => some ("subscribes_to", topic)
  | .publish topic _ => some ("topic_name", topic)
  | .stream _ request _ => some ("request_id", request)

def body : Call → Bytes
  | .createTopic topic => Topic.format.encode topic
  | .registerNode node _ => Subscriber.format.encode node
  | .publish _ payload => payload
  | .stream _ _ payload => payload

/-- The path and the query as they are sent. -/
def target (call : Call) : Bytes :=
  Bytes.ofText call.path ++
    match call.field? with
    | none => []
    | some (name, value) => '?'.toUInt8 :: Form.encodeField name value

def request (call : Call) : Http.Request :=
  ⟨"POST", call.target, some Http.Response.jsonType, call.body⟩

/-- What is asked of a messenger. -/
def inquiry (call : Call) (remote : RemoteMessenger) : Http.Inquiry :=
  .post (remote.address ++ call.path) call.field?.toList call.body

variable {call : Call} {scheme host authority : String}

/-- The paths of all calls. -/
def paths : List String :=
  ["/topics", "/register_node", "/publish", "/stream/dkgoutput", "/stream/dkgblame"]

theorem path_mem (call : Call) : call.path ∈ paths := by
  cases call with
  | stream kind => cases kind <;> simp [path, paths, StreamKind.name]
  | _ => simp [path, paths]

private theorem path_facts : ∀ path ∈ paths,
    ((Bytes.ofText path).head? = some (Http.Url.ascii '/') ∧ ∀ byte ∈ Bytes.ofText path,
      Http.Url.endsPath byte = false ∧ Http.Url.isBreak byte = false ∧
        Http.Url.isMargin byte = false) ∧
    ((Http.Url.segmentsOf (Bytes.ofText path)).flatMap fun segment =>
      Http.Url.ascii '/' :: segment) = Bytes.ofText path := by
  decide +kernel

theorem simple_path (call : Call) : Http.Url.Simple (Bytes.ofText call.path) :=
  have facts := (path_facts call.path call.path_mem).1
  ⟨facts.1, facts.2⟩

/-- The call is sent to the authority of the messenger, unless its address is too long. -/
theorem request?_inquiry_eq (known : scheme ∈ Http.Url.schemes)
    (hosted : Http.Url.Host host authority) : ∃ url : Http.Url, url.authority = authority ∧
      (call.inquiry ⟨scheme ++ "://" ++ host⟩).request? =
        if Http.Url.maxLength <
            scheme.utf8ByteSize + 3 + authority.utf8ByteSize + call.target.length then none
        else some (url, call.request) := by
  let url : Http.Url :=
    ⟨scheme, authority, Http.Url.segmentsOf (Bytes.ofText call.path),
      call.field?.map fun field => Form.encodeField field.1 field.2⟩
  have read := Http.Url.ofText?_of_host known hosted (simple_path call)
  have target : url.target = call.target := by
    simp only [Http.Url.target, Call.target, url, (path_facts call.path call.path_mem).2]
    cases call.field? <;> rfl
  have size : url.length =
      scheme.utf8ByteSize + 3 + authority.utf8ByteSize + call.target.length := by
    rw [Http.Url.length, target]
  -- What is read of the address has no query yet. The field makes one; without a field none
  -- must be made, not even an empty one.
  let bare : Http.Url := { url with query := none }
  have filled : (if call.field?.toList = [] then bare else bare.withFields call.field?.toList) =
      url := by
    simp only [bare, url]
    cases call.field? with
    | none => rfl
    | some field =>
      refine (if_neg (by simp)).trans (Http.Url.withFields_single ?_ field.1 field.2)
      rfl
  refine ⟨url, rfl, ?_⟩
  have address : (call.inquiry ⟨scheme ++ "://" ++ host⟩).address =
      scheme ++ "://" ++ host ++ call.path := rfl
  have fields : (call.inquiry ⟨scheme ++ "://" ++ host⟩).fields = call.field?.toList := rfl
  rw [Http.Inquiry.request?, address, read]
  simp only [Option.bind_eq_bind, Option.bind_some, fields]
  change (if Http.Url.maxLength < (if call.field?.toList = [] then bare
    else bare.withFields call.field?.toList).length then none else some _) = _
  rw [filled, size, target]
  rfl

theorem request?_inquiry (known : scheme ∈ Http.Url.schemes)
    (hosted : Http.Url.Host host authority)
    (short : scheme.utf8ByteSize + 3 + authority.utf8ByteSize + call.target.length ≤
      Http.Url.maxLength) :
    ∃ url : Http.Url, (call.inquiry ⟨scheme ++ "://" ++ host⟩).request? = some (url, call.request) ∧
      url.authority = authority := by
  obtain ⟨url, same, sent⟩ := @request?_inquiry_eq call scheme host authority known hosted
  exact ⟨url, sent.trans (if_neg (Nat.not_lt.mpr short)), same⟩

/-! ### What the service makes of it -/

/-- What the path stands for. -/
def route : Call → Route
  | .createTopic _ => .topics
  | .registerNode _ _ => .nodes
  | .publish _ _ => .publish
  | .stream kind _ _ => .results (Bytes.ofText kind.name)

private theorem calm_facts : ∀ path ∈ paths,
    '/'.toUInt8 :: (Bytes.ofText path).tail = Bytes.ofText path ∧
    ∀ byte ∈ (Bytes.ofText path).tail, Http.Target.isCalm byte = true := by
  decide +kernel

theorem find?_segments (call : Call) :
    Route.find? (Form.pieces '/'.toUInt8 (Bytes.ofText call.path).tail) = some call.route := by
  cases call with
  | createTopic => exact (by decide :
      Route.find? (Form.pieces '/'.toUInt8 (Bytes.ofText "/topics").tail) = some .topics)
  | registerNode => exact (by decide :
      Route.find? (Form.pieces '/'.toUInt8 (Bytes.ofText "/register_node").tail) = some .nodes)
  | publish => exact (by decide :
      Route.find? (Form.pieces '/'.toUInt8 (Bytes.ofText "/publish").tail) = some .publish)
  | stream kind =>
    have found : ∀ kind : StreamKind, Route.find? (Form.pieces '/'.toUInt8
        (Bytes.ofText ("/stream/" ++ kind.name)).tail) =
          some (.results (Bytes.ofText kind.name)) := by
      intro kind
      cases kind <;> decide
    exact found kind

/-- The target of a call as the service reads it. -/
def read (call : Call) : Http.Target :=
  ⟨Form.pieces '/'.toUInt8 (Bytes.ofText call.path).tail,
    (call.field?.map fun field => Form.encodeField field.1 field.2).getD []⟩

/-- The target is read as the path and the field that it was put together from. -/
theorem ofBytes_target (short : call.target.length ≤ Http.Target.maxLength) :
    Http.Target.ofBytes call.target =
      .ok call.read := by
  obtain ⟨slashed, calm⟩ := calm_facts call.path call.path_mem
  let query := call.field?.map fun field => Form.encodeField field.1 field.2
  have whole : call.target =
      '/'.toUInt8 :: (Bytes.ofText call.path).tail ++ Http.Target.behind query := by
    rw [target, slashed]
    simp only [query]
    cases call.field? <;> rfl
  have quiet : ∀ asked ∈ query, ∀ byte ∈ asked, Http.Target.isQuiet byte = true := by
    intro asked there byte member
    obtain ⟨field, -, rfl⟩ := Option.map_eq_some_iff.mp there
    exact Http.Target.isQuiet_of_isCalm (Http.Target.isCalm_encodeField _ _ byte member)
  rw [whole] at short ⊢
  exact Http.Target.ofBytes_parts short calm quiet

theorem isWritten_route (call : Call) : call.route.isWritten = true := by
  cases call <;> rfl

variable {service : Service} {now : Instant} {mailbox : Mailbox}

/-- The field of the query as the service takes it out. -/
theorem queryText_field {target : Http.Target} {name value : String}
    (query : target.query = Form.encodeField name value) :
    Service.queryText target name = .ok value := by
  rw [Service.queryText, query, Form.single?_encodeField]

/-- The body as the service takes it out. -/
theorem bodyOf_request (small : call.body.length ≤ Service.bodyLimit) :
    Service.bodyOf call.request = .ok call.body :=
  if_pos small

/-- Clients and the service have each a form of their own for topics. They agree. -/
theorem topicFormat_eq : Service.topicFormat = Topic.format := rfl

theorem nodeFormat_eq : Service.nodeFormat = Subscriber.format := rfl

theorem name_mem_resultKinds (kind : StreamKind) : kind.name ∈ Service.resultKinds := by
  cases kind <;> simp [StreamKind.name, Service.resultKinds]

theorem isJsonType_json : Service.isJsonType Http.Response.jsonType = true := by decide

/-- A value in the body as the service takes it out, if client and service have one form of it. -/
theorem bodyJson_request {α : Type} {format taken : Json.Format α} {a : α}
    (faithful : format.Faithful) (agree : taken = format) (written : call.body = format.encode a)
    (small : call.body.length ≤ Service.bodyLimit) :
    Service.bodyJson taken call.request = .ok a := by
  have read : taken.decodeLeading call.body = .ok a := by
    have back := faithful a [] Json.ends_nil
    rw [List.append_nil] at back
    rw [agree, written, Json.Format.decodeLeading, back]
    rfl
  have json : call.request.contentType.any Service.isJsonType = true := isJsonType_json
  rw [Service.bodyJson, if_pos json, bodyOf_request small]
  simp only [bind, Except.bind, read]
  rfl

/-- What a handler has to come to, by what comes of the operation. -/
def Handles : Except Crash (Except MailboxError Mailbox) → Except Crash Service.Handled → Prop
  | .ok (.ok next), handled =>
    ∃ response : Http.Response, response.status = 200 ∧ handled = .ok (.ok (response, next))
  | .ok (.error error), handled => handled = .ok (.error (Service.errorResponse error))
  | .error crash, handled => handled = .error crash

/-- The service does the operation of the call with the arguments of the call. -/
theorem handle_request (service : Service) (now : Instant) (mailbox : Mailbox)
    (small : call.body.length ≤ Service.bodyLimit) :
    Handles (call.operate service.digest now mailbox)
      (service.handle now call.route call.read call.request mailbox) := by
  -- Each handler takes out of the request what the call put in, and then both do the same.
  cases call with
  | createTopic topic =>
    have taken : Service.bodyJson Service.topicFormat (createTopic topic).request = .ok topic :=
      bodyJson_request Topic.faithful_format topicFormat_eq rfl small
    simp only [operate, route, Service.handle, taken, bind, Except.bind]
    cases mailbox.createTopic topic with
    | error error => rfl
    | ok next => exact ⟨_, rfl, rfl⟩
  | registerNode node topic =>
    have field : Service.queryText (registerNode node topic).read "subscribes_to" = .ok topic :=
      queryText_field rfl
    have taken : Service.bodyJson Service.nodeFormat (registerNode node topic).request =
        .ok node :=
      bodyJson_request Subscriber.faithful_format nodeFormat_eq rfl small
    simp only [operate, route, Service.handle, field, taken, bind, Except.bind]
    cases mailbox.registerNode node topic with
    | error error => rfl
    | ok next => exact ⟨_, rfl, rfl⟩
  | publish topic payload =>
    have field : Service.queryText (publish topic payload).read "topic_name" = .ok topic :=
      queryText_field rfl
    have taken : Service.bodyOf (publish topic payload).request = .ok payload :=
      bodyOf_request small
    simp only [operate, route, Service.handle, field, taken, bind, Except.bind, pure, Except.pure]
    rcases mailbox.publish service.digest now topic payload with crash | error | ⟨hash, next⟩
    · rfl
    · rfl
    · exact ⟨_, rfl, rfl⟩
  | stream kind request payload =>
    have named : Service.pathText (Bytes.ofText kind.name) = .ok kind.name := by
      cases kind <;> decide +kernel
    have field : Service.queryText (stream kind request payload).read "request_id" = .ok request :=
      queryText_field rfl
    have taken : Service.bodyOf (stream kind request payload).request = .ok payload :=
      bodyOf_request small
    have known : kind.name ∈ Service.resultKinds := name_mem_resultKinds kind
    simp only [operate, route, Service.handle, named, field, taken, bind, Except.bind, known,
      if_true]
    cases mailbox.putResult kind.name request payload with
    | error error => rfl
    | ok next => exact ⟨_, rfl, rfl⟩

/-- How a peer answers, by what comes of the operation. -/
def Answers (mailbox : Mailbox) : Except Crash (Except MailboxError Mailbox) →
    Except Crash (Http.Response × Mailbox) → Prop
  | .ok (.ok next), answer =>
    ∃ response : Http.Response, response.status = 200 ∧ answer = .ok (response, next)
  | .ok (.error error), answer => answer = .ok (Service.errorResponse error, mailbox)
  | .error crash, answer => answer = .error crash

/-- The service answers the request of a call by what comes of the operation. -/
theorem respond_request (service : Service) (now : Instant) (mailbox : Mailbox)
    (short : call.target.length ≤ Http.Target.maxLength)
    (small : call.body.length ≤ Service.bodyLimit) :
    Answers mailbox (call.operate service.digest now mailbox)
      (service.respond now call.request mailbox) := by
  have handles := handle_request service now mailbox small
  have target : Http.Target.ofBytes call.request.target = .ok call.read := ofBytes_target short
  have found : Route.find? call.read.segments = some call.route := find?_segments call
  have posted : call.request.method ∈ call.route.methods := by
    rw [Route.methods, if_pos (isWritten_route call)]
    exact List.mem_singleton.mpr rfl
  have plain : ¬ call.request.method = "HEAD" := (by decide : ¬ "POST" = "HEAD")
  rw [Service.respond, target]
  simp only [found, if_pos posted, if_neg plain, bind, Except.bind]
  generalize call.operate service.digest now mailbox = result at handles
  generalize service.handle now call.route call.read call.request mailbox = handled at handles
  rcases result with crash | error | next
  · rw [show handled = _ from handles]
    rfl
  · rw [show handled = _ from handles]
    rfl
  · obtain ⟨response, done, rfl⟩ := handles
    exact ⟨response, done, rfl⟩

/-- A body that is too long is refused. -/
theorem respond_oversized (service : Service) (now : Instant) (mailbox : Mailbox)
    (short : call.target.length ≤ Http.Target.maxLength)
    (large : ¬ call.body.length ≤ Service.bodyLimit) :
    service.respond now call.request mailbox = .ok (.refusal 413, mailbox) := by
  have target : Http.Target.ofBytes call.request.target = .ok call.read := ofBytes_target short
  have found : Route.find? call.read.segments = some call.route := find?_segments call
  have refused : Service.bodyOf call.request = .error (.refusal 413) := if_neg large
  have untaken {α : Type} (format : Json.Format α) :
      Service.bodyJson format call.request = .error (.refusal 413) := by
    have json : call.request.contentType.any Service.isJsonType = true := isJsonType_json
    rw [Service.bodyJson, if_pos json, refused]
    rfl
  have handled : service.handle now call.route call.read call.request mailbox =
      .ok (.error (.refusal 413)) := by
    cases call with
    | createTopic topic =>
      simp only [route, Service.handle, untaken]
      rfl
    | registerNode node topic =>
      have field : Service.queryText (registerNode node topic).read "subscribes_to" = .ok topic :=
        queryText_field rfl
      simp only [route, Service.handle, field, untaken]
      rfl
    | publish topic payload =>
      have field : Service.queryText (publish topic payload).read "topic_name" = .ok topic :=
        queryText_field rfl
      simp only [route, Service.handle, field, refused]
      rfl
    | stream kind request payload =>
      have named : Service.pathText (Bytes.ofText kind.name) = .ok kind.name := by
        cases kind <;> decide +kernel
      have field : Service.queryText (stream kind request payload).read "request_id" =
          .ok request :=
        queryText_field rfl
      simp only [route, Service.handle, named, field, refused]
      rfl
  have posted : call.request.method ∈ call.route.methods := by
    rw [Route.methods, if_pos (isWritten_route call)]
    exact List.mem_singleton.mpr rfl
  rw [Service.respond, target]
  simp only [found, if_pos posted, handled]
  rfl

end Call

/-! ### What the client makes of an answer -/

variable {peers : Peers} {inquiry : Http.Inquiry} {url : Http.Url} {request : Http.Request}
  {peer : Peer} {response : Http.Response}

theorem perform_call {σ α : Type} (network : Http.Network σ) (inquiry : Http.Inquiry)
    (context : String) (judge : Http.Response → Except Error α) (state : σ) :
    (call network inquiry context judge).perform state =
      ((unsent context (network.ask inquiry state).1).bind judge,
        (network.ask inquiry state).2) := by
  have run {β : Type} (f : σ → Except Error β × σ) :
      Effect.perform (ExceptT.mk f : Effect σ β) state = f state := rfl
  rw [call, run]

/-- A call is one request to the peer at the authority, and a look at what it answers. -/
theorem perform_sent {α : Type} (context : String) (judge : Http.Response → Except Error α)
    (sent : inquiry.request? = some (url, request))
    (there : peers.find? url.authority = some peer) :
    (call Peers.network inquiry context judge).perform peers =
      ((unsent context (peer.answer request).1.result).bind judge,
        peers.insert url.authority (peer.answer request).2) := by
  have asked : Peers.network.ask inquiry peers =
      ((peer.answer request).1.result, peers.insert url.authority (peer.answer request).2) := by
    rw [Http.Network.ask, Http.Network.start, sent]
    simp only [Peers.network, there]
    rfl
  rw [perform_call, asked]

/-- Nothing is asked where nothing can be sent. -/
theorem perform_unsent {σ α : Type} (network : Http.Network σ) (context : String)
    (judge : Http.Response → Except Error α) (state : σ) (nothing : inquiry.request? = none) :
    (call network inquiry context judge).perform state =
      (.error (.messenger (context ++ Http.SendFault.badAddress.message)), state) := by
  have asked : network.ask inquiry state = (.error .badAddress, state) := by
    rw [Http.Network.ask, Http.Network.start, nothing]
    rfl
  rw [perform_call, asked]
  rfl

theorem perform_order (operation context : String)
    (sent : inquiry.request? = some (url, request))
    (there : peers.find? url.authority = some peer) :
    (order Peers.network inquiry operation context).perform peers =
      ((unsent context (peer.answer request).1.result).bind fun response =>
          discard (done operation response),
        peers.insert url.authority (peer.answer request).2) :=
  perform_sent context _ sent there

/-- A response with a body is judged as it was given. -/
theorem judged_whole {α : Type} (context : String) (judge : Http.Response → Except Error α)
    (final : Http.Status.isFinal response.status = true)
    (whole : Http.Status.isBodiless response.status = false) :
    (unsent context (Http.Answer.response response).result).bind judge = judge response := by
  rw [Http.Answer.result, if_pos final, Http.Response.received, whole]
  rfl

/-- A response is judged by its status alone. -/
theorem judged_response (operation context : String)
    (final : Http.Status.isFinal response.status = true) :
    (unsent context (Http.Answer.response response).result).bind
      (fun response => discard (done operation response)) =
        if response.isSuccess then .ok ()
        else .error (.messenger
          (operation ++ " failed with status: " ++ Http.Status.describe response.status)) := by
  have status : response.received.status = response.status := by
    rw [Http.Response.received]
    split <;> rfl
  rw [Http.Answer.result, if_pos final]
  change discard (done operation response.received) = _
  rw [done, Http.Response.isSuccess, Http.Response.isSuccess, status]
  split <;> rfl

theorem judged_done (operation context : String) (status : response.status = 200) :
    (unsent context (Http.Answer.response response).result).bind
      (fun response => discard (done operation response)) = .ok () := by
  have success : response.isSuccess = true := by rw [Http.Response.isSuccess, status]; rfl
  rw [judged_response operation context (status ▸ rfl), if_pos success]

theorem judged_refused (operation context : String) (error : MailboxError) :
    ∃ text, (unsent context (Http.Answer.response (Service.errorResponse error)).result).bind
      (fun response => discard (done operation response)) = .error (.messenger text) := by
  have final : Http.Status.isFinal (Service.errorResponse error).status = true := by
    cases error <;> rfl
  have failed : ¬ (Service.errorResponse error).isSuccess = true := by
    cases error <;> exact Bool.false_ne_true
  exact ⟨_, (judged_response operation context final).trans (if_neg failed)⟩

theorem judged_unreachable (operation context : String) :
    (unsent context Http.Answer.unreachable.result).bind
      (fun response => discard (done operation response)) =
        .error (.messenger (context ++ Http.SendFault.unreachable.message)) :=
  rfl

/-! ### Calls and operations -/

/-- Slashes behind the host are no part of the address. -/
theorem atAddress_of_host {scheme host authority slashes : String}
    (hosted : Http.Url.Host host authority) (trimmed : ∀ c ∈ slashes.toList, c = '/') :
    atAddress (scheme ++ "://" ++ host ++ slashes) = ⟨scheme ++ "://" ++ host⟩ := by
  obtain ⟨last, rest, ends, other⟩ := hosted.ends
  have kept : (scheme ++ "://" ++ host).toList.reverse.dropWhile (· == '/') =
      (scheme ++ "://" ++ host).toList.reverse := by
    rw [String.toList_append, List.reverse_append, ends, List.cons_append,
      List.dropWhile_cons_of_neg (by simpa using other)]
  have dropped : ∀ c ∈ slashes.toList.reverse, (c == '/') = true := by
    intro c member
    rw [trimmed c (List.mem_reverse.mp member), beq_self_eq_true]
  rw [atAddress, trimSlashes, String.toList_append, List.reverse_append,
    List.dropWhile_append_of_pos dropped, kept, List.reverse_reverse, String.ofList_toList]

/-- Every call is one order. -/
theorem Call.effect_messenger {σ : Type} (call : Call) (remote : RemoteMessenger)
    (network : Http.Network σ) : ∃ operation context,
      call.effect (remote.messenger network) =
        order network (call.inquiry remote) operation context := by
  cases call with
  | createTopic topic =>
    have asked : (createTopic topic).inquiry remote = remote.creation topic := rfl
    exact ⟨"createTopic", contextOf "createTopic", by rw [asked]; rfl⟩
  | registerNode node topic =>
    have asked : (registerNode node topic).inquiry remote = remote.registration node topic := rfl
    exact ⟨"register_node", "failed to make request to messenger: ", by rw [asked]; rfl⟩
  | publish topic payload =>
    have asked : (publish topic payload).inquiry remote = remote.publication topic payload := rfl
    exact ⟨"publish", contextOf "publish", by rw [asked]; rfl⟩
  | stream kind request payload =>
    have asked : (stream kind request payload).inquiry remote =
        remote.handingIn kind request payload := by
      rw [inquiry, path, ← String.append_assoc]
      rfl
    exact ⟨kind.name, contextOf kind.name, by rw [asked]; rfl⟩

/-- The mailbox as the operation of a call leaves it: as it was, unless the operation is done. -/
def Call.leaves (call : Call) (digest : Bytes → Bytes) (now : Instant) (mailbox : Mailbox) :
    Mailbox :=
  match call.operate digest now mailbox with
  | .ok (.ok next) => next
  | _ => mailbox

variable {call : Call} {scheme host authority slashes : String} {service : Service} {now : Instant}
  {mailbox : Mailbox}

theorem error_ne_ok {σ α : Type} {error : Error} {a : α} {left right : σ} :
    ((.error error, left) : Except Error α × σ) ≠ (.ok a, right) := by
  intro same
  cases same

/-- When a client is told that a call has been done, and what the call leaves. -/
theorem Call.perform_eq_ok_iff (known : scheme ∈ Http.Url.schemes)
    (hosted : Http.Url.Host host authority)
    (there : peers.find? authority = some (.mailbox service now mailbox)) {next : Peers} :
    (call.effect (messenger ⟨scheme ++ "://" ++ host⟩ Peers.network)).perform peers =
        (.ok (), next) ↔
      scheme.utf8ByteSize + 3 + authority.utf8ByteSize + call.target.length ≤ Http.Url.maxLength ∧
        call.body.length ≤ Service.bodyLimit ∧
        ∃ made, call.operate service.digest now mailbox = .ok (.ok made) ∧
          next = peers.insert authority (.mailbox service (now + Peer.tick) made) := by
  obtain ⟨operation, context, ordered⟩ :=
    call.effect_messenger ⟨scheme ++ "://" ++ host⟩ Peers.network
  obtain ⟨url, rfl, sent⟩ := @Call.request?_inquiry_eq call scheme host authority known hosted
  rw [ordered]
  by_cases long : Http.Url.maxLength <
      scheme.utf8ByteSize + 3 + url.authority.utf8ByteSize + call.target.length
  · rw [if_pos long] at sent
    rw [order, perform_unsent _ _ _ _ sent]
    exact iff_of_false error_ne_ok fun valid => Nat.not_lt.mpr valid.1 long
  -- What is sent may be too long for the service, or refused, or crash it; else it is done.
  rw [if_neg long] at sent
  have brief : call.target.length ≤ Http.Target.maxLength :=
    le_trans (Nat.le_add_left _ _) (Nat.not_lt.mp long)
  rw [perform_order operation context sent there, Peer.answer]
  by_cases small : call.body.length ≤ Service.bodyLimit
  · have answers := Call.respond_request service now mailbox brief small
    generalize call.operate service.digest now mailbox = result at answers
    rcases result with crash | error | made
    · rw [show service.respond _ _ _ = _ from answers]
      exact iff_of_false error_ne_ok fun ⟨_, _, _, same, _⟩ => nomatch same
    · obtain ⟨text, judged⟩ := judged_refused operation context error
      rw [show service.respond _ _ _ = _ from answers]
      simp only [judged]
      exact iff_of_false error_ne_ok fun ⟨_, _, _, same, _⟩ => nomatch same
    · obtain ⟨response, status, answered⟩ := answers
      rw [answered]
      simp only [judged_done operation context status]
      constructor
      · intro same
        exact ⟨Nat.not_lt.mp long, small, made, rfl, (Prod.ext_iff.mp same).2.symm⟩
      · rintro ⟨-, -, _, same, rfl⟩
        cases same
        rfl
  · rw [Call.respond_oversized service now mailbox brief small]
    have final : Http.Status.isFinal (Http.Response.refusal 413).status = true := by decide
    have failed : ¬ (Http.Response.refusal 413).isSuccess = true := by decide
    simp only [judged_response operation context final, if_neg failed]
    exact iff_of_false error_ne_ok fun valid => small valid.2.1

/-- A call of a messenger at the address of a service does the operation of the mailbox there
that it stands for, with the very texts and bytes that it is given. The client is told that all
went well if the operation was done, and else of a failure of the messenger. -/
theorem calls_refine_mailbox (known : scheme ∈ Http.Url.schemes)
    (hosted : Http.Url.Host host authority) (trimmed : ∀ c ∈ slashes.toList, c = '/')
    (short : scheme.utf8ByteSize + 3 + authority.utf8ByteSize + call.target.length ≤
      Http.Url.maxLength)
    (small : call.body.length ≤ Service.bodyLimit)
    (there : peers.find? authority = some (.mailbox service now mailbox)) :
    ∃ told : Except Error Unit,
      (call.effect ((atAddress (scheme ++ "://" ++ host ++ slashes)).messenger
          Peers.network)).perform peers =
        (told, peers.insert authority
          (.mailbox service (now + Peer.tick) (call.leaves service.digest now mailbox))) ∧
      (told = .ok () ↔ ∃ next, call.operate service.digest now mailbox = .ok (.ok next)) ∧
      (told = .ok () ∨ ∃ text, told = .error (.messenger text)) := by
  obtain ⟨operation, context, ordered⟩ :=
    call.effect_messenger ⟨scheme ++ "://" ++ host⟩ Peers.network
  obtain ⟨url, sent, rfl⟩ := Call.request?_inquiry known hosted short
  have brief : call.target.length ≤ Http.Target.maxLength :=
    le_trans (Nat.le_add_left _ _) short
  have answers := Call.respond_request service now mailbox brief small
  -- Each of the three things that can come of the operation has its own answer.
  rw [atAddress_of_host hosted trimmed, ordered, perform_order operation context sent there,
    Peer.answer, Call.leaves]
  generalize call.operate service.digest now mailbox = result at answers
  rcases result with crash | error | next
  · have answered : service.respond now call.request mailbox = .error crash := answers
    rw [answered]
    exact ⟨_, Prod.ext (judged_unreachable operation context) rfl, by simp, .inr ⟨_, rfl⟩⟩
  · have answered : service.respond now call.request mailbox =
        .ok (Service.errorResponse error, mailbox) := answers
    obtain ⟨text, judged⟩ := judged_refused operation context error
    rw [answered]
    exact ⟨_, Prod.ext judged rfl, by simp, .inr ⟨text, rfl⟩⟩
  · obtain ⟨response, status, answered⟩ := answers
    rw [answered]
    exact ⟨_, Prod.ext (judged_done operation context status) rfl, by simp, .inl rfl⟩

/-- A result is handed in for a request with a name in which spaces, marks and letters of many
kinds are escaped. -/
theorem calls_refine_mailbox_escaped_name :
    let service : Service := ⟨Blake3.digest, fun _ => ""⟩
    let mailbox := Mailbox.start Mailbox.standardLifetime
    let call : Call := .stream .output "é & 100% €=🦀" [0, 255]
    let peers := Peers.ofList [("mail:3000", .mailbox service 5 mailbox)]
    (call.effect ((atAddress ("http" ++ "://" ++ "Mail:3000" ++ "/")).messenger
        Peers.network)).perform peers =
      (.ok (), peers.insert "mail:3000" (.mailbox service (5 + Peer.tick)
        (mailbox.keepResult ⟨"dkgoutput", "é & 100% €=🦀", [0, 255]⟩))) := by
  intro service mailbox call peers
  have hosted : Http.Url.Host "Mail:3000" "mail:3000" := ⟨by decide +kernel, by decide +kernel⟩
  obtain ⟨told, performed, fine, -⟩ := @calls_refine_mailbox peers call "http" "Mail:3000"
    "mail:3000" "/" service 5 mailbox (by simp [Http.Url.schemes]) hosted (by simp)
    (by decide +kernel) (by decide) rfl
  obtain rfl := fine.mpr ⟨_, rfl⟩
  exact performed

end RemoteMessenger

end Resharing
