import Resharing.Mailbox.Service
import Resharing.Proofs.Mailbox.Chronicle

/-!
# What a request does to the mailbox

A request is taken apart in several places, and each of them may refuse it: the target, the
route, the method, the path, the query, the body, the list of kinds, and last the mailbox
itself. Only behind all of them is anything changed, so whoever is refused has changed nothing.
What a request asks for is said here without the order in which it is taken apart: an action is
asked for if its arguments are there. A posted request is then answered with success exactly if
it asks for an action that the mailbox meets, and it does that action and no other.

If a publication crashes there is no response at all. That happens to no other request.

## Main definitions

* `Service.Carries`: the body of a request is a value
* `Service.Orders`, `Service.Asks`: the action that a request asks for
* `Service.Settles`: what the handler of a written route may come to
* `Service.Reaches`: a mailbox that a service comes to

## Main results

* `Service.Asks.unique`: a request asks for one action at most
* `Service.handle_settles`: every written route comes to one of three ends
* `Service.Reaches.exists_actions`: a service comes to nothing but runs of actions
* `Service.requests_atomic`: what requests change
-/

namespace Resharing.Service

open Mailbox (Action)

variable {α : Type} {format : Json.Format α} {a b : α} {service : Service} {now : Instant}
  {route : Route} {target : Http.Target} {request : Http.Request} {response : Http.Response}
  {mailbox next : Mailbox} {action other : Action} {lifetime : Int}

/-! ### What is asked for -/

/-- The body of a request is a value: it is said to be JSON, it is not too long, and it begins
with the written form of the value. -/
structure Carries (format : Json.Format α) (request : Http.Request) (a : α) : Prop where
  json : request.contentType.any isJsonType = true
  short : request.body.length ≤ bodyLimit
  read : format.decodeLeading request.body = .ok a

theorem Carries.unique (first : Carries format request a) (second : Carries format request b) :
    a = b :=
  Except.ok.inj (first.read.symm.trans second.read)

/-- The one value of a field of the query. -/
def Told (target : Http.Target) (name text : String) : Prop :=
  Form.single? (Form.decode target.query) name = some text

theorem Told.unique {name text otherText : String} (first : Told target name text)
    (second : Told target name otherText) : text = otherText :=
  Option.some.inj (first.symm.trans second)

/-- An escaped part of a path spells a text. -/
def Spells (part : Bytes) (text : String) : Prop :=
  Bytes.text? (Percent.decode part) = some text

theorem Spells.unique {part : Bytes} {text otherText : String} (first : Spells part text)
    (second : Spells part otherText) : text = otherText :=
  Option.some.inj (first.symm.trans second)

/-- The action that is asked for on a route: path, query and body give its arguments. -/
inductive Orders (now : Instant) (target : Http.Target) (request : Http.Request) :
    Route → Action → Prop
  | createTopic {topic : Topic} (body : Carries topicFormat request topic) :
      Orders now target request .topics (.createTopic topic)
  | registerNode {node : Subscriber} {topic : String} (query : Told target "subscribes_to" topic)
      (body : Carries nodeFormat request node) :
      Orders now target request .nodes (.registerNode node topic)
  | publish {topic : String} (query : Told target "topic_name" topic)
      (short : request.body.length ≤ bodyLimit) :
      Orders now target request .publish (.publish now topic request.body)
  | putResult {part : Bytes} {kind key : String} (path : Spells part kind)
      (query : Told target "request_id" key) (short : request.body.length ≤ bodyLimit)
      (known : kind ∈ resultKinds) :
      Orders now target request (.results part) (.putResult kind key request.body)

/-- A request that is posted to a route asks for an action. -/
def Asks (now : Instant) (request : Http.Request) (action : Action) : Prop :=
  request.method = "POST" ∧ ∃ target route, Http.Target.ofBytes request.target = .ok target ∧
    Route.find? target.segments = some route ∧ Orders now target request route action

theorem Orders.unique (first : Orders now target request route action)
    (second : Orders now target request route other) : other = action := by
  cases first with
  | createTopic body =>
    cases second with
    | createTopic otherBody => rw [body.unique otherBody]
  | registerNode query body =>
    cases second with
    | registerNode otherQuery otherBody => rw [query.unique otherQuery, body.unique otherBody]
  | publish query short =>
    cases second with
    | publish otherQuery _ => rw [query.unique otherQuery]
  | putResult path query short known =>
    cases second with
    | putResult otherPath otherQuery _ _ =>
      rw [path.unique otherPath, query.unique otherQuery]

/-- A request asks for one action at most. -/
theorem Asks.unique (first : Asks now request action) (second : Asks now request other) :
    other = action := by
  obtain ⟨-, target, route, read, found, orders⟩ := first
  obtain ⟨-, _, _, otherRead, otherFound, otherOrders⟩ := second
  obtain rfl := Except.ok.inj (read.symm.trans otherRead)
  obtain rfl := Option.some.inj (found.symm.trans otherFound)
  exact orders.unique otherOrders

/-! ### Taking a request apart -/

/-- Something is taken out of a request, or the request is refused because it is not there. -/
inductive Takes (holds : α → Prop) : Except Http.Response α → Prop
  | found {a : α} (here : holds a) : Takes holds (.ok a)
  | missing {refusal : Http.Response} (unsuccessful : refusal.isSuccess = false)
      (nothing : ∀ a, ¬ holds a) : Takes holds (.error refusal)

theorem takes_pathText (part : Bytes) : Takes (Spells part) (pathText part) := by
  unfold pathText
  cases spelled : Bytes.text? (Percent.decode part) with
  | some text => exact .found spelled
  | none => exact .missing rfl fun text spells => nomatch spelled.symm.trans spells

theorem takes_queryText (target : Http.Target) (name : String) :
    Takes (Told target name) (queryText target name) := by
  unfold queryText
  cases told : Form.single? (Form.decode target.query) name with
  | some text => exact .found told
  | none => exact .missing rfl fun text given => nomatch told.symm.trans given

theorem takes_bodyOf (request : Http.Request) :
    Takes (fun body => body = request.body ∧ request.body.length ≤ bodyLimit)
      (bodyOf request) := by
  unfold bodyOf
  split
  · next short => exact .found ⟨rfl, short⟩
  · next long => exact .missing rfl fun body here => long here.2

theorem takes_bodyJson (format : Json.Format α) (request : Http.Request) :
    Takes (Carries format request) (bodyJson format request) := by
  unfold bodyJson bodyOf
  by_cases json : request.contentType.any isJsonType = true
  · rw [if_pos json]
    by_cases short : request.body.length ≤ bodyLimit
    · rw [if_pos short]
      simp only [bind, Except.bind]
      cases read : format.decodeLeading request.body with
      | ok a => exact .found ⟨json, short, read⟩
      | error fault =>
        have nothing : ∀ a, ¬ Carries format request a :=
          fun a carries => nomatch read.symm.trans carries.read
        cases fault <;> exact .missing rfl nothing
    · rw [if_neg short]
      exact .missing rfl fun a carries => short carries.short
  · rw [if_neg json]
    exact .missing rfl fun a carries => json carries.json

/-! ### Handlers of written routes -/

/-- What the handler of a written route may come to: the action that is asked for has been done,
the request is refused and no action that the mailbox meets is asked for, or the publication
that is asked for crashes. -/
inductive Settles (digest : Bytes → Bytes) (now : Instant) (mailbox : Mailbox)
    (asks : Action → Prop) : Except Crash Handled → Prop
  | done {action : Action} {response : Http.Response} (asked : asks action)
      (fits : mailbox.meets digest action = true) (success : response.status = 200) :
      Settles digest now mailbox asks (.ok (.ok (response, mailbox.after digest action)))
  | refused {refusal : Http.Response} (unsuccessful : refusal.isSuccess = false)
      (unmet : ∀ action, asks action → mailbox.meets digest action = false) :
      Settles digest now mailbox asks (.ok (.error refusal))
  | crashed {topic : String} {payload : Bytes} {crash : Crash}
      (asked : asks (.publish now topic payload))
      (published : mailbox.publish digest now topic payload = .error crash) :
      Settles digest now mailbox asks (.error crash)

theorem isSuccess_errorResponse (error : MailboxError) :
    (errorResponse error).isSuccess = false := by
  unfold errorResponse
  cases error.isAbsence <;> rfl

namespace Settles

variable {digest : Bytes → Bytes} {asks : Action → Prop} {holds : α → Prop}

/-- Whatever is asked for needs what is taken out of the request first. -/
theorem bind {taken : Except Http.Response α} {rest : α → Handled} (takes : Takes holds taken)
    (needed : ∀ action, asks action → ∃ a, holds a)
    (settles : ∀ a, holds a → Settles digest now mailbox asks (.ok (rest a))) :
    Settles digest now mailbox asks (.ok (taken >>= rest)) := by
  cases takes with
  | found here => exact settles _ here
  | missing unsuccessful nothing =>
    refine .refused unsuccessful fun action asked => ?_
    obtain ⟨a, here⟩ := needed action asked
    exact absurd here (nothing a)

/-- In the end the mailbox does the one action that is asked for, or does not meet it. -/
theorem meet {result : Except MailboxError Mailbox} {response : Http.Response}
    (asked : asks action) (only : ∀ other, asks other → other = action)
    (fits : mailbox.meets digest action = result.isOk)
    (leaves : mailbox.after digest action = result.toOption.getD mailbox)
    (success : response.status = 200) :
    Settles digest now mailbox asks (.ok (do
      let next ← Service.meet result
      return (response, next))) := by
  cases result with
  | ok next =>
    obtain rfl : mailbox.after digest action = next := leaves
    exact .done asked fits success
  | error error =>
    refine .refused (isSuccess_errorResponse error) fun other otherAsked => ?_
    rw [only other otherAsked]
    exact fits

end Settles

/-- A publication may crash, so its handler is no sequence of steps that refuse or go on. -/
theorem publish_settles (service : Service) (now : Instant) (target : Http.Target)
    (request : Http.Request) (mailbox : Mailbox) :
    Settles service.digest now mailbox (Orders now target request .publish)
      (service.handle now .publish target request mailbox) := by
  have query := takes_queryText target "topic_name"
  have body := takes_bodyOf request
  unfold handle
  generalize queryText target "topic_name" = topic at query
  generalize bodyOf request = payload at body
  cases query with
  | missing unsuccessful nothing =>
    refine .refused unsuccessful fun _ orders => ?_
    cases orders with
    | publish query _ => exact absurd query (nothing _)
  | @found topic query =>
    cases body with
    | missing unsuccessful nothing =>
      refine .refused unsuccessful fun _ orders => ?_
      cases orders with
      | publish _ short => exact absurd ⟨rfl, short⟩ (nothing request.body)
    | found body =>
      obtain ⟨rfl, short⟩ := body
      have orders : Orders now target request .publish (.publish now topic request.body) :=
        .publish query short
      simp only [Service.Handled, Bind.bind, Except.bind, pure, Except.pure]
      cases published : mailbox.publish service.digest now topic request.body with
      | error crash => exact .crashed orders published
      | ok result =>
        cases result with
        | error error =>
          refine .refused (isSuccess_errorResponse error) fun other otherOrders => ?_
          rw [orders.unique otherOrders]
          simp only [Mailbox.meets, published]
        | ok stored =>
          obtain ⟨hash, next⟩ := stored
          rw [← Mailbox.after_publish published]
          exact .done orders (by simp only [Mailbox.meets, published]) rfl

/-- Every handler of a written route comes to one of three ends. -/
theorem handle_settles (service : Service) (now : Instant) (target : Http.Target)
    (request : Http.Request) (mailbox : Mailbox) (written : route.isWritten = true) :
    Settles service.digest now mailbox (Orders now target request route)
      (service.handle now route target request mailbox) := by
  cases route with
  | topics =>
    refine .bind (takes_bodyJson topicFormat request) ?_ fun topic body => ?_
    · intro _ orders
      cases orders with
      | createTopic body => exact ⟨_, body⟩
    have orders : Orders now target request .topics (.createTopic topic) := .createTopic body
    exact .meet orders (fun _ => orders.unique) rfl rfl rfl
  | nodes =>
    refine .bind (takes_queryText target "subscribes_to") ?_ fun topic query => ?_
    · intro _ orders
      cases orders with
      | registerNode query _ => exact ⟨_, query⟩
    refine .bind (takes_bodyJson nodeFormat request) ?_ fun node body => ?_
    · intro _ orders
      cases orders with
      | registerNode _ body => exact ⟨_, body⟩
    have orders : Orders now target request .nodes (.registerNode node topic) :=
      .registerNode query body
    exact .meet orders (fun _ => orders.unique) rfl rfl rfl
  | publish => exact service.publish_settles now target request mailbox
  | results part =>
    refine .bind (takes_pathText part) ?_ fun kind path => ?_
    · intro _ orders
      cases orders with
      | putResult path _ _ _ => exact ⟨_, path⟩
    refine .bind (takes_queryText target "request_id") ?_ fun key query => ?_
    · intro _ orders
      cases orders with
      | putResult _ query _ _ => exact ⟨_, query⟩
    refine .bind (takes_bodyOf request) ?_ fun payload body => ?_
    · intro _ orders
      cases orders with
      | putResult _ _ short _ => exact ⟨_, rfl, short⟩
    obtain ⟨rfl, short⟩ := body
    split
    · next known =>
      have orders : Orders now target request (.results part)
          (.putResult kind key request.body) := .putResult path query short known
      exact .meet orders (fun _ => orders.unique) rfl rfl rfl
    · next unknown =>
      refine .refused (isSuccess_errorResponse _) fun _ orders => ?_
      cases orders with
      | putResult otherPath _ _ known => exact absurd (path.unique otherPath ▸ known) unknown
  | _ => cases written

/-! ### Handlers of the other routes -/

/-- Whatever is answered, the mailbox is left as it is. -/
def Reads (mailbox : Mailbox) (handled : Handled) : Prop :=
  ∃ answer : Except Http.Response Http.Response, handled = answer.map (·, mailbox)

theorem Reads.return (response : Http.Response) : Reads mailbox (.ok (response, mailbox)) :=
  ⟨.ok response, rfl⟩

theorem Reads.bind {taken : Except Http.Response α} {rest : α → Handled}
    (reads : ∀ a, Reads mailbox (rest a)) : Reads mailbox (taken >>= rest) := by
  cases taken with
  | ok a => exact reads a
  | error refusal => exact ⟨.error refusal, rfl⟩

/-- A handler of any other route only reads, and it cannot crash. -/
theorem handle_reads (service : Service) (now : Instant) (target : Http.Target)
    (request : Http.Request) (mailbox : Mailbox) (unwritten : route.isWritten = false) :
    ∃ handled, service.handle now route target request mailbox = .ok handled ∧
      Reads mailbox handled := by
  cases route with
  | health => exact ⟨_, rfl, .return _⟩
  | topic part => exact ⟨_, rfl, .bind fun name => .bind fun topic => .return _⟩
  | messages part => exact ⟨_, rfl, .bind fun name => .bind fun topic => .return _⟩
  | result part key =>
    exact ⟨_, rfl, .bind fun kind => .bind fun request => .bind fun result => .return _⟩
  | _ => cases unwritten

/-! ### Responses -/

/-- The response to what a handler has come to. A refusal leaves the mailbox as it was. -/
def concluded (mailbox : Mailbox) : Except Crash Handled → Except Crash (Http.Response × Mailbox)
  | .ok (.ok done) => .ok done
  | .ok (.error refusal) => .ok (refusal, mailbox)
  | .error crash => .error crash

/-- Only a posted request can do anything. -/
theorem respond_of_not_posted (service : Service) (now : Instant) (mailbox : Mailbox)
    (unposted : request.method ≠ "POST") :
    ∃ response, service.respond now request mailbox = .ok (response, mailbox) := by
  unfold respond
  split
  · exact ⟨_, rfl⟩
  split
  · exact ⟨_, rfl⟩
  next target _ _ route _ =>
  split
  · next allowed =>
    -- The routes that are written allow nothing but posting.
    have unwritten : route.isWritten = false := by
      by_contra written
      rw [Route.methods, if_pos (Bool.not_eq_false _ ▸ written)] at allowed
      exact unposted (List.mem_singleton.mp allowed)
    obtain ⟨_, handled, answer, rfl⟩ :=
      service.handle_reads now target request mailbox unwritten
    rw [handled]
    cases answer <;> exact ⟨_, rfl⟩
  · exact ⟨_, rfl⟩

/-- A posted request comes to one of three ends, wherever it goes. -/
theorem respond_of_posted (service : Service) (now : Instant) (mailbox : Mailbox)
    (posted : request.method = "POST") :
    ∃ handled, service.respond now request mailbox = concluded mailbox handled ∧
      Settles service.digest now mailbox (Asks now request) handled := by
  have plain : request.method ≠ "HEAD" := posted ▸ (by decide : "POST" ≠ "HEAD")
  unfold respond
  cases read : Http.Target.ofBytes request.target with
  | error fault =>
    refine ⟨.ok (.error (.bare fault.status)), rfl, .refused (by cases fault <;> rfl) ?_⟩
    rintro action ⟨-, target, route, otherRead, -⟩
    exact nomatch read.symm.trans otherRead
  | ok target =>
    dsimp only
    cases found : Route.find? target.segments with
    | none =>
      refine ⟨.ok (.error (.bare 404)), rfl, .refused rfl ?_⟩
      rintro action ⟨-, _, route, otherRead, otherFound, -⟩
      obtain rfl := Except.ok.inj (read.symm.trans otherRead)
      exact nomatch found.symm.trans otherFound
    | some route =>
      have asks_iff (action : Action) :
          Asks now request action ↔ Orders now target request route action := by
        constructor
        · rintro ⟨-, _, _, otherRead, otherFound, orders⟩
          obtain rfl := Except.ok.inj (read.symm.trans otherRead)
          obtain rfl := Option.some.inj (found.symm.trans otherFound)
          exact orders
        · exact fun orders => ⟨posted, target, route, read, found, orders⟩
      rw [funext fun action => propext (asks_iff action)]
      dsimp only
      cases written : route.isWritten with
      | true =>
        have allowed : request.method ∈ route.methods := by
          rw [Route.methods, if_pos written, posted]
          exact List.mem_singleton.mpr rfl
        refine ⟨_, ?_, service.handle_settles now target request mailbox written⟩
        rw [if_pos allowed]
        rcases service.handle now route target request mailbox with crash | refusal | done <;>
          simp [concluded, Bind.bind, Except.bind, pure, Except.pure, plain]
      | false =>
        have forbidden : request.method ∉ route.methods := by
          rw [Route.methods, if_neg (by simp [written]), posted]
          decide
        refine ⟨.ok (.error (.methodNotAllowed route.methods)), if_neg forbidden,
          .refused rfl ?_⟩
        rintro action ⟨⟩ <;> cases written

/-- A response tells what has been done: either nothing, and then a posted request has no
success and nothing was asked for that the mailbox meets, or exactly what was asked for. -/
theorem respond_eq_ok (responded : service.respond now request mailbox = .ok (response, next)) :
    (next = mailbox ∧ (request.method = "POST" → response.isSuccess = false) ∧
        ∀ action, Asks now request action → mailbox.meets service.digest action = false) ∨
      ∃ action, Asks now request action ∧ mailbox.meets service.digest action = true ∧
        response.isSuccess = true ∧ next = mailbox.after service.digest action := by
  by_cases posted : request.method = "POST"
  · obtain ⟨handled, concludes, settles⟩ := respond_of_posted service now mailbox posted
    rw [responded] at concludes
    cases settles with
    | @done action answer asked fits success =>
      obtain ⟨rfl, rfl⟩ := Prod.mk.inj (Except.ok.inj concludes)
      refine .inr ⟨action, asked, fits, ?_, rfl⟩
      simp [Http.Response.isSuccess, success]
    | refused unsuccessful unmet =>
      obtain ⟨rfl, rfl⟩ := Prod.mk.inj (Except.ok.inj concludes)
      exact .inl ⟨rfl, fun _ => unsuccessful, unmet⟩
    | crashed => cases concludes
  · obtain ⟨same, unchanged⟩ := respond_of_not_posted service now mailbox posted
    obtain ⟨-, rfl⟩ := Prod.mk.inj (Except.ok.inj (responded.symm.trans unchanged))
    exact .inl ⟨rfl, fun again => absurd again posted, fun _ asks => absurd asks.1 posted⟩

/-- Where there is no response a publication was asked for that crashes. -/
theorem respond_eq_error {crash : Crash}
    (crashed : service.respond now request mailbox = .error crash) :
    ∃ topic payload, Asks now request (.publish now topic payload) ∧
      mailbox.publish service.digest now topic payload = .error crash := by
  by_cases posted : request.method = "POST"
  · obtain ⟨handled, concludes, settles⟩ := respond_of_posted service now mailbox posted
    rw [crashed] at concludes
    cases settles with
    | crashed asked published =>
      obtain rfl := Except.error.inj concludes
      exact ⟨_, _, asked, published⟩
    | done => cases concludes
    | refused => cases concludes
  · obtain ⟨same, unchanged⟩ := respond_of_not_posted service now mailbox posted
    exact nomatch crashed.symm.trans unchanged

/-- An action that is asked for is done if the mailbox meets it. -/
theorem Asks.answered (asks : Asks now request action)
    (fits : mailbox.meets service.digest action = true) :
    ∃ response, service.respond now request mailbox =
      .ok (response, mailbox.after service.digest action) := by
  cases responded : service.respond now request mailbox with
  | error crash =>
    obtain ⟨topic, payload, other, published⟩ := respond_eq_error responded
    obtain rfl := other.unique asks
    simp [Mailbox.meets, published] at fits
  | ok answer =>
    obtain ⟨response, next⟩ := answer
    rcases respond_eq_ok responded with ⟨-, -, unmet⟩ | ⟨other, asked, -, -, rfl⟩
    · exact Bool.noConfusion ((unmet action asks).symm.trans fits)
    · exact ⟨response, by rw [asked.unique asks]⟩

/-! ### What a service comes to -/

/-- No result of another kind is asked for. -/
theorem Asks.payload?_eq_none {kind : String} (asks : Asks now request action)
    (foreign : kind ∉ resultKinds) (key : String) : action.payload? kind key = none := by
  obtain ⟨-, target, route, -, -, orders⟩ := asks
  cases orders with
  | putResult _ _ _ known =>
    refine if_neg ?_
    rintro ⟨rfl, -⟩
    exact foreign known
  | _ => rfl

/-- Results of other kinds are left as they are by every request. -/
theorem find?_results_respond {kind : String}
    (responded : service.respond now request mailbox = .ok (response, next))
    (foreign : kind ∉ resultKinds) (key : String) :
    next.results.find? (kind, key) = mailbox.results.find? (kind, key) := by
  rcases respond_eq_ok responded with ⟨rfl, -⟩ | ⟨action, asked, fits, -, rfl⟩
  · rfl
  · rw [Mailbox.find?_results_after fits, asked.payload?_eq_none foreign key]
    rfl

/-- A mailbox that a service comes to: it answers requests at any times, and now and then it
looks for what has expired. A crash leaves the mailbox as it was. -/
inductive Reaches (service : Service) (lifetime : Int) : Mailbox → Prop
  | start : Reaches service lifetime (.start lifetime)
  | answer {now : Instant} {request : Http.Request} {mailbox next : Mailbox}
      {response : Http.Response} (reaches : Reaches service lifetime mailbox)
      (responded : service.respond now request mailbox = .ok (response, next)) :
      Reaches service lifetime next
  | cleanUp {mailbox : Mailbox} (reaches : Reaches service lifetime mailbox) (now : Instant) :
      Reaches service lifetime (mailbox.cleanUp now)

/-- A service comes to nothing but runs of actions. -/
theorem Reaches.exists_actions (reaches : Reaches service lifetime mailbox) :
    ∃ actions, Mailbox.ofActions service.digest lifetime actions = mailbox := by
  induction reaches with
  | start => exact ⟨[], rfl⟩
  | answer _ responded ih =>
    obtain ⟨actions, rfl⟩ := ih
    rcases respond_eq_ok responded with ⟨rfl, -⟩ | ⟨action, -, -, -, rfl⟩
    · exact ⟨actions, rfl⟩
    · exact ⟨actions ++ [action], Mailbox.ofActions_concat⟩
  | cleanUp _ now ih =>
    obtain ⟨actions, rfl⟩ := ih
    exact ⟨actions ++ [.cleanUp now], Mailbox.ofActions_concat⟩

/-- A service never has results of other kinds. -/
theorem Reaches.find?_results {kind : String} (reaches : Reaches service lifetime mailbox)
    (foreign : kind ∉ resultKinds) (key : String) : mailbox.results.find? (kind, key) = none := by
  induction reaches with
  | start => rfl
  | answer _ responded ih => rw [find?_results_respond responded foreign key, ih]
  | cleanUp _ _ ih => exact ih

/-- What requests change, whatever the mailbox holds. Without success nothing is changed, and
nothing is unless the request was posted. With success a posted request has done the one action
that it asks for, which the mailbox meets, and nothing else; and if the mailbox meets the action
that is asked for there is success. There is no response only where a publication that is asked
for crashes. Results of kinds that are not taken are never put, so a service has none. -/
theorem requests_atomic (service : Service) :
    (∀ now request mailbox response next,
      service.respond now request mailbox = .ok (response, next) →
        (response.isSuccess = false → next = mailbox) ∧
        (request.method ≠ "POST" → next = mailbox) ∧
        (request.method = "POST" → response.isSuccess = true → ∃ action,
          Asks now request action ∧ (∀ other, Asks now request other → other = action) ∧
          mailbox.meets service.digest action = true ∧
          next = mailbox.after service.digest action) ∧
        (∀ action, Asks now request action → mailbox.meets service.digest action = true →
          response.isSuccess = true) ∧
        ∀ kind key, kind ∉ resultKinds →
          next.results.find? (kind, key) = mailbox.results.find? (kind, key)) ∧
    (∀ now request mailbox crash, service.respond now request mailbox = .error crash →
      ∃ topic payload, Asks now request (.publish now topic payload) ∧
        mailbox.publish service.digest now topic payload = .error crash) ∧
    ∀ lifetime mailbox, Reaches service lifetime mailbox → ∀ kind key, kind ∉ resultKinds →
      mailbox.getResult kind key = .error (.noResult kind key) := by
  refine ⟨?_, fun now request mailbox crash => respond_eq_error, ?_⟩
  · intro now request mailbox response next responded
    have results (kind key : String) (foreign : kind ∉ resultKinds) :
        next.results.find? (kind, key) = mailbox.results.find? (kind, key) :=
      find?_results_respond responded foreign key
    rcases respond_eq_ok responded with
      ⟨rfl, unsuccessful, unmet⟩ | ⟨action, asked, fits, success, rfl⟩
    · refine ⟨fun _ => rfl, fun _ => rfl, fun posted success => ?_, fun action asked fits => ?_,
        results⟩
      · exact Bool.noConfusion ((unsuccessful posted).symm.trans success)
      · exact Bool.noConfusion ((unmet action asked).symm.trans fits)
    · refine ⟨fun unsuccessful => ?_, fun unposted => absurd asked.1 unposted, fun _ _ => ?_,
        fun _ _ _ => success, results⟩
      · exact Bool.noConfusion (unsuccessful.symm.trans success)
      · exact ⟨action, asked, fun other => asked.unique, fits, rfl⟩
  · intro lifetime mailbox reaches kind key foreign
    rw [Mailbox.getResult, reaches.find?_results foreign key]

/-- A result is put under the kind that an escaped path spells and the request that the query
tells, both decoded. -/
theorem requests_atomic_escaped_kind :
    let service : Service := ⟨Blake3.digest, fun _ => ""⟩
    let request : Http.Request :=
      ⟨"POST", Bytes.ofText "/stream/dkg%6Futput?request_id=a+b", none, [1, 2]⟩
    let action : Action := .putResult "dkgoutput" "a b" [1, 2]
    Asks 0 request action ∧ ∃ response next,
      service.respond 0 request (.start 1) = .ok (response, next) ∧ response.isSuccess = true ∧
        next = (Mailbox.start 1).after service.digest action := by
  intro service request action
  have asks : Asks 0 request action := by
    refine ⟨rfl, ⟨[Route.word "stream", Bytes.ofText "dkg%6Futput"],
      Bytes.ofText "request_id=a+b"⟩, .results (Bytes.ofText "dkg%6Futput"), ?_, ?_, ?_⟩
    · decide +kernel
    · decide +kernel
    · exact .putResult (by unfold Spells; decide +kernel) (by unfold Told; decide +kernel)
        (by decide) (by decide)
  have fits : (Mailbox.start 1).meets service.digest action = true := by decide +kernel
  obtain ⟨answers, crashes, -⟩ := requests_atomic service
  cases responded : service.respond 0 request (.start 1) with
  | error crash =>
    obtain ⟨topic, payload, other, -⟩ := crashes _ _ _ _ responded
    exact nomatch asks.unique other
  | ok answer =>
    obtain ⟨response, next⟩ := answer
    obtain ⟨-, -, done, succeeds, -⟩ := answers _ _ _ _ _ responded
    obtain ⟨other, asked, -, -, rfl⟩ := done rfl (succeeds action asks fits)
    obtain rfl := asks.unique asked
    exact ⟨asks, response, _, rfl, succeeds action asks fits, rfl⟩

end Resharing.Service
