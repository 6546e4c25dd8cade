import Resharing.Operator.Map

/-!
# Topics and their subscribers

A topic is a named list of subscribers. The topic of a session is named by the
session and lists its operators by their numbers.

## Main definitions

* `Topic`, `Subscriber`: what a messenger is told
* `Topic.forOperators`: a topic whose subscribers are operators
-/

namespace Resharing

/-- A named list of subscribers. -/
structure Topic where
  name : String
  subscribers : List String
  deriving DecidableEq

namespace Topic

def format : Json.Format Topic :=
  .record
    (.field "topic_name" .text .refused (.field "subscribers" (.list .text) .refused .done))
    (fun topic => (topic.name, topic.subscribers, ()))
    (fun (name, subscribers, ()) => ⟨name, subscribers⟩)

/-- A topic whose subscribers are the given operators. -/
def forOperators (name : String) (ids : List OperatorId) : Topic :=
  ⟨name, ids.map OperatorId.text⟩

/-- The topic that operators are registered on when none is named. -/
def defaultName : String := "default"

end Topic

/-- Someone who can be reached at an address. -/
structure Subscriber where
  name : String
  address : String
  deriving DecidableEq

/-- The written form of a subscriber. -/
def Subscriber.format : Json.Format Subscriber :=
  .record
    (.field "name" .text .refused (.field "address" .text .refused .done))
    (fun subscriber => (subscriber.name, subscriber.address, ()))
    (fun (name, address, ()) => ⟨name, address⟩)

end Resharing
