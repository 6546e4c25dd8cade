import Resharing.Proofs.Operator.Map
import Resharing.Proofs.Session.Acceptance

/-!
# The operators of a session

The operators of a session are the new ones and the old ones, each once and in the order of
their numbers. A session that was accepted has at least one.

## Main definitions

* `Session.addresses`: the address of each operator

## Main results

* `Session.mem_allIds`, `Session.pairwise_allIds`
* `Session.find?_addresses`: the addresses are those that the session says
* `Session.addressOf_eq_some_iff`: a new operator's address comes before an old one's
* `Session.allIds_ne_nil_of_accept`
-/

namespace Resharing

/-- Specifications in the order of their ids, each id once, are the entries of their map. -/
theorem Operator.Spec.parseAll_eq_ok {specs : List String} {map : OperatorMap String}
    (parsed : specs.mapM parse = .ok map.entries) : parseAll specs = .ok map := by
  rw [parseAll, parsed]
  exact congrArg Except.ok (OperatorMap.ofList_entries map)

namespace Session

variable {session : Session} {id : OperatorId}

theorem pairwise_allIds (session : Session) : session.allIds.Pairwise (· < ·) :=
  OperatorMap.pairwise_ids _

theorem mem_allIds :
    id ∈ session.allIds ↔ id ∈ session.operators.ids ∨ id ∈ session.oldOperators.ids := by
  rw [allIds, OperatorMap.union, OperatorMap.mem_ids_ofList, List.map_append, List.mem_append]
  exact or_comm

theorem nodup_allIds (session : Session) : session.allIds.Nodup := OperatorMap.nodup_ids _

/-- The address of each operator of a session. -/
def addresses (session : Session) : OperatorMap String :=
  session.operators.union session.oldOperators

theorem ids_addresses (session : Session) : session.addresses.ids = session.allIds := rfl

theorem addresses_of_empty (none : session.oldOperators = .empty) :
    session.addresses = session.operators := by
  rw [addresses, none]
  exact OperatorMap.ofList_entries session.operators

theorem find?_addresses (session : Session) (id : OperatorId) :
    session.addresses.find? id = session.addressOf id :=
  OperatorMap.find?_union _ _ _

theorem addressOf_eq_none_iff : session.addressOf id = none ↔ id ∉ session.allIds := by
  rw [← find?_addresses, OperatorMap.find?_eq_none_iff, ids_addresses]

theorem exists_addressOf (member : id ∈ session.allIds) :
    ∃ address, session.addressOf id = some address := by
  refine Option.ne_none_iff_exists'.mp fun none => ?_
  exact session.addressOf_eq_none_iff.mp none member

/-- An operator has its address as a new operator, or as an old one if it is not among the new. -/
theorem addressOf_eq_some_iff {address : String} : session.addressOf id = some address ↔
    session.operators.find? id = some address ∨
      session.operators.find? id = none ∧ session.oldOperators.find? id = some address :=
  Option.or_eq_some_iff

theorem addressOf_of_mem {entry : OperatorId × String}
    (member : entry ∈ session.addresses.entries) : session.addressOf entry.1 = some entry.2 := by
  rw [← find?_addresses]
  exact OperatorMap.find?_eq_some_iff.mpr member

/-- A session that was accepted has a new operator. -/
theorem size_operators_of_accept {name : SessionId} {request : Request}
    (accepted : accept name request = .ok session) : session.operators.size ≠ 0 :=
  (accept_eq_ok accepted).inhabited

theorem allIds_ne_nil_of_accept {name : SessionId} {request : Request}
    (accepted : accept name request = .ok session) : session.allIds ≠ [] := by
  have some := size_operators_of_accept accepted
  rw [OperatorMap.size, ← List.length_map (f := (·.1)), ne_eq, List.length_eq_zero_iff] at some
  obtain ⟨id, member⟩ := List.exists_mem_of_ne_nil _ some
  exact List.ne_nil_of_mem (mem_allIds.mpr (.inl member))

end Session

end Resharing
