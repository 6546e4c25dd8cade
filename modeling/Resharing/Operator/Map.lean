import Resharing.Json.Format

/-!
# Maps from operators

Operators are named by 64-bit numbers. A map from operators is the list of its
entries in strictly ascending order, so two maps with the same entries are equal
and every walk over a map meets the operators in the order of their numbers.

## Main definitions

* `OperatorId`, `OperatorMap`
* `OperatorMap.ofList`: the map of some pairs, the last of equal ids winning
* `OperatorMap.find?`, `OperatorMap.ids`: views of a map
* `OperatorMap.format`: a map as a JSON record with numeric names
-/

namespace Resharing

abbrev OperatorId := UInt64

namespace OperatorId

def text (id : OperatorId) : String := Decimal.text id.toNat

def format : Json.Format OperatorId :=
  (Json.Format.natural UInt64.size).convert UInt64.toNat fun n => some (UInt64.ofNat n)

end OperatorId

/-- Values for some operators, in ascending order of their ids. -/
structure OperatorMap (α : Type) where
  entries : List (OperatorId × α)
  ascending : entries.Pairwise fun left right => left.1 < right.1
  deriving DecidableEq

namespace OperatorMap

variable {α β : Type}

def empty : OperatorMap α := ⟨[], .nil⟩

instance : Inhabited (OperatorMap α) := ⟨empty⟩

def ids (map : OperatorMap α) : List OperatorId := map.entries.map (·.1)

def size (map : OperatorMap α) : Nat := map.entries.length

def find? (map : OperatorMap α) (id : OperatorId) : Option α := map.entries.lookup id

/-- Keeps the last of neighbouring entries with one id. -/
def keepLast : List (OperatorId × α) → List (OperatorId × α)
  | [] => []
  | [entry] => [entry]
  | entry :: next :: rest =>
    if entry.1 = next.1 then keepLast (next :: rest) else entry :: keepLast (next :: rest)

theorem mem_of_mem_keepLast {entry : OperatorId × α} {entries : List (OperatorId × α)}
    (member : entry ∈ keepLast entries) : entry ∈ entries := by
  fun_induction keepLast entries with
  | case1 => exact member
  | case2 => exact member
  | case3 first next rest same ih => exact List.mem_cons_of_mem _ (ih member)
  | case4 first next rest differ ih =>
    rcases List.mem_cons.1 member with rfl | later
    · exact List.mem_cons_self
    · exact List.mem_cons_of_mem _ (ih later)

/-- Out of entries in order, the last of each id make strictly ascending ones. -/
theorem pairwise_keepLast {entries : List (OperatorId × α)}
    (sorted : entries.Pairwise fun left right => left.1 ≤ right.1) :
    (keepLast entries).Pairwise fun left right => left.1 < right.1 := by
  fun_induction keepLast entries with
  | case1 => exact .nil
  | case2 => exact List.pairwise_singleton _ _
  | case3 first next rest same ih => exact ih sorted.of_cons
  | case4 first next rest differ ih =>
    refine List.pairwise_cons.2 ⟨fun entry member => ?_, ih sorted.of_cons⟩
    have below : first.1 ≤ next.1 := (List.pairwise_cons.1 sorted).1 next List.mem_cons_self
    have strict : first.1 < next.1 := UInt64.lt_of_le_of_ne below differ
    rcases List.mem_cons.1 (mem_of_mem_keepLast member) with rfl | later
    · exact strict
    · exact UInt64.lt_of_lt_of_le strict
        ((List.pairwise_cons.1 sorted.of_cons).1 entry later)

/-- Entries in ascending order of ids; equal ids keep their order. -/
def sort (entries : List (OperatorId × α)) : List (OperatorId × α) :=
  entries.mergeSort fun left right => decide (left.1 ≤ right.1)

theorem pairwise_sort (entries : List (OperatorId × α)) :
    (sort entries).Pairwise fun left right => left.1 ≤ right.1 := by
  let before : OperatorId × α → OperatorId × α → Bool :=
    fun left right => decide (left.1 ≤ right.1)
  have transitive : ∀ a b c, before a b = true → before b c = true → before a c = true := by
    intro a b c ab bc
    simp only [before, decide_eq_true_eq] at *
    exact UInt64.le_trans ab bc
  have total : ∀ a b, (before a b || before b a) = true := by
    intro a b
    simp only [before, Bool.or_eq_true, decide_eq_true_eq]
    exact UInt64.le_total _ _
  exact (List.pairwise_mergeSort transitive total entries).imp fun le => by
    simpa [before] using le

/-- The map of some pairs. Of equal ids the last pair wins. -/
def ofList (entries : List (OperatorId × α)) : OperatorMap α :=
  ⟨keepLast (sort entries), pairwise_keepLast (pairwise_sort entries)⟩

/-- Both maps together. The first map's value counts for an id of both. -/
def union (preferred other : OperatorMap α) : OperatorMap α :=
  ofList (other.entries ++ preferred.entries)

/-- The map with every value changed. -/
def map (f : OperatorId → α → β) (map : OperatorMap α) : OperatorMap β where
  entries := map.entries.map fun entry => (entry.1, f entry.1 entry.2)
  ascending := by
    rw [List.pairwise_map]
    exact map.ascending

/-- The map with every value changed, if all of them can be. -/
def mapM? (f : α → Option β) (map : OperatorMap α) : Option (OperatorMap β) := do
  let entries ← map.entries.mapM fun (id, a) => (f a).map fun b => (id, b)
  return ofList entries

/-! ### As JSON -/

open Json in
/-- An id as the name of a member: the digits of a number between quotes. -/
def readId : Reader OperatorId := fun bytes => do
  match ← openName bytes with
  | [] => .error .malformed
  | byte :: rest =>
    if byte = ascii '-' ∨ isDigit byte then
      let (number, rest) ← readNumber (byte :: rest)
      match number with
      | .natural value =>
        match rest with
        | sign :: rest =>
          if sign = quote then return (UInt64.ofNat value, rest) else .error .malformed
        | [] => .error .malformed
      | .other => .error .mismatch
    else .error .malformed

open Json in
/-- Reads the members of a map up to its closing sign. -/
def readEntries (value : Reader α) : Nat → Bool → Reader (List (OperatorId × α))
  | 0, _, _ => .error .malformed
  | fuel + 1, first, bytes => do
    match ← nextPart '\x7d' first bytes with
    | none => return ([], ← expectSign '\x7d' bytes)
    | some member =>
      let (id, rest) ← readId member
      let (a, rest) ← value (← expectSign ':' rest)
      let (entries, rest) ← readEntries value fuel false rest
      return ((id, a) :: entries, rest)

open Json in
/-- Maps as records whose names are the ids; the last of equal names wins. -/
def format (inner : Format α) : Format (OperatorMap α) where
  value map := .record (map.entries.map fun (id, a) => (id.text, inner.value a))
  read bytes :=
    match skipSpace bytes with
    | byte :: rest =>
      if byte = ascii '\x7b' then
        (readEntries inner.read (rest.length + 1) true rest).map
          fun (entries, tail) => (ofList entries, tail)
      else .error (refuse (byte :: rest))
    | [] => .error .malformed

end OperatorMap

end Resharing
