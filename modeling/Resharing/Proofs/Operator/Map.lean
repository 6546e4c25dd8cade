import Mathlib.Data.List.Sort
import Resharing.Operator.Map

/-!
# Maps from operators, by what is found in them

A map is determined by what is found under each id. Building a map from pairs keeps the last
pair of each id, because sorting leaves pairs of one id in their order.

## Main definitions

* `OperatorMap.insert`: a map with a value put under an id

## Main results

* `OperatorMap.ext_find?`: maps in which the same is found are equal
* `OperatorMap.find?_ofList`: the last pair of an id counts
* `OperatorMap.find?_union`, `OperatorMap.find?_insert`, `OperatorMap.find?_map`
* `OperatorMap.ofList_entries`: a map is made of its own entries
* `OperatorMap.entries_ofList_perm`: pairs of different ids are all kept
-/

namespace Resharing.OperatorMap

variable {α β : Type} {map : OperatorMap α} {id : OperatorId} {a : α}

theorem pairwise_ids (map : OperatorMap α) : map.ids.Pairwise (· < ·) :=
  List.pairwise_map.mpr map.ascending

theorem nodup_ids (map : OperatorMap α) : map.ids.Nodup :=
  map.pairwise_ids.imp fun less => UInt64.ne_of_lt less

theorem mem_ids_iff : id ∈ map.ids ↔ ∃ a, (id, a) ∈ map.entries := by
  simp [ids]

private theorem lookup_eq_some_iff {entries : List (OperatorId × α)}
    (ascending : entries.Pairwise fun left right => left.1 < right.1) :
    entries.lookup id = some a ↔ (id, a) ∈ entries := by
  induction entries with
  | nil => simp
  | cons entry rest ih =>
    obtain ⟨first, value⟩ := entry
    obtain ⟨least, later⟩ := List.pairwise_cons.mp ascending
    by_cases same : id = first
    · subst same
      have absent : (id, a) ∉ rest := fun member => UInt64.lt_irrefl id (least (id, a) member)
      simp [absent, eq_comm]
    · rw [List.lookup_cons, beq_false_of_ne same]
      simp [ih later, same]

/-- Finding is membership: no id has two entries. -/
theorem find?_eq_some_iff : map.find? id = some a ↔ (id, a) ∈ map.entries :=
  lookup_eq_some_iff map.ascending

theorem find?_eq_none_iff : map.find? id = none ↔ id ∉ map.ids := by
  rw [mem_ids_iff, Option.eq_none_iff_forall_not_mem, not_exists]
  exact forall_congr' fun a => not_congr find?_eq_some_iff

theorem find?_isSome_iff : (map.find? id).isSome ↔ id ∈ map.ids := by
  rw [← not_iff_not, Option.not_isSome_iff_eq_none, find?_eq_none_iff]

/-- Maps in which the same is found under every id are equal. -/
theorem ext_find? {left right : OperatorMap α} (same : ∀ id, left.find? id = right.find? id) :
    left = right := by
  have irreflexive : Std.Irrefl fun left right : OperatorId × α => left.1 < right.1 :=
    ⟨fun entry => UInt64.lt_irrefl entry.1⟩
  have antisymmetric : Std.Antisymm fun left right : OperatorId × α => left.1 < right.1 :=
    ⟨fun _ _ less more => absurd (UInt64.lt_trans less more) (UInt64.lt_irrefl _)⟩
  have entries : left.entries = right.entries := by
    refine List.Pairwise.eq_of_mem_iff left.ascending right.ascending fun entry => ?_
    rw [← find?_eq_some_iff, ← find?_eq_some_iff, same]
  cases left
  cases right
  congr

/-! ### The last pair counts -/

/-- The value of the last pair with an id. -/
def lastValue? (entries : List (OperatorId × α)) (id : OperatorId) : Option α :=
  ((entries.filter (·.1 == id)).getLast?).map (·.2)

private theorem filter_sort (entries : List (OperatorId × α)) (id : OperatorId) :
    (sort entries).filter (·.1 == id) = entries.filter (·.1 == id) := by
  let before : OperatorId × α → OperatorId × α → Bool :=
    fun left right => decide (left.1 ≤ right.1)
  have transitive : ∀ a b c, before a b = true → before b c = true → before a c = true := by
    intro a b c ab bc
    simp only [before, decide_eq_true_eq] at *
    exact UInt64.le_trans ab bc
  have total : ∀ a b, (before a b || before b a) = true := by
    intro a b
    simp only [before, Bool.or_eq_true, decide_eq_true_eq]
    exact UInt64.le_total _ _
  -- Pairs of one id are in order among themselves, so sorting keeps them as a sublist.
  have alike : (entries.filter (·.1 == id)).Pairwise fun left right => before left right := by
    refine List.pairwise_of_forall_mem_list fun left leftMember right rightMember => ?_
    have leftId := (List.mem_filter.mp leftMember).2
    have rightId := (List.mem_filter.mp rightMember).2
    simp only [beq_iff_eq] at leftId rightId
    simp [before, leftId, rightId]
  have kept := (List.sublist_mergeSort transitive total alike List.filter_sublist).filter
    (·.1 == id)
  simp only [List.filter_filter, Bool.and_self] at kept
  have permuted : ((sort entries).filter (·.1 == id)).length =
      (entries.filter (·.1 == id)).length :=
    ((List.mergeSort_perm entries before).filter _).length_eq
  exact (kept.eq_of_length permuted.symm).symm

/-- Among pairs in order, the last of an id is the one that is kept. -/
private theorem lookup_keepLast {entries : List (OperatorId × α)}
    (sorted : entries.Pairwise fun left right => left.1 ≤ right.1) (id : OperatorId) :
    (keepLast entries).lookup id = lastValue? entries id := by
  unfold lastValue?
  fun_induction keepLast entries with
  | case1 => rfl
  | case2 entry =>
    obtain ⟨other, value⟩ := entry
    by_cases same : other = id
    · simp [same]
    · simp [same, Ne.symm same]
  | case3 first next rest same ih =>
    rw [ih sorted.of_cons, List.filter_cons (x := first)]
    by_cases chosen : first.1 = id
    · have following : next.1 = id := same ▸ chosen
      simp [chosen, following]
    · simp [chosen]
  | case4 first next rest differ ih =>
    rw [List.lookup_cons, List.filter_cons (x := first)]
    by_cases chosen : first.1 = id
    · -- The next id is greater and so are all after it: this is the last pair of its id.
      have later : (next :: rest).filter (·.1 == id) = [] := by
        refine List.filter_eq_nil_iff.mpr fun entry member => ?_
        have below : first.1 ≤ next.1 := (List.pairwise_cons.mp sorted).1 next List.mem_cons_self
        have strict : first.1 < next.1 := UInt64.lt_of_le_of_ne below differ
        have above : next.1 ≤ entry.1 := by
          rcases List.mem_cons.mp member with rfl | behind
          · exact UInt64.le_refl _
          · exact (List.pairwise_cons.mp sorted.of_cons).1 entry behind
        have apart : id ≠ entry.1 := by
          rw [← chosen]
          exact UInt64.ne_of_lt (UInt64.lt_of_lt_of_le strict above)
        simpa using Ne.symm apart
      simp [later, chosen]
    · rw [beq_false_of_ne (Ne.symm chosen), beq_false_of_ne chosen, ih sorted.of_cons]
      rfl

/-- Of several pairs with an id the last is found. -/
theorem find?_ofList (entries : List (OperatorId × α)) (id : OperatorId) :
    (ofList entries).find? id = lastValue? entries id := by
  have sorted := lookup_keepLast (pairwise_sort entries) id
  rwa [lastValue?, filter_sort] at sorted

theorem mem_ids_ofList {entries : List (OperatorId × α)} :
    id ∈ (ofList entries).ids ↔ id ∈ entries.map (·.1) := by
  rw [← find?_isSome_iff, find?_ofList, lastValue?, Option.isSome_map, List.mem_map,
    List.getLast?_isSome, ne_eq, List.filter_eq_nil_iff]
  simp

/-! ### Changing values -/

@[simp] theorem ids_map (f : OperatorId → α → β) (map : OperatorMap α) :
    (map.map f).ids = map.ids := by
  simp [ids, OperatorMap.map]

theorem find?_map (f : OperatorId → α → β) (map : OperatorMap α) (id : OperatorId) :
    (map.map f).find? id = (map.find? id).map (f id) := by
  obtain ⟨entries, ascending⟩ := map
  simp only [find?, OperatorMap.map]
  clear ascending
  induction entries with
  | nil => rfl
  | cons entry rest ih =>
    rw [List.map_cons, List.lookup_cons, List.lookup_cons, ih]
    by_cases same : id = entry.1
    · simp [same]
    · simp [beq_false_of_ne same]

theorem keepLast_of_ascending {entries : List (OperatorId × α)}
    (ascending : entries.Pairwise fun left right => left.1 < right.1) :
    keepLast entries = entries := by
  fun_induction keepLast entries with
  | case1 => rfl
  | case2 => rfl
  | case3 first next rest same ih =>
    have less := (List.pairwise_cons.mp ascending).1 next List.mem_cons_self
    exact absurd same (UInt64.ne_of_lt less)
  | case4 first next rest differ ih => rw [ih ascending.of_cons]

/-- A map is made of its own entries. -/
theorem ofList_entries (map : OperatorMap α) : ofList map.entries = map := by
  have sorted : sort map.entries = map.entries := by
    apply List.mergeSort_of_pairwise
    exact map.ascending.imp fun less => decide_eq_true (UInt64.le_of_lt less)
  obtain ⟨entries, ascending⟩ := map
  simp only [ofList, sorted, keepLast_of_ascending ascending]

/-- The map of pairs of different ids has just these entries. -/
theorem entries_ofList_perm {entries : List (OperatorId × α)}
    (different : (entries.map (·.1)).Nodup) : (ofList entries).entries.Perm entries := by
  have sorted : (sort entries).Perm entries := List.mergeSort_perm _ _
  have apart : (sort entries).Pairwise fun left right => left.1 ≠ right.1 := by
    have still : ((sort entries).map (·.1)).Nodup := (sorted.map _).nodup_iff.mpr different
    exact List.pairwise_map.mp still
  have ascending : (sort entries).Pairwise fun left right => left.1 < right.1 :=
    ((pairwise_sort entries).and apart).imp fun both => UInt64.lt_of_le_of_ne both.1 both.2
  change (keepLast (sort entries)).Perm entries
  rw [keepLast_of_ascending ascending]
  exact sorted

theorem lastValue?_entries (map : OperatorMap α) (id : OperatorId) :
    lastValue? map.entries id = map.find? id := by
  rw [← find?_ofList, ofList_entries]

/-- The first map's value counts. -/
theorem find?_union (preferred other : OperatorMap α) (id : OperatorId) :
    (preferred.union other).find? id = (preferred.find? id).or (other.find? id) := by
  rw [union, find?_ofList, ← lastValue?_entries preferred, ← lastValue?_entries other]
  simp only [lastValue?, List.filter_append, List.getLast?_append]
  cases (preferred.entries.filter (·.1 == id)).getLast? <;> rfl

/-- The map with a value put under an id. -/
def insert (map : OperatorMap α) (id : OperatorId) (a : α) : OperatorMap α :=
  ofList (map.entries ++ [(id, a)])

theorem find?_insert (map : OperatorMap α) (id other : OperatorId) (a : α) :
    (map.insert id a).find? other = if other = id then some a else map.find? other := by
  rw [insert, find?_ofList]
  by_cases same : other = id
  · simp [lastValue?, same]
  · rw [if_neg same, ← lastValue?_entries]
    simp [lastValue?, List.filter_append, Ne.symm same]

theorem ids_insert (present : id ∈ map.ids) : (map.insert id a).ids = map.ids := by
  refine List.Pairwise.eq_of_mem_iff (pairwise_ids _) (pairwise_ids _) fun other => ?_
  rw [← find?_isSome_iff, find?_insert, ← find?_isSome_iff]
  by_cases same : other = id
  · simp [same, find?_isSome_iff.mpr present]
  · simp [same]

/-- A map whose ids and values are those of a list has the entries that the list says. -/
theorem entries_eq_map {γ : Type} {list : List γ} {key : γ → OperatorId} {value : γ → α}
    (ids : map.ids = list.map key)
    (values : ∀ c ∈ list, map.find? (key c) = some (value c)) :
    map.entries = list.map fun c => (key c, value c) := by
  have ascending : (list.map fun c => (key c, value c)).Pairwise fun left right =>
      left.1 < right.1 := by
    have keys := map.pairwise_ids
    rw [ids, List.pairwise_map] at keys
    exact List.pairwise_map.mpr keys
  have same : map = ⟨_, ascending⟩ := by
    refine ext_find? fun id => ?_
    by_cases member : id ∈ map.ids
    · obtain ⟨c, inside, rfl⟩ := List.mem_map.mp (ids ▸ member)
      rw [values c inside, eq_comm, find?_eq_some_iff]
      exact List.mem_map_of_mem inside
    · rw [find?_eq_none_iff.mpr member, eq_comm, find?_eq_none_iff]
      rw [ids] at member
      simpa [OperatorMap.ids] using member
  exact congrArg OperatorMap.entries same

end Resharing.OperatorMap
