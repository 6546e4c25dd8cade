import Mathlib.Data.List.Nodup
import Resharing.Table

/-!
# The entries of a table

In a table that is only ever filled by insertions no key comes twice. There an insertion is a
removal followed by an addition, as far as other keys and values can tell, although it leaves
the new value where the old one was.

## Main definitions

* `Table.Distinct`: no key comes twice
* `Table.Keyed`: moreover each value suits its key

## Main results

* `Table.mem_insert`: the entries after an insertion
* `Table.Distinct.insert`, `Table.Distinct.filter`: no key comes twice
* `Table.Distinct.find?_of_mem`: what lies under a key is found
* `Table.find?_erase`: what is found after a removal
* `Table.filter_insert`: to those whom the new entry does not concern, an insertion is a removal
* `Table.Keyed.insert`, `Table.Keyed.filter`, `Table.Keyed.find?`: what every value has in common
  with its key
-/

namespace Resharing.Table

variable {κ α : Type} [BEq κ] [LawfulBEq κ] {table : Table κ α} {key : κ} {value : α}
  {entry : κ × α} {entries : List (κ × α)}

/-- No key comes twice. -/
def Distinct (table : Table κ α) : Prop := (table.entries.map (·.1)).Nodup

omit [BEq κ] [LawfulBEq κ] in
theorem distinct_empty : (empty : Table κ α).Distinct := List.nodup_nil

omit [BEq κ] [LawfulBEq κ] in
private theorem key_ne_of_mem (fresh : key ∉ entries.map (·.1)) (member : entry ∈ entries) :
    entry.1 ≠ key := by
  intro same
  exact fresh (List.mem_map.mpr ⟨entry, member, same⟩)

private theorem mem_insertInto (distinct : (entries.map (·.1)).Nodup) :
    entry ∈ insertInto key value entries ↔
      entry = (key, value) ∨ entry ∈ entries ∧ entry.1 ≠ key := by
  induction entries with
  | nil => simp [insertInto]
  | cons first rest ih =>
    obtain ⟨other, old⟩ := first
    obtain ⟨fresh, distinct⟩ := List.nodup_cons.mp distinct
    by_cases same : key = other
    · subst same
      simp only [insertInto, beq_self_eq_true, if_true, List.mem_cons]
      constructor
      · rintro (rfl | member)
        · exact .inl rfl
        · exact .inr ⟨.inr member, key_ne_of_mem fresh member⟩
      · rintro (rfl | ⟨rfl | member, differ⟩)
        · exact .inl rfl
        · exact absurd rfl differ
        · exact .inr member
    · simp only [insertInto, beq_false_of_ne same, Bool.false_eq_true, if_false, List.mem_cons,
        ih distinct]
      constructor
      · rintro (rfl | rfl | ⟨member, differ⟩)
        · exact .inr ⟨.inl rfl, Ne.symm same⟩
        · exact .inl rfl
        · exact .inr ⟨.inr member, differ⟩
      · rintro (rfl | ⟨rfl | member, differ⟩)
        · exact .inr (.inl rfl)
        · exact .inl rfl
        · exact .inr (.inr ⟨member, differ⟩)

/-- After an insertion there is the new entry, and what was under other keys. -/
theorem mem_insert (distinct : table.Distinct) :
    entry ∈ (table.insert key value).entries ↔
      entry = (key, value) ∨ entry ∈ table.entries ∧ entry.1 ≠ key :=
  mem_insertInto distinct

theorem Distinct.insert (distinct : table.Distinct) : (table.insert key value).Distinct := by
  obtain ⟨entries⟩ := table
  change ((insertInto key value entries).map (·.1)).Nodup
  change (entries.map (·.1)).Nodup at distinct
  induction entries with
  | nil => simp [insertInto]
  | cons first rest ih =>
    obtain ⟨other, old⟩ := first
    obtain ⟨fresh, later⟩ := List.nodup_cons.mp distinct
    by_cases same : key = other
    · subst same
      simpa [insertInto] using distinct
    · simp only [insertInto, beq_false_of_ne same, Bool.false_eq_true, if_false, List.map_cons]
      refine List.nodup_cons.mpr ⟨fun member => ?_, ih later⟩
      obtain ⟨added, inside, equal⟩ := List.mem_map.mp member
      rcases (mem_insertInto later).mp inside with rfl | ⟨kept, -⟩
      · exact same equal
      · exact key_ne_of_mem fresh kept equal

/-- Whatever lies under a key is found there. -/
theorem Distinct.find?_of_mem (distinct : table.Distinct) (member : entry ∈ table.entries) :
    table.find? entry.1 = some entry.2 := by
  obtain ⟨entries⟩ := table
  change (entries.map (·.1)).Nodup at distinct
  change entry ∈ entries at member
  change entries.lookup entry.1 = some entry.2
  induction entries with
  | nil => cases member
  | cons first rest ih =>
    obtain ⟨fresh, later⟩ := List.nodup_cons.mp distinct
    rcases List.mem_cons.mp member with rfl | member
    · exact List.lookup_cons_self
    · rw [List.lookup_cons, beq_false_of_ne (key_ne_of_mem fresh member)]
      exact ih later member

omit [BEq κ] [LawfulBEq κ] in
theorem Distinct.filter (distinct : table.Distinct) (keeps : κ → α → Bool) :
    (table.filter keeps).Distinct :=
  distinct.sublist (List.filter_sublist.map _)

/-- After a removal nothing is under the key, and the rest is where it was. -/
theorem find?_erase (table : Table κ α) (key other : κ) :
    (table.erase key).find? other = if other == key then none else table.find? other := by
  obtain ⟨entries⟩ := table
  change (entries.filter fun entry => !(entry.1 == key)).lookup other = _
  induction entries with
  | nil => simp [find?]
  | cons first rest ih =>
    obtain ⟨present, value⟩ := first
    simp only [find?] at ih ⊢
    by_cases gone : present = key
    · -- The entry that is removed is not the one that is looked for, unless nothing is found.
      subst gone
      by_cases same : other = present
      · simpa [same] using ih
      · simpa [List.lookup_cons, same, beq_false_of_ne same] using ih
    · by_cases same : other = present
      · simp [same, gone]
      · simpa [List.lookup_cons, gone, beq_false_of_ne same] using ih

/-- Those whom the new entry does not concern see an insertion as a removal: what was under the
key is gone, and the rest is where it was. -/
theorem filter_insert (distinct : table.Distinct) {concerns : κ × α → Bool}
    (other : concerns (key, value) = false) :
    (table.insert key value).entries.filter concerns =
      (table.entries.filter concerns).filter fun entry => !(entry.1 == key) := by
  obtain ⟨entries⟩ := table
  change (insertInto key value entries).filter concerns = _
  change (entries.map (·.1)).Nodup at distinct
  induction entries with
  | nil => simp [insertInto, other]
  | cons first rest ih =>
    obtain ⟨present, old⟩ := first
    obtain ⟨fresh, later⟩ := List.nodup_cons.mp distinct
    by_cases same : key = present
    · subst same
      have apart : ∀ entry ∈ rest.filter concerns, (!(entry.1 == key)) = true := by
        intro entry member
        have differ := key_ne_of_mem fresh (List.mem_filter.mp member).1
        simp [differ]
      have kept := List.filter_eq_self.mpr apart
      by_cases seen : concerns (key, old) <;> simp [insertInto, other, seen, kept]
    · have differ : ¬ present = key := Ne.symm same
      by_cases seen : concerns (present, old) <;>
        simp [insertInto, same, differ, seen, ih later]

@[simp] theorem find?_insert_self (table : Table κ α) (key : κ) (value : α) :
    (table.insert key value).find? key = some value := by
  rw [find?_insert, if_pos (beq_self_eq_true key)]

theorem contains_insert (table : Table κ α) (key other : κ) (value : α) :
    (table.insert key value).contains other = (other == key || table.contains other) := by
  rw [contains, find?_insert]
  split <;> simp_all [contains]

/-! ### Values that suit their keys -/

/-- No key comes twice, and each value suits the key under which it lies. -/
structure Keyed (table : Table κ α) (suits : κ → α → Prop) : Prop where
  distinct : table.Distinct
  suits : ∀ entry ∈ table.entries, suits entry.1 entry.2

namespace Keyed

variable {suits fits : κ → α → Prop}

omit [BEq κ] [LawfulBEq κ] in
theorem empty : (Table.empty : Table κ α).Keyed suits :=
  ⟨distinct_empty, fun _ member => absurd member List.not_mem_nil⟩

theorem insert (keyed : table.Keyed suits) (new : suits key value) :
    (table.insert key value).Keyed suits := by
  refine ⟨keyed.distinct.insert, fun entry member => ?_⟩
  rcases (mem_insert keyed.distinct).mp member with rfl | ⟨old, -⟩
  · exact new
  · exact keyed.suits entry old

omit [BEq κ] [LawfulBEq κ] in
theorem filter (keyed : table.Keyed suits) (keeps : κ → α → Bool) :
    (table.filter keeps).Keyed suits :=
  ⟨keyed.distinct.filter keeps, fun entry member => keyed.suits entry (List.mem_filter.mp member).1⟩

omit [BEq κ] [LawfulBEq κ] in
theorem mono (keyed : table.Keyed suits) (weaker : ∀ key value, suits key value → fits key value) :
    table.Keyed fits :=
  ⟨keyed.distinct, fun entry member => weaker _ _ (keyed.suits entry member)⟩

/-- What is found suits the key that it was looked for under. -/
theorem find? (keyed : table.Keyed suits) (found : table.find? key = some value) :
    suits key value := by
  obtain ⟨before, later, split, -⟩ := List.lookup_eq_some_iff.mp found
  exact keyed.suits (key, value) (split ▸ List.mem_append_right before List.mem_cons_self)

end Keyed

end Resharing.Table
