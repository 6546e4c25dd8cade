/-!
# Tables

A table holds a value for each of some keys, in the order in which the keys came in.
Inserting under a key that is there replaces its value in place.

## Main definitions

* `Table`: entries in order of first insertion
* `Table.find?`, `Table.insert`, `Table.filter`

## Main results

* `Table.find?_insert`: what is found after an insertion
-/

namespace Resharing

/-- Values under keys. -/
structure Table (κ α : Type) where
  entries : List (κ × α)

namespace Table

variable {κ α : Type} [BEq κ]

def empty : Table κ α := ⟨[]⟩

instance : Inhabited (Table κ α) := ⟨empty⟩

def find? (table : Table κ α) (key : κ) : Option α := table.entries.lookup key

/-- Whether there is a value under a key. -/
def contains (table : Table κ α) (key : κ) : Bool := (table.find? key).isSome

/-- The entries with a value put under a key. -/
def insertInto (key : κ) (value : α) : List (κ × α) → List (κ × α)
  | [] => [(key, value)]
  | (other, old) :: rest =>
    if key == other then (key, value) :: rest else (other, old) :: insertInto key value rest

/-- The table with a value put under a key. -/
def insert (table : Table κ α) (key : κ) (value : α) : Table κ α :=
  ⟨insertInto key value table.entries⟩

def filter (table : Table κ α) (keeps : κ → α → Bool) : Table κ α :=
  ⟨table.entries.filter fun (key, value) => keeps key value⟩

def erase (table : Table κ α) (key : κ) : Table κ α := table.filter fun other _ => !(other == key)

/-- The table with the value under a key changed; `fallback` stands for a missing one. -/
def modify (table : Table κ α) (key : κ) (fallback : α) (change : α → α) : Table κ α :=
  table.insert key (change ((table.find? key).getD fallback))

theorem lookup_insertInto [LawfulBEq κ] (key other : κ) (value : α) (entries : List (κ × α)) :
    (insertInto key value entries).lookup other =
      if other == key then some value else entries.lookup other := by
  induction entries with
  | nil => cases h : other == key <;> simp [insertInto, List.lookup_cons, h]
  | cons entry rest ih =>
    obtain ⟨first, old⟩ := entry
    by_cases same : key == first
    · obtain rfl := eq_of_beq same
      cases h : other == key <;> simp [insertInto, List.lookup_cons, h]
    · simp only [insertInto, same, Bool.false_eq_true, if_false, List.lookup_cons, ih]
      cases h : other == first
      · rfl
      · obtain rfl := eq_of_beq h
        have differ : (other == key) = false := by
          cases h' : other == key
          · rfl
          · obtain rfl := eq_of_beq h'
            simp at same
        simp [differ]

/-- After an insertion the new value is under its key and the others are where they were. -/
theorem find?_insert [LawfulBEq κ] (table : Table κ α) (key other : κ) (value : α) :
    (table.insert key value).find? other =
      if other == key then some value else table.find? other :=
  lookup_insertInto key other value table.entries

end Table

end Resharing
