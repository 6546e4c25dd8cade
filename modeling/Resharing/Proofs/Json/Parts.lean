import Resharing.Proofs.Json.Numerals

/-!
# Parts of lists and records

The items of a list and the members of a record are written in the same way: one after another
with commas between them, and a closing sign behind the last. Wherever a reader stands between
two parts, it finds the next one, because no written value begins with a space or a closing sign.

## Main definitions

* `Json.Opens`: what a written value begins with
* `Json.parted`: parts with commas between them

## Main results

* `Json.Value.compact_eq_cons`: how a written value begins
* `Json.nextPart_parted`, `Json.nextPart_closed`: the next part is found, or the closing sign
-/

namespace Resharing.Json

variable {byte : UInt8} {part tail : Bytes} {parts : List Bytes} {close : Char}

/-- Whether a byte can be the first of a part. -/
structure Opens (byte : UInt8) : Prop where
  solid : isSpace byte = false
  notList : byte ≠ ascii ']'
  notRecord : byte ≠ ascii '\x7d'

/-- Whether a part has a first byte and begins with it. -/
def Opening (part : Bytes) : Prop := ∃ first rest, part = first :: rest ∧ Opens first

/-- The signs that close a list or a record. -/
def Closes (close : Char) : Prop := close = ']' ∨ close = '\x7d'

theorem closes_list : Closes ']' := Or.inl rfl

theorem closes_record : Closes '\x7d' := Or.inr rfl

theorem Closes.not_space (closes : Closes close) : isSpace (ascii close) = false := by
  rcases closes with rfl | rfl <;> decide

theorem Opens.ne_close (opens : Opens byte) (closes : Closes close) : byte ≠ ascii close := by
  rcases closes with rfl | rfl
  · exact opens.notList
  · exact opens.notRecord

theorem opens_of_isDigit (digit : isDigit byte = true) : Opens byte where
  solid := isSpace_of_isDigit digit
  notList := by rintro rfl; exact absurd digit (by decide)
  notRecord := by rintro rfl; exact absurd digit (by decide)

theorem opens_quote : Opens quote := ⟨by decide, by decide, by decide⟩

/-- A written value begins with no space and no closing sign, and with the letter of `null` only
when it is `null`. -/
theorem Value.compact_eq_cons (value : Value) : ∃ first rest,
    value.compact = first :: rest ∧ Opens first ∧ (first = ascii 'n' → value = .null) := by
  cases value with
  | null => exact ⟨_, _, rfl, ⟨by decide, by decide, by decide⟩, fun _ => rfl⟩
  | bool truth =>
    cases truth <;>
      exact ⟨_, _, rfl, ⟨by decide, by decide, by decide⟩, fun same => absurd same (by decide)⟩
  | number n =>
    obtain ⟨first, rest, split, digit, -⟩ := numeral_eq_cons n
    refine ⟨first, rest, split, opens_of_isDigit digit, ?_⟩
    rintro rfl
    exact absurd digit (by decide)
  | text s => exact ⟨_, _, rfl, opens_quote, fun same => absurd same (by decide)⟩
  | list items =>
    exact ⟨_, _, rfl, ⟨by decide, by decide, by decide⟩, fun same => absurd same (by decide)⟩
  | record members =>
    exact ⟨_, _, rfl, ⟨by decide, by decide, by decide⟩, fun same => absurd same (by decide)⟩

theorem Value.opening_compact (value : Value) : Opening value.compact := by
  obtain ⟨first, rest, split, opens, -⟩ := value.compact_eq_cons
  exact ⟨first, rest, split, opens⟩

/-! ### Commas between parts -/

/-- Parts one after another, a comma in front of each but the first of all. -/
def parted : Bool → List Bytes → Bytes
  | _, [] => []
  | true, part :: rest => part ++ parted false rest
  | false, part :: rest => ascii ',' :: (part ++ parted false rest)

@[simp] theorem parted_nil (first : Bool) : parted first [] = [] := by
  cases first <;> rfl

theorem Value.compactItems_eq_parted (items : List Value) :
    Value.compactItems items = parted true (items.map Value.compact) := by
  induction items with
  | nil => rfl
  | cons item rest ih =>
    cases rest with
    | nil => simp [Value.compactItems, parted]
    | cons next rest => simp only [Value.compactItems, ih, List.map_cons, parted]

/-- A member as a part. -/
def Value.member (member : String × Value) : Bytes :=
  quoted member.1 ++ ascii ':' :: member.2.compact

theorem Value.compactMembers_eq_parted (members : List (String × Value)) :
    Value.compactMembers members = parted true (members.map Value.member) := by
  induction members with
  | nil => rfl
  | cons first rest ih =>
    cases rest with
    | nil => simp [Value.compactMembers, parted, Value.member]
    | cons next rest =>
      simp only [Value.compactMembers, ih, List.map_cons, parted, Value.member, List.append_assoc,
        List.cons_append]

theorem Value.opening_member (member : String × Value) : Opening (Value.member member) :=
  ⟨quote, _, rfl, opens_quote⟩

/-- There are no more parts than bytes, so bytes are fuel enough for a walk over the parts. -/
theorem length_le_parted (opening : ∀ part ∈ parts, Opening part) (first : Bool) :
    parts.length ≤ (parted first parts).length := by
  induction parts generalizing first with
  | nil => exact Nat.zero_le _
  | cons part rest ih =>
    obtain ⟨byte, more, rfl, -⟩ := opening part List.mem_cons_self
    have later := ih (fun other member => opening other (List.mem_cons_of_mem _ member)) false
    cases first <;> simp only [parted, List.length_cons, List.length_append] <;> omega

/-- A written list, with what follows it. -/
theorem Value.compact_list_append (items : List Value) (tail : Bytes) :
    (Value.list items).compact ++ tail =
      ascii '[' :: (parted true (items.map Value.compact) ++ ascii ']' :: tail) := by
  simp [Value.compact, Value.compactItems_eq_parted]

/-- A written record, with what follows it. -/
theorem Value.compact_record_append (members : List (String × Value)) (tail : Bytes) :
    (Value.record members).compact ++ tail =
      ascii '\x7b' :: (parted true (members.map Value.member) ++ ascii '\x7d' :: tail) := by
  simp [Value.compact, Value.compactMembers_eq_parted]

theorem Value.length_le_items (items : List Value) :
    items.length ≤ (parted true (items.map Value.compact)).length := by
  have opening : ∀ part ∈ items.map Value.compact, Opening part := by
    intro part member
    obtain ⟨item, -, rfl⟩ := List.mem_map.mp member
    exact item.opening_compact
  simpa using length_le_parted opening true

theorem Value.length_le_members (members : List (String × Value)) :
    members.length ≤ (parted true (members.map Value.member)).length := by
  have opening : ∀ part ∈ members.map Value.member, Opening part := by
    intro part member
    obtain ⟨pair, -, rfl⟩ := List.mem_map.mp member
    exact Value.opening_member pair
  simpa using length_le_parted opening true

/-! ### Finding the next part -/

/-- No numeral goes on with a comma or a closing sign. -/
theorem ends_parted (closes : Closes close) (parts : List Bytes) (tail : Bytes) :
    Ends (parted false parts ++ ascii close :: tail) := by
  cases parts with
  | nil => rcases closes with rfl | rfl <;> exact ends_cons.mpr (by decide)
  | cons part rest => exact ends_cons.mpr (by decide)

theorem nextPart_closed (closes : Closes close) (first : Bool) (tail : Bytes) :
    nextPart close first (ascii close :: tail) = .ok none := by
  rw [nextPart, skipSpace_solid closes.not_space]
  exact if_pos rfl

theorem expectSign_closed (closes : Closes close) (tail : Bytes) :
    expectSign close (ascii close :: tail) = .ok tail := by
  rw [expectSign, skipSpace_solid closes.not_space]
  exact if_pos rfl

theorem expectSign_colon (tail : Bytes) : expectSign ':' (ascii ':' :: tail) = .ok tail := by
  rw [expectSign, skipSpace_solid (by decide)]
  exact if_pos rfl

/-- The next part starts where it was written, whether it is the first or follows a comma. -/
theorem nextPart_parted (closes : Closes close) (opening : Opening part) (first : Bool)
    (parts : List Bytes) (tail : Bytes) :
    nextPart close first (parted first (part :: parts) ++ tail) =
      .ok (some (part ++ (parted false parts ++ tail))) := by
  obtain ⟨byte, rest, rfl, opens⟩ := opening
  have other := opens.ne_close closes
  cases first with
  | true =>
    simp only [parted, List.cons_append, List.append_assoc, nextPart, skipSpace_solid opens.solid,
      if_neg other, if_true]
  | false =>
    have comma : ascii ',' ≠ ascii close := by rcases closes with rfl | rfl <;> decide
    have solid : isSpace (ascii ',') = false := by decide
    simp only [parted, List.cons_append, List.append_assoc, nextPart, skipSpace_solid solid,
      skipSpace_solid opens.solid, if_neg other, if_neg comma, if_true, Bool.false_eq_true,
      if_false]

end Resharing.Json
