import Resharing.Operator.Basic
import Resharing.Proofs.Json.Records
import Resharing.Proofs.Operator.Map

/-!
# Operators and maps from them are read back

The names of a map's members are ids between quotes. They are written in ascending order, so
sorting what was read changes nothing.

## Main results

* `OperatorMap.faithful_format`: maps from operators are read back
* `Operator.faithful_format`, `KeyGeneration.faithful_format`: so are operators and what they keep
-/

namespace Resharing

open Json

variable {α : Type} {tail : Bytes}

theorem OperatorId.faithful_format : OperatorId.format.Faithful := by
  intro id
  apply (Format.readsBack_natural (Nat.le_refl _) id.toNat_lt).convert
  rw [UInt64.ofNat_toNat]

namespace OperatorMap

/-- An id between quotes is read back. The quote behind it ends the numeral. -/
theorem readId_quoted (id : OperatorId) (tail : Bytes) :
    readId (quoted id.text ++ tail) = .ok (id, tail) := by
  obtain ⟨first, rest, split, digit, -⟩ := numeral_eq_cons id.toNat
  have ends : Ends (quote :: tail) := ends_cons.mpr (by decide)
  have number : readNumber (first :: (rest ++ quote :: tail)) =
      .ok (.natural id.toNat, quote :: tail) := by
    rw [← List.cons_append, ← split]
    exact readNumber_numeral id.toNat_lt ends
  have written : quoted id.text ++ tail = quote :: first :: (rest ++ quote :: tail) := by
    rw [OperatorId.text, quoted_text, split]
    simp
  rw [written, readId]
  simp only [openName, if_true, digit, or_true, number, bind, Except.bind, pure, Except.pure,
    UInt64.ofNat_toNat]

/-- The member of an entry as a part of the record. -/
def part (inner : Format α) (entry : OperatorId × α) : Bytes :=
  Value.member (entry.1.text, inner.value entry.2)

theorem readEntries_parted {inner : Format α} (faithful : inner.Faithful)
    (entries : List (OperatorId × α)) (tail : Bytes) {fuel : Nat} (first : Bool)
    (enough : entries.length < fuel) :
    readEntries inner.read fuel first
        (parted first (entries.map (part inner)) ++ ascii '\x7d' :: tail) =
      .ok (entries, tail) := by
  obtain ⟨fuel, rfl⟩ : ∃ less, fuel = less + 1 := ⟨fuel - 1, by omega⟩
  induction entries generalizing fuel first with
  | nil =>
    rw [List.map_nil, parted_nil, List.nil_append, readEntries]
    simp only [nextPart_closed closes_record, expectSign_closed closes_record, bind, Except.bind,
      pure, Except.pure]
  | cons entry rest ih =>
    obtain ⟨id, a⟩ := entry
    obtain ⟨fuel, rfl⟩ : ∃ less, fuel = less + 1 :=
      ⟨fuel - 1, by rw [List.length_cons] at enough; omega⟩
    have next := nextPart_parted closes_record
      (Value.opening_member (id.text, inner.value a)) first (rest.map (part inner))
      (ascii '\x7d' :: tail)
    have named : Value.member (id.text, inner.value a) ++
        (parted false (rest.map (part inner)) ++ ascii '\x7d' :: tail) =
          quoted id.text ++ ascii ':' :: (inner.encode a ++
            (parted false (rest.map (part inner)) ++ ascii '\x7d' :: tail)) := by
      rw [Value.member, List.append_assoc]
      rfl
    have read := faithful a _ (ends_parted closes_record (rest.map (part inner)) tail)
    have later := ih false fuel (Nat.lt_of_succ_lt_succ enough)
    rw [named] at next
    rw [List.map_cons, part, readEntries]
    simp only [next, readId_quoted, expectSign_colon, read, later, bind, Except.bind, pure,
      Except.pure]

/-- A map is read back: its members are already in the order of its entries. -/
theorem faithful_format {inner : Format α} (faithful : inner.Faithful) :
    (OperatorMap.format inner).Faithful := by
  intro map tail _
  let members := map.entries.map fun entry => (entry.1.text, inner.value entry.2)
  have parts : members.map Value.member = map.entries.map (part inner) := List.map_map
  have written := Value.compact_record_append members tail
  have enough := Value.length_le_members members
  rw [parts] at written enough
  have encoded : (OperatorMap.format inner).encode map = (Value.record members).compact := rfl
  have solid : isSpace (ascii '\x7b') = false := by decide
  rw [encoded, written]
  simp only [OperatorMap.format, skipSpace_solid solid, if_true]
  -- Sorting what was read gives the map back, because it was written in order.
  rw [List.length_map] at enough
  rw [readEntries_parted faithful map.entries tail true (by rw [List.length_append]; omega)]
  simp only [Except.map, ofList_entries]

theorem mapM?_map {β : Type} {f : OperatorId → α → β} {g : β → Option α}
    (inverse : ∀ id a, g (f id a) = some a) (map : OperatorMap α) :
    (map.map f).mapM? g = some map := by
  have entries : ((map.map f).entries.mapM fun entry => (g entry.2).map fun a => (entry.1, a)) =
      some map.entries := by
    simp only [OperatorMap.map]
    induction map.entries with
    | nil => rfl
    | cons entry rest ih =>
      rw [List.map_cons, List.mapM_cons, ih, inverse]
      rfl
  simp only [mapM?, entries, bind, Option.bind, pure, ofList_entries]

end OperatorMap

theorem Operator.faithful_format : Operator.format.Faithful :=
  Format.faithful_record
    ⟨OperatorId.faithful_format, by decide,
      Format.faithful_text, by decide,
      Format.faithful_option Format.faithful_hex nofun, by decide, trivial⟩
    fun _ => rfl

-- A key without bytes is an empty text, which is not `null`.
example : Operator.format.encode ⟨7, "", some []⟩ ≠ Operator.format.encode ⟨7, "", none⟩ := by
  decide +kernel

namespace KeyGeneration

/-- Maps of keys are read back, each key from its text. -/
theorem faithful_keysFormat : keysFormat.Faithful := by
  intro keys
  apply (OperatorMap.faithful_format Format.faithful_text _).convert
  apply OperatorMap.mapM?_map
  intro id key
  rw [Hex.decode_encode]
  rfl

theorem faithful_format : KeyGeneration.format.Faithful :=
  Format.faithful_record
    ⟨Format.faithful_hex, by decide, faithful_keysFormat, by decide,
      Format.faithful_hex, by decide, OperatorId.faithful_format, by decide, trivial⟩
    fun _ => rfl

end KeyGeneration

end Resharing
