import Resharing.Proofs.Json.Faithful

/-!
# Records are read back

The members of a record are written in the order of its fields. Reading them one by one fills
the slots of the fields from the first on, so what is left to do is always a record of the later
fields, seen from the whole one.

## Main definitions

* `Json.Fields.Faithful`: fields with different names and faithful formats
* `Json.Fields.Within`: later fields, seen from the whole record

## Main results

* `Json.Fields.readMembers_parted`: the members are read back
* `Json.Fields.readMembers_unknown`: members that nobody asks for are passed over
* `Json.Format.faithful_record`: a record is read back
* `Json.Format.reads_single`: one field is read from a record with others
-/

namespace Resharing.Json

variable {α τ σ τ' σ' : Type} {tail : Bytes}

namespace Fields

/-- The names of the fields. -/
def names : {τ σ : Type} → Fields τ σ → List String
  | _, _, .done => []
  | _, _, .field name _ _ rest => name :: rest.names

/-- Whether fields have different names and read back their values. -/
def Faithful : {τ σ : Type} → Fields τ σ → Prop
  | _, _, .done => True
  | _, _, .field name format _ rest => format.Faithful ∧ name ∉ rest.names ∧ rest.Faithful

theorem length_members (fields : Fields τ σ) (values : τ) :
    (fields.members values).length = fields.names.length := by
  induction fields with
  | done => rfl
  | field name format absent rest ih => exact congrArg (· + 1) (ih values.2)

/-- Whether fields are the last ones of a record, the slots of the others being filled. Slots and
values of the record are given by those of the last fields. -/
structure Within (fields : Fields τ σ) (whole : Fields τ' σ') (slots : σ → σ')
    (values : τ → τ') : Prop where
  /-- A member of these fields is read into its slot. -/
  reader? : ∀ own key, key ∈ fields.names → whole.reader? (slots own) key =
    (fields.reader? own key).map fun found => found.map fun reader bytes =>
      (reader bytes).map fun (own, tail) => (slots own, tail)
  /-- Once these fields are complete, the record is. -/
  finish : ∀ own, whole.finish (slots own) = (fields.finish own).map values

theorem Within.refl (fields : Fields τ σ) :
    fields.Within fields (fun own => own) fun own => own where
  reader? own key _ := by
    have same : (fun (reader : Reader σ) bytes => (reader bytes).map fun (own, tail) =>
        (own, tail)) = fun reader => reader := by
      funext reader bytes
      cases reader bytes <;> simp only [Except.map]
    rw [same]
    rcases found : fields.reader? own key with _ | _ | _ <;> rfl
  finish own := by
    cases done : fields.finish own <;> rfl

variable {name : String} {format : Format α} {absent : Absent α} {rest : Fields τ σ}
  {whole : Fields τ' σ'}

/-- With the first of the last fields read, those after it are the last. -/
theorem Within.later {slots : Option α × σ → σ'} {values : α × τ → τ'}
    (within : (Fields.field name format absent rest).Within whole slots values)
    (fresh : name ∉ rest.names) (a : α) :
    rest.Within whole (fun own => slots (some a, own)) fun later => values (a, later) where
  reader? own key member := by
    -- Names differ, so a later member is never taken for the one already read.
    have other : key ≠ name := by
      rintro rfl
      exact fresh member
    rw [within.reader? (some a, own) key (List.mem_cons_of_mem _ member), Fields.reader?,
      if_neg other]
    cases rest.reader? own key with
    | none => rfl
    | some found =>
      cases found with
      | error fault => rfl
      | ok reader =>
        refine congrArg (some ∘ Except.ok) (funext fun bytes => ?_)
        simp only [bind, Except.bind, pure, Except.pure]
        cases reader bytes <;> rfl
  finish own := by
    rw [within.finish (some a, own), Fields.finish]
    simp only [Option.some_or, bind, Except.bind, pure, Except.pure]
    cases rest.finish own <;> rfl

/-- The next member in line is read by its own format. -/
theorem Within.reader?_first {slots : Option α × σ → σ'} {values : α × τ → τ'}
    (within : (Fields.field name format absent rest).Within whole slots values) (own : σ) :
    whole.reader? (slots (none, own)) name = some (.ok fun bytes =>
      (format.read bytes).map fun (a, tail) => (slots (some a, own), tail)) := by
  rw [within.reader? (none, own) name List.mem_cons_self, Fields.reader?, if_pos rfl]
  refine congrArg (some ∘ Except.ok) (funext fun bytes => ?_)
  simp only [bind, Except.bind, pure, Except.pure]
  cases format.read bytes <;> rfl

/-- What stands where the next member begins. -/
theorem nextPart_member (name : String) (value : Value) (parts : List Bytes) (first : Bool)
    (tail : Bytes) :
    nextPart '\x7d' first
        (parted first (Value.member (name, value) :: parts) ++ ascii '\x7d' :: tail) =
      .ok (some (quote :: ((Bytes.ofText name).flatMap escape ++ quote :: ascii ':' ::
        (value.compact ++ (parted false parts ++ ascii '\x7d' :: tail))))) := by
  have named : Value.member (name, value) ++ (parted false parts ++ ascii '\x7d' :: tail) =
      quote :: ((Bytes.ofText name).flatMap escape ++ quote :: ascii ':' ::
        (value.compact ++ (parted false parts ++ ascii '\x7d' :: tail))) := by
    rw [Value.member, List.append_assoc, quoted_append]
    rfl
  rw [← named]
  exact nextPart_parted closes_record (Value.opening_member (name, value)) first parts
    (ascii '\x7d' :: tail)

/-- A member is read by the reader that its name calls for. -/
theorem readMembers_member {own own' : σ'} {reader : Reader σ'} {value : Value}
    {parts : List Bytes} (found : whole.reader? own name = some (.ok reader))
    (read : reader (value.compact ++ (parted false parts ++ ascii '\x7d' :: tail)) =
      .ok (own', parted false parts ++ ascii '\x7d' :: tail)) (fuel : Nat) (first : Bool) :
    whole.readMembers (fuel + 1) own first
        (parted first (Value.member (name, value) :: parts) ++ ascii '\x7d' :: tail) =
      whole.readMembers fuel own' false (parted false parts ++ ascii '\x7d' :: tail) := by
  simp only [readMembers, nextPart_member, openName, if_true, readTextBody_escape, found,
    expectSign_colon, read, bind, Except.bind]

/-- A member that no field asks for is passed over. -/
theorem readMembers_unknown {own : σ'} (unknown : whole.reader? own name = none) (text : String)
    (parts : List Bytes) (tail : Bytes) (fuel : Nat) (first : Bool) :
    whole.readMembers (fuel + 1) own first
        (parted first (Value.member (name, .text text) :: parts) ++ ascii '\x7d' :: tail) =
      whole.readMembers fuel own false (parted false parts ++ ascii '\x7d' :: tail) := by
  have skipped (rest : Bytes) : skipValue ((Value.text text).compact ++ rest) = .ok rest :=
    skipValue_quoted text rest
  simp only [readMembers, nextPart_member, openName, if_true, readTextBody_escape, unknown,
    expectSign_colon, skipped, bind, Except.bind]

/-- A text as a member of a record. -/
def textMember (member : String × String) : String × Value := (member.1, .text member.2)

/-- So are several of them. -/
theorem readMembers_unknowns {own : σ'} {unknown : List (String × String)}
    (strange : ∀ member ∈ unknown, whole.reader? own member.1 = none) (parts : List Bytes)
    (tail : Bytes) (fuel : Nat) (first : Bool) :
    whole.readMembers (fuel + unknown.length) own first
        (parted first (unknown.map (Value.member ∘ textMember) ++ parts) ++ ascii '\x7d' :: tail) =
      whole.readMembers fuel own (first && unknown.isEmpty)
        (parted (first && unknown.isEmpty) parts ++ ascii '\x7d' :: tail) := by
  induction unknown generalizing first with
  | nil => simp
  | cons member rest ih =>
    obtain ⟨head, others⟩ := List.forall_mem_cons.mp strange
    have step := readMembers_unknown head member.2
      (rest.map (Value.member ∘ textMember) ++ parts) tail (fuel + rest.length) first
    refine step.trans ((ih others false).trans ?_)
    simp

/-- The members of the last fields are read back. The induction is on these fields: each member
that is read leaves a record of which fewer are missing. -/
theorem readMembers_parted {fields : Fields τ σ} {slots : σ → σ'} {values : τ → τ'}
    (within : fields.Within whole slots values) (faithful : fields.Faithful) (own : τ)
    (tail : Bytes) {fuel : Nat} (first : Bool) (enough : fields.names.length < fuel) :
    whole.readMembers fuel (slots fields.noSlots) first
        (parted first ((fields.members own).map Value.member) ++ ascii '\x7d' :: tail) =
      .ok (values own, tail) := by
  obtain ⟨fuel, rfl⟩ : ∃ less, fuel = less + 1 := ⟨fuel - 1, by omega⟩
  induction fields generalizing fuel first with
  | done =>
    have none : Fields.done.members own = [] := rfl
    have complete : whole.finish (slots Fields.done.noSlots) = .ok (values own) :=
      within.finish ()
    rw [none, List.map_nil, parted_nil, List.nil_append, readMembers]
    simp only [nextPart_closed closes_record, expectSign_closed closes_record, complete, bind,
      Except.bind, pure, Except.pure]
  | field name format absent rest ih =>
    obtain ⟨a, own⟩ := own
    obtain ⟨back, fresh, others⟩ := faithful
    obtain ⟨fuel, rfl⟩ : ∃ less, fuel = less + 1 :=
      ⟨fuel - 1, by simp only [names, List.length_cons] at enough; omega⟩
    have found := within.reader?_first rest.noSlots
    let following := parted false ((rest.members own).map Value.member) ++ ascii '\x7d' :: tail
    have read : ((format.read (format.encode a ++ following)).map fun (a, tail) =>
        (slots (some a, rest.noSlots), tail)) = .ok (slots (some a, rest.noSlots), following) := by
      rw [back a following (ends_parted closes_record _ tail)]
      rfl
    have step := readMembers_member found read (fuel + 1) first
    have remaining := ih (within.later fresh a) others own false fuel
      (Nat.lt_of_succ_lt_succ enough)
    exact step.trans remaining

end Fields

/-- A record of one field is read from any record with a member for it and with other texts. -/
theorem Format.reads_single {format : Format α} {name : String} {absent : Absent α} {β : Type}
    {values : β → α × Unit} {make : α × Unit → β} {value : Value} {a : α}
    {before after : List (String × String)} (reads : format.Reads value a)
    (others : ∀ member ∈ before ++ after, member.1 ≠ name) :
    (record (.field name format absent .done) values make).Reads
      (.record (before.map Fields.textMember ++ (name, value) :: after.map Fields.textMember))
      (make (a, ())) := by
  intro tail _
  let fields : Fields (α × Unit) (Option α × Unit) := .field name format absent .done
  let members := before.map Fields.textMember ++ (name, value) :: after.map Fields.textMember
  have strange (slot : Option α) (member : String × String) (among : member ∈ before ++ after) :
      fields.reader? (slot, ()) member.1 = none := by
    simp [fields, Fields.reader?, others member among]
  have parts : members.map Value.member = before.map (Value.member ∘ Fields.textMember) ++
      Value.member (name, value) :: after.map (Value.member ∘ Fields.textMember) := by
    simp [members]
  -- There are more bytes than members, so the fuel lasts.
  have many := Value.length_le_members members
  obtain ⟨fuel, enough⟩ : ∃ fuel, (parted true (members.map Value.member) ++
      ascii '\x7d' :: tail).length + 1 = fuel + 1 + after.length + 1 + before.length := by
    have size : members.length = after.length + 1 + before.length := by
      simp only [members, List.length_append, List.length_cons, List.length_map]
      omega
    rw [List.length_append, List.length_cons]
    exact ⟨(parted true (members.map Value.member)).length + tail.length + 1 - members.length,
      by omega⟩
  have found := (Fields.Within.refl fields).reader?_first ()
  have following := ends_parted closes_record
    (after.map (Value.member ∘ Fields.textMember)) tail
  have taken := reads _ following
  have first := Fields.readMembers_unknowns
    (fun member among => strange none member (List.mem_append_left _ among))
    (Value.member (name, value) :: after.map (Value.member ∘ Fields.textMember)) tail
    (fuel + 1 + after.length + 1) true
  have second := Fields.readMembers_member found (by rw [taken]; rfl) (fuel + 1 + after.length)
    (true && before.isEmpty)
  have third := Fields.readMembers_unknowns
    (fun member among => strange (some a) member (List.mem_append_right _ among)) [] tail
    (fuel + 1) false
  have last : fields.readMembers (fuel + 1) (some a, ()) false (ascii '\x7d' :: tail) =
      .ok ((a, ()), tail) := by
    simp only [Fields.readMembers, nextPart_closed closes_record, expectSign_closed closes_record,
      bind, Except.bind, pure, Except.pure]
    rfl
  rw [List.append_nil, parted_nil, List.nil_append] at third
  have whole := first.trans (second.trans (third.trans last))
  have solid : isSpace (ascii '\x7b') = false := by decide
  rw [Value.compact_record_append]
  simp only [record, skipSpace_solid solid, if_true]
  rw [enough, parts]
  exact congrArg _ whole

/-- A record is read back when its fields are and its parts make it again. -/
theorem Format.faithful_record {fields : Fields τ σ} {values : α → τ} {make : τ → α}
    (faithful : fields.Faithful) (same : ∀ a, make (values a) = a) :
    (record fields values make).Faithful := by
  intro a tail _
  have enough := Value.length_le_members (fields.members (values a))
  rw [Fields.length_members] at enough
  have encoded : (record fields values make).encode a =
      (Value.record (fields.members (values a))).compact := rfl
  have solid : isSpace (ascii '\x7b') = false := by decide
  rw [encoded, Value.compact_record_append]
  simp only [record, skipSpace_solid solid, if_true]
  rw [Fields.readMembers_parted (Fields.Within.refl fields) faithful (values a) tail true
    (by rw [List.length_append]; omega)]
  simp only [Except.map, same]

end Resharing.Json
