import Resharing.Proofs.Http.Address

/-!
# Names as segments of a path

A name that is put into a path as it is may mean something there: a slash or a backslash starts
another segment, a question mark or a number sign ends the path, a percent sign with two digits is
another byte, dots are a step and no name, and breaks are dropped. A legible name has none of
this. It becomes one segment, and decoding that gives the name again. Of any other name less is
left, whatever segments it becomes.

## Main definitions

* `Http.Url.Legible`, `Http.Url.isLegible`: a name that is read as it is written, and the check

## Main results

* `Percent.decode_encode`: escaping what may not stand in a path loses nothing
* `Http.Url.ofText?_of_legible`: an address with a path of legible names is read as it is written
* `Http.Url.legible_of_decode`: what is left of any other name says something else
* `Http.Target.ofBytes_target`: what is asked for at an address is read as it was sent
-/

namespace Resharing

namespace Percent

variable {passes : UInt8 → Bool} {byte high low h l : UInt8} {bytes rest : Bytes}

/-- Bytes that begin with two digits. -/
def Numbered (bytes : Bytes) : Prop :=
  ∃ high low rest h l, bytes = high :: low :: rest ∧ Hex.value? high = some h ∧
    Hex.value? low = some l

theorem decode_sign_of_numbered (first : Hex.value? high = some h)
    (second : Hex.value? low = some l) :
    decode (sign :: high :: low :: rest) = (h <<< 4 ||| l) :: decode rest := by
  rw [decode, if_pos rfl]
  simp only [first, second]

/-- A percent sign without two digits stands for itself. -/
theorem decode_sign_of_bare (bare : ¬ Numbered bytes) :
    decode (sign :: bytes) = sign :: decode bytes := by
  rw [decode.eq_def]
  match bytes, bare with
  | [], _ => exact if_pos rfl
  | [byte], _ => exact if_pos rfl
  | high :: low :: rest, bare =>
    refine (if_pos rfl).trans ?_
    cases first : Hex.value? high with
    | none => simp only [first]
    | some h =>
      cases second : Hex.value? low with
      | none => simp only [first, second]
      | some l => exact absurd ⟨high, low, rest, h, l, rfl, first, second⟩ bare

/-- Bytes are decoded one by one, or three at a time. -/
@[elab_as_elim]
theorem decoding {motive : Bytes → Prop} (nil : motive [])
    (plain : ∀ byte rest, byte ≠ sign → motive rest → motive (byte :: rest))
    (bare : ∀ rest, ¬ Numbered rest → motive rest → motive (sign :: rest))
    (number : ∀ high low rest h l, Hex.value? high = some h → Hex.value? low = some l →
      motive rest → motive (sign :: high :: low :: rest))
    (bytes : Bytes) : motive bytes := by
  induction size : bytes.length using Nat.strong_induction_on generalizing bytes with
  | _ size ih =>
    subst size
    match bytes, ih with
    | [], _ => exact nil
    | byte :: rest, ih =>
      have later := ih rest.length (Nat.lt_succ_self _) rest rfl
      by_cases signed : byte = sign
      · subst signed
        by_cases numbered : Numbered rest
        · obtain ⟨high, low, tail, h, l, rfl, first, second⟩ := numbered
          refine number high low tail h l first second (ih tail.length ?_ tail rfl)
          simp only [List.length_cons]
          omega
        · exact bare rest numbered later
      · exact plain byte rest signed later

theorem decode_of_not_mem (absent : sign ∉ bytes) : decode bytes = bytes := by
  induction bytes with
  | nil => rw [decode]
  | cons byte rest ih =>
    rw [List.mem_cons, not_or] at absent
    rw [decode_cons_of_ne (Ne.symm absent.1), ih absent.2]

theorem length_decode_le (bytes : Bytes) : (decode bytes).length ≤ bytes.length := by
  induction bytes using decoding with
  | nil => rw [decode]
  | plain byte rest other ih =>
    rw [decode_cons_of_ne other]
    exact Nat.succ_le_succ ih
  | bare rest bare ih =>
    rw [decode_sign_of_bare bare]
    exact Nat.succ_le_succ ih
  | number high low rest h l first second ih =>
    rw [decode_sign_of_numbered first second]
    simp only [List.length_cons]
    omega

theorem encode_cons_of_passes (passing : passes byte = true) :
    encode passes (byte :: rest) = byte :: encode passes rest := by
  simp [encode, passing]

theorem encode_cons_of_not_passes (escaped : passes byte = false) :
    encode passes (byte :: rest) = escape byte ++ encode passes rest := by
  simp [encode, escaped]

/-- Nothing is escaped where everything passes. -/
theorem encode_of_passes (passing : ∀ byte ∈ bytes, passes byte = true) :
    encode passes bytes = bytes := by
  induction bytes with
  | nil => rfl
  | cons byte rest ih =>
    obtain ⟨first, later⟩ := List.forall_mem_cons.mp passing
    rw [encode_cons_of_passes first, ih later]

/-- Escapes begin with no digit, so digits are there only where they have been. -/
theorem numbered_of_encode (numbered : Numbered (encode passes bytes)) : Numbered bytes := by
  obtain ⟨high, low, rest, h, l, written, first, second⟩ := numbered
  have unsigned {other : UInt8} {n : UInt8} (digit : Hex.value? other = some n) :
      other ≠ sign := by
    rintro rfl
    exact Option.some_ne_none n (digit.symm.trans (by decide))
  -- A digit at the head of what is escaped is no escape, so it was there before.
  have stays {bytes rest : Bytes} {digit n : UInt8} (value : Hex.value? digit = some n)
      (written : encode passes bytes = digit :: rest) :
      ∃ tail, bytes = digit :: tail ∧ encode passes tail = rest := by
    cases bytes with
    | nil => cases written
    | cons byte tail =>
      cases passing : passes byte with
      | true =>
        rw [encode_cons_of_passes passing] at written
        obtain ⟨rfl, same⟩ := List.cons.inj written
        exact ⟨tail, rfl, same⟩
      | false =>
        rw [encode_cons_of_not_passes passing] at written
        exact absurd (List.cons.inj written).1.symm (unsigned value)
  obtain ⟨tail, rfl, later⟩ := stays first written
  obtain ⟨tail, rfl, -⟩ := stays second later
  exact ⟨high, low, tail, h, l, rfl, first, second⟩

/-- Escaping loses nothing where percent signs and digits stand for themselves. -/
theorem decode_encode (signs : passes sign = true)
    (digits : ∀ digit n, Hex.value? digit = some n → passes digit = true) (bytes : Bytes) :
    decode (encode passes bytes) = decode bytes := by
  induction bytes using decoding with
  | nil => rfl
  | plain byte rest other ih =>
    cases passing : passes byte with
    | true =>
      rw [encode_cons_of_passes passing, decode_cons_of_ne other, decode_cons_of_ne other, ih]
    | false =>
      rw [encode_cons_of_not_passes passing, decode_escape, decode_cons_of_ne other, ih]
  | bare rest bare ih =>
    rw [encode_cons_of_passes signs, decode_sign_of_bare bare,
      decode_sign_of_bare fun numbered => bare (numbered_of_encode numbered), ih]
  | number high low rest h l first second ih =>
    rw [encode_cons_of_passes signs, encode_cons_of_passes (digits high h first),
      encode_cons_of_passes (digits low l second), decode_sign_of_numbered first second,
      decode_sign_of_numbered first second, ih]

end Percent

namespace Form

variable {separator : UInt8} {bytes left rest piece : Bytes}

/-- The first piece ends at the first separator. -/
theorem pieces_append (absent : separator ∉ left) (rest : Bytes) :
    pieces separator (left ++ separator :: rest) = left :: pieces separator rest := by
  induction left with
  | nil => simp [pieces]
  | cons byte more ih =>
    rw [List.mem_cons, not_or] at absent
    rw [List.cons_append, pieces, if_neg (Ne.symm absent.1), ih absent.2]

/-- Pieces without a separator are found again where they are put together. -/
theorem pieces_flatMap {first : Bytes} {later : List Bytes} (absent : separator ∉ first)
    (others : ∀ piece ∈ later, separator ∉ piece) :
    pieces separator (first ++ later.flatMap (separator :: ·)) = first :: later := by
  induction later generalizing first with
  | nil => rw [List.flatMap_nil, List.append_nil, pieces_of_not_mem absent]
  | cons next later ih =>
    obtain ⟨own, others⟩ := List.forall_mem_cons.mp others
    rw [List.flatMap_cons, List.cons_append, pieces_append absent, ih own others]

/-- Pieces are parts of the bytes and have no separator. The first one is at the front. -/
theorem pieces_eq_cons (separator : UInt8) (bytes : Bytes) : ∃ first later,
    pieces separator bytes = first :: later ∧ first <+: bytes ∧
      ∀ piece ∈ first :: later, piece <:+: bytes ∧ separator ∉ piece := by
  induction bytes with
  | nil => exact ⟨[], [], rfl, List.prefix_rfl, by simp⟩
  | cons byte rest ih =>
    obtain ⟨first, later, split, front, parts⟩ := ih
    by_cases same : byte = separator
    · refine ⟨[], first :: later, by rw [pieces, if_pos same, split], List.nil_prefix, ?_⟩
      refine List.forall_mem_cons.mpr ⟨⟨List.nil_infix, by simp⟩, fun piece member => ?_⟩
      obtain ⟨part, absent⟩ := parts piece member
      exact ⟨part.trans (List.suffix_cons byte rest).isInfix, absent⟩
    · have longer : byte :: first <+: byte :: rest := List.cons_prefix_cons.mpr ⟨rfl, front⟩
      obtain ⟨⟨-, absent⟩, others⟩ := List.forall_mem_cons.mp parts
      refine ⟨byte :: first, later, by rw [pieces, if_neg same, split], longer, ?_⟩
      refine List.forall_mem_cons.mpr ⟨⟨longer.isInfix, ?_⟩, fun piece member => ?_⟩
      · rw [List.mem_cons, not_or]
        exact ⟨Ne.symm same, absent⟩
      · obtain ⟨part, absent⟩ := others piece member
        exact ⟨part.trans (List.suffix_cons byte rest).isInfix, absent⟩

theorem pieces_ne_nil (separator : UInt8) (bytes : Bytes) : pieces separator bytes ≠ [] := by
  obtain ⟨first, later, split, -⟩ := pieces_eq_cons separator bytes
  rw [split]
  exact List.cons_ne_nil _ _

theorem infix_of_mem_pieces (member : piece ∈ pieces separator bytes) :
    piece <:+: bytes ∧ separator ∉ piece := by
  obtain ⟨first, later, split, -, parts⟩ := pieces_eq_cons separator bytes
  exact parts piece (split ▸ member)

end Form

namespace Http.Url

variable {bytes name segment front : Bytes} {done steps : List Bytes}

/-! ### Steps -/

theorem dots_cons {byte : UInt8} {rest : Bytes}
    (other : ∀ third tail, rest = ascii '2' :: third :: tail →
      byte = ascii '%' → third ≠ ascii 'e' ∧ third ≠ ascii 'E') :
    dots (byte :: rest) = byte :: dots rest := by
  match rest, other with
  | [], _ | [_], _ => rfl
  | second :: third :: tail, other =>
    rw [dots, if_neg]
    rintro ⟨same, rfl, letter⟩
    obtain ⟨small, large⟩ := other third tail rfl same
    exact letter.elim small large

/-- Where nothing is an escape, no dot is escaped. -/
theorem dots_of_decode (literal : Percent.decode bytes = bytes) : dots bytes = bytes := by
  induction bytes using Percent.decoding with
  | nil => rfl
  | plain byte rest other ih =>
    rw [Percent.decode_cons_of_ne other] at literal
    rw [dots_cons fun _ _ _ same => absurd same other, ih (List.cons.inj literal).2]
  | bare rest bare ih =>
    rw [Percent.decode_sign_of_bare bare] at literal
    rw [dots_cons, ih (List.cons.inj literal).2]
    rintro third tail rfl -
    constructor <;> rintro rfl <;> exact bare ⟨_, _, _, _, _, rfl, rfl, rfl⟩
  | number high low rest h l first second ih =>
    rw [Percent.decode_sign_of_numbered first second] at literal
    have shorter := Percent.length_decode_le rest
    have size := congrArg List.length literal
    simp only [List.length_cons] at size
    omega

/-- A step that goes somewhere. -/
def Forward (step : Bytes) : Prop := goesBack step = false ∧ staysPut step = false

theorem walk_of_forward (forward : ∀ step ∈ steps, Forward step) :
    walk done steps = done.reverse ++ steps.map (Percent.encode passesPath) := by
  induction steps generalizing done with
  | nil => simp [walk]
  | cons step rest ih =>
    obtain ⟨⟨ahead, away⟩, others⟩ := List.forall_mem_cons.mp forward
    rw [walk, ahead, away]
    simp [ih others]

theorem mem_of_mem_leave (member : segment ∈ leave done) : segment ∈ done := by
  cases done with
  | nil => exact member
  | cons last done =>
    rw [leave] at member
    split_ifs at member
    · exact member
    · exact List.mem_cons_of_mem _ member

/-- A segment that is not empty is an escaped step forward. -/
theorem mem_walk (member : segment ∈ walk done steps) : segment ∈ done ∨ segment = [] ∨
    ∃ step ∈ steps, Forward step ∧ segment = Percent.encode passesPath step := by
  induction steps generalizing done with
  | nil => exact .inl (List.mem_reverse.mp member)
  | cons step rest ih =>
    have later {done : List Bytes} (member : segment ∈ walk done rest) :
        segment ∈ done ∨ segment = [] ∨
          ∃ step' ∈ step :: rest, Forward step' ∧ segment = Percent.encode passesPath step' := by
      obtain before | empty | ⟨other, inside, ahead, same⟩ := ih member
      · exact .inl before
      · exact .inr (.inl empty)
      · exact .inr (.inr ⟨other, List.mem_cons_of_mem _ inside, ahead, same⟩)
    rw [walk] at member
    split_ifs at member with back last stay last
    · rw [List.mem_reverse, List.mem_cons] at member
      exact member.elim (.inr ∘ .inl) fun before => .inl (mem_of_mem_leave before)
    · exact (later member).imp_left mem_of_mem_leave
    · rw [List.mem_reverse, List.mem_cons] at member
      exact member.elim (.inr ∘ .inl) .inl
    · exact later member
    · obtain before | rest := later member
      · rcases List.mem_cons.mp before with rfl | before
        · exact .inr (.inr ⟨step, List.mem_cons_self, ⟨by simpa using back, by simpa using stay⟩,
            rfl⟩)
        · exact .inl before
      · exact .inr rest

theorem walk_ne_nil (some : done ≠ [] ∨ steps ≠ []) : walk done steps ≠ [] := by
  induction steps generalizing done with
  | nil => simpa [walk] using some
  | cons step rest ih =>
    rw [walk]
    split_ifs with back last stay last
    · simp
    · exact ih (.inr last)
    · simp
    · exact ih (.inr last)
    · exact ih (.inl (List.cons_ne_nil _ _))

/-! ### Segments -/

/-- A slash for each backslash. -/
def straight (byte : UInt8) : UInt8 := if isSlash byte then ascii '/' else byte

theorem segmentsOf_slash (rest : Bytes) : segmentsOf (ascii '/' :: rest) =
    walk [] (Form.pieces (ascii '/') (rest.map straight)) := rfl

theorem segmentsOf_ne_nil (path : Bytes) : segmentsOf path ≠ [] :=
  walk_ne_nil (.inr (Form.pieces_ne_nil _ _))

theorem straight_of_solid {byte : UInt8} (solid : isSlash byte = false) : straight byte = byte := by
  simp [straight, solid]

theorem straight_ne_slash {byte : UInt8} (other : straight byte ≠ ascii '/') :
    isSlash byte = false := by
  by_contra slash
  exact other (if_pos (by simpa using slash))

/-- A name that makes one segment: nothing in it means something in a path. -/
structure Plain (name : Bytes) : Prop where
  solid : ∀ byte ∈ name, isSlash byte = false
  forward : Forward name

theorem Plain.not_mem (plain : Plain name) : ascii '/' ∉ name := by
  intro inside
  exact absurd (plain.solid _ inside) (by decide)

/-- A path of plain names has each of them as a segment. -/
theorem segmentsOf_names {first : Bytes} {names : List Bytes}
    (plain : ∀ name ∈ first :: names, Plain name) :
    segmentsOf ((first :: names).flatMap (ascii '/' :: ·)) =
      (first :: names).map (Percent.encode passesPath) := by
  obtain ⟨head, others⟩ := List.forall_mem_cons.mp plain
  have kept : ∀ byte ∈ first ++ names.flatMap (ascii '/' :: ·), straight byte = byte := by
    intro byte member
    rcases List.mem_append.mp member with inside | later
    · exact straight_of_solid (head.solid byte inside)
    · obtain ⟨name, among, inside⟩ := List.mem_flatMap.mp later
      rcases List.mem_cons.mp inside with rfl | inside
      · decide
      · exact straight_of_solid ((others name among).solid byte inside)
  rw [List.flatMap_cons, List.cons_append, segmentsOf_slash,
    (List.map_congr_left kept).trans (List.map_id _),
    Form.pieces_flatMap head.not_mem fun name among => (others name among).not_mem,
    walk_of_forward fun name among => (plain name among).forward]
  rfl

/-! ### Legible names -/

/-- A name that is read as it is written when it is put into a path. -/
structure Legible (name : Bytes) : Prop where
  filled : name ≠ []
  /-- No byte separates segments, ends the path or is dropped. -/
  plain : ∀ byte ∈ name, isSlash byte = false ∧ endsPath byte = false ∧ isBreak byte = false
  /-- No percent sign has two digits behind it. -/
  literal : Percent.decode name = name
  /-- It is no step of a path. -/
  named : name ≠ [ascii '.'] ∧ name ≠ [ascii '.', ascii '.']
  /-- Nothing is dropped from its end. -/
  ended : ∀ last ∈ name.getLast?, isMargin last = false

/-- Checks a name. -/
def isLegible (name : Bytes) : Bool :=
  !name.isEmpty && name.all (fun byte => !isSlash byte && !endsPath byte && !isBreak byte) &&
    Percent.decode name == name && name != [ascii '.'] && name != [ascii '.', ascii '.'] &&
    name.getLast?.all fun last => !isMargin last

theorem isLegible_iff : isLegible name = true ↔ Legible name := by
  simp only [isLegible, Bool.and_eq_true, Bool.not_eq_true', List.all_eq_true, beq_iff_eq,
    bne_iff_ne, List.isEmpty_eq_false_iff, Option.all_eq_true]
  constructor
  · rintro ⟨⟨⟨⟨⟨filled, plain⟩, literal⟩, step⟩, back⟩, ended⟩
    exact ⟨filled, fun byte member => and_assoc.mp (plain byte member), literal, ⟨step, back⟩,
      ended⟩
  · rintro ⟨filled, plain, literal, ⟨step, back⟩, ended⟩
    exact ⟨⟨⟨⟨⟨filled, fun byte member => and_assoc.mpr (plain byte member)⟩, literal⟩, step⟩,
      back⟩, ended⟩

theorem forward_iff (literal : Percent.decode name = name) :
    Forward name ↔ name ≠ [ascii '.'] ∧ name ≠ [ascii '.', ascii '.'] := by
  rw [Forward, goesBack, staysPut, dots_of_decode literal, beq_eq_false_iff_ne,
    beq_eq_false_iff_ne, and_comm]

theorem Legible.toPlain (legible : Legible name) : Plain name :=
  ⟨fun byte member => (legible.plain byte member).1,
    (forward_iff legible.literal).mpr legible.named⟩

private theorem alphanumeric_facts : ∀ n < 256, let byte := UInt8.ofNat n
    Form.isAlphanumeric byte = true → isSlash byte = false ∧ endsPath byte = false ∧
      isBreak byte = false ∧ isMargin byte = false ∧ byte ≠ Percent.sign ∧ byte ≠ ascii '.' := by
  decide +kernel

/-- Words of letters and digits are legible. -/
theorem legible_of_alphanumeric (filled : name ≠ [])
    (letters : ∀ byte ∈ name, Form.isAlphanumeric byte = true) : Legible name := by
  have facts (byte : UInt8) (member : byte ∈ name) := alphanumeric_facts byte.toNat byte.toNat_lt
  simp only [UInt8.ofNat_toNat] at facts
  have undotted : ascii '.' ∉ name := fun member =>
    absurd rfl (facts _ member (letters _ member)).2.2.2.2.2
  refine ⟨filled, fun byte member => ?_, ?_, ⟨?_, ?_⟩, fun last ends => ?_⟩
  · obtain ⟨solid, unended, unbroken, -⟩ := facts byte member (letters byte member)
    exact ⟨solid, unended, unbroken⟩
  · exact Percent.decode_of_not_mem fun member =>
      absurd rfl (facts _ member (letters _ member)).2.2.2.2.1
  · rintro rfl
    exact undotted List.mem_cons_self
  · rintro rfl
    exact undotted List.mem_cons_self
  · have member := List.mem_of_getLast? ends
    exact (facts last member (letters last member)).2.2.2.1

/-- Words of letters and digits stand in a path as they are. -/
theorem encode_path_of_alphanumeric (letters : ∀ byte ∈ name, Form.isAlphanumeric byte = true) :
    Percent.encode passesPath name = name := by
  have facts : ∀ n < 256, Form.isAlphanumeric (UInt8.ofNat n) = true →
      passesPath (UInt8.ofNat n) = true := by
    decide +kernel
  apply Percent.encode_of_passes
  intro byte member
  have passing := facts byte.toNat byte.toNat_lt
  rw [UInt8.ofNat_toNat] at passing
  exact passing (letters byte member)

/-- Percent signs and digits stand for themselves in a path. -/
theorem decode_encode_path (bytes : Bytes) :
    Percent.decode (Percent.encode passesPath bytes) = Percent.decode bytes := by
  have facts : ∀ n < 256, (Hex.value? (UInt8.ofNat n)).isSome = true →
      passesPath (UInt8.ofNat n) = true := by
    decide +kernel
  refine Percent.decode_encode (by decide) (fun digit n value => ?_) bytes
  have passing := facts digit.toNat digit.toNat_lt
  rw [UInt8.ofNat_toNat, value] at passing
  exact passing rfl

/-- The address of a path of names at an authority. -/
def naming (scheme authority : String) (names : List Bytes) : Url :=
  ⟨scheme, authority, names.map (Percent.encode passesPath), none⟩

/-- An address with a path of legible names is read as it is written. -/
theorem ofText?_of_legible {scheme host authority path : String} {first : Bytes}
    {names : List Bytes} (known : scheme ∈ schemes) (hosted : Host host authority)
    (written : Bytes.ofText path = (first :: names).flatMap (ascii '/' :: ·))
    (legible : ∀ name ∈ first :: names, Legible name) :
    ofText? (scheme ++ "://" ++ host ++ path) =
      some (naming scheme authority (first :: names)) := by
  have plain : ∀ byte ∈ Bytes.ofText path, endsPath byte = false ∧ isBreak byte = false := by
    intro byte member
    obtain ⟨name, among, inside⟩ := List.mem_flatMap.mp (written ▸ member)
    rcases List.mem_cons.mp inside with rfl | inside
    · decide
    · exact ((legible name among).plain byte inside).2
  have ended : ∀ last ∈ (Bytes.ofText path).getLast?, isMargin last = false := by
    obtain ⟨before, final, split⟩ :=
      (List.eq_nil_or_concat _).resolve_left (List.cons_ne_nil first names)
    rw [List.concat_eq_append] at split
    have among : final ∈ first :: names := by simp [split]
    obtain ⟨byte, rest, filled⟩ := List.exists_cons_of_ne_nil (legible final among).filled
    rw [written, split, List.flatMap_append, List.flatMap_singleton, filled]
    intro last ends
    refine (legible final among).ended last ?_
    rw [filled]
    simpa [List.getLast?_append] using ends
  have kept : ∀ byte ∈ Bytes.ofText path, (!endsPath byte) = true :=
    fun byte member => by simp [plain byte member]
  have slashed : (Bytes.ofText path).head? = some (ascii '/') := by rw [written]; rfl
  rw [ofText?_of_slashed known hosted slashed,
    cleaned_eq_self_iff.mpr ⟨fun byte member => (plain byte member).2, ended⟩, queryBehind,
    List.takeWhile_eq_self_iff.mpr kept, List.dropWhile_eq_nil_iff.mpr kept, written,
    segmentsOf_names fun name among => (legible name among).toPlain, naming]

/-- What is left of a name behind a word and a slash, as the rest of a path. -/
def remains (name : Bytes) : Bytes := (cleaned name).takeWhile fun byte => !endsPath byte

theorem path_of_name (legible : Legible front) (name : Bytes) :
    (cleaned (ascii '/' :: front ++ ascii '/' :: name)).takeWhile (fun byte => !endsPath byte) =
      ascii '/' :: front ++ ascii '/' :: remains name := by
  have plain : ∀ byte ∈ ascii '/' :: front, endsPath byte = false ∧ isBreak byte = false :=
    List.forall_mem_cons.mpr ⟨by decide, fun byte member => (legible.plain byte member).2⟩
  have unbroken : (ascii '/' :: front).filter (fun byte => !isBreak byte) = ascii '/' :: front :=
    List.filter_eq_self.mpr fun byte member => by simp [plain byte member]
  rw [cleaned_append, unbroken, List.takeWhile_append_of_pos,
    List.takeWhile_cons_of_pos (by decide)]
  · rfl
  · exact fun byte member => by simp [plain byte member]

/-- What is left of a legible name is the whole name, and of any other one less or something that
says something else. -/
theorem legible_of_piece {piece : Bytes}
    (inside : piece ∈ Form.pieces (ascii '/') ((remains name).map straight))
    (filled : piece ≠ []) (forward : Forward piece) (decoded : Percent.decode piece = name) :
    Legible name := by
  obtain ⟨part, unslashed⟩ := Form.infix_of_mem_pieces inside
  -- Nothing on the way from the name to the piece, and back to what it says, makes more of it.
  have less := (List.takeWhile_prefix (fun byte => !endsPath byte) (l := cleaned name)).length_le
  have fewer := (cleaned_sublist name).length_le
  have small := part.length_le
  have read := Percent.length_decode_le piece
  rw [decoded] at read
  rw [List.length_map, remains] at small
  have clean : cleaned name = name := (cleaned_sublist name).eq_of_length (by omega)
  have unended : remains name = name :=
    ((List.takeWhile_prefix _).eq_of_length (by omega)).trans clean
  rw [unended] at part
  have turned : piece = name.map straight :=
    part.eq_of_length (by rw [List.length_map]; omega)
  have solid : ∀ byte ∈ name, isSlash byte = false := fun byte member =>
    straight_ne_slash fun slash => unslashed (turned ▸ slash ▸ List.mem_map_of_mem member)
  have same : piece = name := turned.trans
    ((List.map_congr_left fun byte member => straight_of_solid (solid byte member)).trans
      (List.map_id _))
  rw [same] at filled forward decoded
  obtain ⟨unbroken, ended⟩ := cleaned_eq_self_iff.mp clean
  refine ⟨filled, fun byte member => ⟨solid byte member, ?_, unbroken byte member⟩, decoded,
    (forward_iff decoded).mp forward, ended⟩
  have stays := List.mem_takeWhile_imp (p := fun byte => !endsPath byte) (unended.symm ▸ member)
  simpa using stays

/-- If decoding a segment gives the name, the name is legible: otherwise something has been taken
away from it. -/
theorem legible_of_decode (legible : Legible front)
    (inside : segment ∈ segmentsOf (ascii '/' :: front ++ ascii '/' :: remains name))
    (filled : segment ≠ []) (decoded : Percent.decode segment = name) : Legible name := by
  have steps : (front ++ ascii '/' :: remains name).map straight =
      front ++ ascii '/' :: (remains name).map straight := by
    have kept := List.map_congr_left fun byte member =>
      straight_of_solid (legible.toPlain.solid byte member)
    rw [List.map_append, kept]
    simp [straight]
  rw [List.cons_append, segmentsOf_slash, steps, Form.pieces_append legible.toPlain.not_mem]
    at inside
  obtain ⟨⟨⟩⟩ | empty | ⟨piece, among, forward, rfl⟩ := mem_walk inside
  · exact absurd empty filled
  rw [decode_encode_path] at decoded
  rcases List.mem_cons.mp among with rfl | among
  · rw [← decoded, legible.literal]
    exact legible
  · refine legible_of_piece among (fun empty => filled ?_) forward decoded
    rw [empty]
    rfl

/-! ### What is sent is what is read -/

theorem length_target_le (url : Url) : url.target.length ≤ url.length := Nat.le_add_left _ _

/-- The segments of an address are those of some path, and its query has been escaped. -/
theorem ofText?_facts {text : String} {url : Url} (read : ofText? text = some url) :
    (∃ path, url.segments = segmentsOf path) ∧
      ∀ query ∈ url.query, ∃ asked, query = Percent.encode passesQuery asked := by
  unfold ofText? at read
  simp only [Option.bind_eq_bind, Option.bind_eq_some_iff] at read
  obtain ⟨authority, -, read⟩ := read
  split_ifs at read
  obtain rfl := Option.some.inj read
  refine ⟨⟨_, rfl⟩, fun query there => ?_⟩
  simp only [Option.mem_def] at there
  split at there
  · split_ifs at there
    exact ⟨_, (Option.some.inj there).symm⟩
  · cases there

end Http.Url

namespace Percent

/-- What escaped bytes are made of. -/
theorem mem_encode (member : byte ∈ encode passes bytes) :
    (byte ∈ bytes ∧ passes byte = true) ∨ byte = sign ∨ ∃ n < 16, byte = digit (UInt8.ofNat n) := by
  obtain ⟨source, inside, written⟩ := List.mem_flatMap.mp member
  split_ifs at written with passing
  · obtain rfl := List.mem_singleton.mp written
    exact .inl ⟨inside, passing⟩
  · simp only [escape, List.mem_cons, List.not_mem_nil, or_false] at written
    rcases written with rfl | rfl | rfl
    · exact .inr (.inl rfl)
    · exact .inr (.inr ⟨_, Hex.high_lt source, by rw [UInt8.ofNat_toNat]⟩)
    · exact .inr (.inr ⟨_, Hex.low_lt source, by rw [UInt8.ofNat_toNat]⟩)

end Percent

namespace Http.Target

variable {bytes path segment : Bytes}

private theorem passing_facts : ∀ n < 256, let byte := UInt8.ofNat n
    (Url.passesPath byte = true → isCalm byte = true) ∧
      (Url.passesQuery byte = true → isQuiet byte = true) := by
  decide +kernel

private theorem escape_facts : ∀ n < 16, isCalm (Percent.digit (UInt8.ofNat n)) = true ∧
    Percent.digit (UInt8.ofNat n) ≠ '/'.toUInt8 := by
  decide

theorem isCalm_encode : ∀ byte ∈ Percent.encode Url.passesPath bytes, isCalm byte = true := by
  intro byte member
  obtain ⟨-, passing⟩ | rfl | ⟨n, small, rfl⟩ := Percent.mem_encode member
  · have facts := (passing_facts byte.toNat byte.toNat_lt).1
    rw [UInt8.ofNat_toNat] at facts
    exact facts passing
  · decide
  · exact (escape_facts n small).1

theorem isQuiet_encode : ∀ byte ∈ Percent.encode Url.passesQuery bytes, isQuiet byte = true := by
  intro byte member
  obtain ⟨-, passing⟩ | rfl | ⟨n, small, rfl⟩ := Percent.mem_encode member
  · have facts := (passing_facts byte.toNat byte.toNat_lt).2
    rw [UInt8.ofNat_toNat] at facts
    exact facts passing
  · decide
  · exact isQuiet_of_isCalm (escape_facts n small).1

theorem slash_not_mem_encode (absent : '/'.toUInt8 ∉ bytes) :
    '/'.toUInt8 ∉ Percent.encode Url.passesPath bytes := by
  intro member
  obtain ⟨inside, -⟩ | same | ⟨n, small, same⟩ := Percent.mem_encode member
  · exact absent inside
  · exact absurd same (by decide)
  · exact (escape_facts n small).2 same.symm

/-- The bytes of segments are calm, and none is a slash. -/
theorem calm_segmentsOf (member : segment ∈ Url.segmentsOf path) :
    '/'.toUInt8 ∉ segment ∧ ∀ byte ∈ segment, isCalm byte = true := by
  obtain ⟨⟨⟩⟩ | rfl | ⟨step, among, -, rfl⟩ := Url.mem_walk member
  · exact ⟨List.not_mem_nil, by simp⟩
  · exact ⟨slash_not_mem_encode (Form.infix_of_mem_pieces among).2, isCalm_encode⟩

/-- What is sent for an address is read as its segments and its query. -/
theorem ofBytes_target {text : String} {url : Url} (read : Url.ofText? text = some url)
    (short : url.target.length ≤ maxLength) :
    ofBytes url.target = .ok ⟨url.segments, url.query.getD []⟩ := by
  obtain ⟨⟨path, segments⟩, asked⟩ := Url.ofText?_facts read
  obtain ⟨first, later, split⟩ := List.exists_cons_of_ne_nil (Url.segmentsOf_ne_nil path)
  have calm : ∀ segment ∈ first :: later,
      '/'.toUInt8 ∉ segment ∧ ∀ byte ∈ segment, isCalm byte = true :=
    fun segment among => @calm_segmentsOf path segment (split ▸ among)
  obtain ⟨head, others⟩ := List.forall_mem_cons.mp calm
  have target : url.target = '/'.toUInt8 :: (first ++ later.flatMap ('/'.toUInt8 :: ·)) ++
      behind url.query := by
    rw [Url.target, segments, split, List.flatMap_cons]
    cases url.query <;> rfl
  have quiet : ∀ query ∈ url.query, ∀ byte ∈ query, isQuiet byte = true := by
    intro query there
    obtain ⟨source, rfl⟩ := asked query there
    exact isQuiet_encode
  rw [target] at short ⊢
  rw [ofBytes_parts short ?_ quiet, Form.pieces_flatMap head.1 fun piece among =>
    (others piece among).1, segments, split]
  intro byte member
  rcases List.mem_append.mp member with inside | inside
  · exact head.2 byte inside
  · obtain ⟨piece, among, inside⟩ := List.mem_flatMap.mp inside
    rcases List.mem_cons.mp inside with rfl | inside
    · decide
    · exact (others piece among).2 byte inside

end Http.Target

end Resharing
