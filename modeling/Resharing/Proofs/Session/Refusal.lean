import Mathlib.Data.Finset.Card
import Resharing.Proofs.Operator.Map
import Resharing.Proofs.Session.Acceptance

/-!
# Which requests are accepted

Whether a request is accepted, and what is said against it if not, is told here by what it must
have and not by how it is gone through. Its specifications can be read, its key is spelled in
whole bytes and is not empty, there is a new operator, and the threshold lies between one and
the number of the new operators, which two bytes must be able to hold. Operators that are
specified twice are counted once, and their last address is theirs.

What is said against a request is the first of these that it lacks. Specifications are gone
through in their order, so of several that cannot be read the first is named.

## Main definitions

* `Operator.Spec.pairs`, `Operator.Spec.countIds`: what specifications say, and of how many
* `Operator.Spec.RefusedFirst`: the first specification that cannot be read
* `Session.Acceptable`: what a request must have
* `Session.Lacks`: the first thing that a request lacks
* `Session.Renders`: a session says what its request says

## Main results

* `Operator.Spec.mapM_of_readable`, `Operator.Spec.mapM_of_refusedFirst`: how specifications are
  gone through
* `OperatorMap.size_ofList`: each operator is counted once
* `Session.Acceptable.exists_accept`, `Session.Lacks.accept_eq`: the two ends
* `Session.accept_exact`: which requests are accepted, and why the others are not
-/

namespace Resharing

namespace Operator.Spec

variable {specs : List String} {error : Error}

/-- What those of some specifications say that can be read. -/
def pairs (specs : List String) : List (OperatorId × String) :=
  specs.filterMap fun spec => (parse spec).toOption

/-- How many operators are specified, each counted once. -/
def countIds (specs : List String) : Nat := ((pairs specs).map (·.1)).toFinset.card

def Readable (specs : List String) : Prop := ∀ spec ∈ specs, ∃ pair, parse spec = .ok pair

/-- The first specification that cannot be read is refused with an error. -/
def RefusedFirst (specs : List String) (error : Error) : Prop :=
  ∃ before spec after, specs = before ++ spec :: after ∧ Readable before ∧
    parse spec = .error error

theorem readable_or_refusedFirst (specs : List String) :
    Readable specs ∨ ∃ error, RefusedFirst specs error := by
  induction specs with
  | nil => exact .inl nofun
  | cons spec rest ih =>
    cases parsed : parse spec with
    | error error => exact .inr ⟨error, [], spec, rest, rfl, nofun, parsed⟩
    | ok pair =>
      rcases ih with readable | ⟨error, before, other, after, rfl, readable, refused⟩
      · exact .inl (List.forall_mem_cons.mpr ⟨⟨pair, parsed⟩, readable⟩)
      · exact .inr ⟨error, spec :: before, other, after, rfl,
          List.forall_mem_cons.mpr ⟨⟨pair, parsed⟩, readable⟩, refused⟩

theorem mapM_of_readable (readable : Readable specs) : specs.mapM parse = .ok (pairs specs) := by
  induction specs with
  | nil => rfl
  | cons spec rest ih =>
    obtain ⟨pair, parsed⟩ := readable spec List.mem_cons_self
    have later := ih fun other member => readable other (List.mem_cons_of_mem spec member)
    have split : pairs (spec :: rest) = pair :: pairs rest :=
      List.filterMap_cons_some (congrArg Except.toOption parsed)
    rw [List.mapM_cons, parsed, later, split]
    rfl

theorem mapM_of_refusedFirst (refused : RefusedFirst specs error) :
    specs.mapM parse = .error error := by
  obtain ⟨before, spec, after, rfl, readable, parsed⟩ := refused
  rw [List.mapM_append, mapM_of_readable readable, List.mapM_cons, parsed]
  rfl

theorem parseAll_of_readable (readable : Readable specs) :
    parseAll specs = .ok (OperatorMap.ofList (pairs specs)) := by
  rw [parseAll, mapM_of_readable readable]
  rfl

theorem parseAll_of_refusedFirst (refused : RefusedFirst specs error) :
    parseAll specs = .error error := by
  rw [parseAll, mapM_of_refusedFirst refused]
  rfl

end Operator.Spec

/-- A map that is made of some pairs has one entry for each of their ids. -/
theorem OperatorMap.size_ofList {α : Type} (entries : List (OperatorId × α)) :
    (ofList entries).size = (entries.map (·.1)).toFinset.card := by
  have same : (ofList entries).ids.toFinset = (entries.map (·.1)).toFinset := by
    ext id
    rw [List.mem_toFinset, List.mem_toFinset, mem_ids_ofList]
  rw [← same, List.toFinset_card_of_nodup (nodup_ids _), ids, List.length_map, size]

namespace Session

open Operator.Spec

variable {name : SessionId} {request : Request} {session : Session} {error : Error}
  {text : String} {fault : Hex.Fault}

/-! ### The key -/

/-- The signs of a key: the bytes of its text without the blanks around it. -/
def signs (text : String) : Bytes := Bytes.ofText (Text.trim text)

/-- A text spells a key: it has digits of base sixteen, two for each byte, and nothing else. -/
structure SpellsKey (text : String) : Prop where
  inhabited : Text.trim text ≠ ""
  even : (signs text).length % 2 = 0
  digits : ∀ sign ∈ signs text, (Hex.value? sign).isSome

theorem SpellsKey.readKey_eq (spells : SpellsKey text) :
    ∃ key, readKey text = .ok key ∧ Hex.decode (Text.trim text) = .ok key := by
  obtain ⟨key, read⟩ := Hex.exists_decodeDigits spells.even spells.digits
  change Hex.decode (Text.trim text) = .ok key at read
  refine ⟨key, ?_, read⟩
  cases key with
  | nil =>
    -- What is read is the trimmed text in lower case, so that would be empty as well.
    have lower : Hex.encode [] = (Text.trim text).toLower := Hex.encode_of_decode read
    have spelled : (Text.trim text).toLower.toList = (Text.trim text).toList.map Char.toLower :=
      String.toList_map
    rw [← lower] at spelled
    exact absurd (String.toList_eq_nil_iff.mp (List.map_eq_nil_iff.mp spelled.symm))
      spells.inhabited
  | cons byte rest => rw [readKey, read]

theorem readKey_of_flawed (flawed : Hex.Flawed (signs text) fault) :
    readKey text = .error (.notHex text fault) := by
  have refused : Hex.decode (Text.trim text) = .error fault := flawed.decodeDigits_eq
  rw [readKey, refused]

theorem readKey_of_blank (blank : Text.trim text = "") : readKey text = .error .empty := by
  rw [readKey, blank]
  rfl

theorem key_cases (text : String) :
    (∃ fault, Hex.Flawed (signs text) fault) ∨ Text.trim text = "" ∨ SpellsKey text := by
  rcases Hex.flawed_or_digits (signs text) with ⟨even, digits⟩ | flawed
  · by_cases blank : Text.trim text = ""
    · exact .inr (.inl blank)
    · exact .inr (.inr ⟨blank, even, digits⟩)
  · exact .inl flawed

/-! ### What a request must have -/

/-- What a request must have to be accepted. -/
structure Acceptable (request : Request) : Prop where
  operators : Readable request.operators
  oldOperators : Readable request.oldOperators
  key : SpellsKey request.validatorKey
  inhabited : countIds request.operators ≠ 0
  positive : 1 ≤ request.threshold.toNat
  bounded : request.threshold.toNat ≤ min (countIds request.operators) 65535

/-- The first thing that a request lacks, and the error that tells it. Each case comes with all
that is looked at before it. -/
inductive Lacks (request : Request) : Error → Prop
  | newSpec {error : Error} (refused : RefusedFirst request.operators error) :
      Lacks request error
  | oldSpec {error : Error} (operators : Readable request.operators)
      (refused : RefusedFirst request.oldOperators error) : Lacks request error
  -- The error shows the key as it was given, with the blanks around it.
  | digits {fault : Hex.Fault} (operators : Readable request.operators)
      (oldOperators : Readable request.oldOperators)
      (flawed : Hex.Flawed (signs request.validatorKey) fault) :
      Lacks request (.badValidatorKey (.notHex request.validatorKey fault))
  | key (operators : Readable request.operators) (oldOperators : Readable request.oldOperators)
      (blank : Text.trim request.validatorKey = "") : Lacks request (.badValidatorKey .empty)
  | newOperator (operators : Readable request.operators)
      (oldOperators : Readable request.oldOperators) (key : SpellsKey request.validatorKey)
      (none : countIds request.operators = 0) : Lacks request .noOperators
  | threshold (operators : Readable request.operators)
      (oldOperators : Readable request.oldOperators) (key : SpellsKey request.validatorKey)
      (inhabited : countIds request.operators ≠ 0)
      (unfit : ¬ (1 ≤ request.threshold.toNat ∧
        request.threshold.toNat ≤ min (countIds request.operators) 65535)) :
      Lacks request (.badThreshold request.threshold.toNat (countIds request.operators))

/-- A session says what its request says: of each operator the last address, the bytes that the
key spells, and the threshold. -/
structure Renders (name : SessionId) (request : Request) (session : Session) : Prop where
  id : session.id = name
  operators : ∀ id, session.operators.find? id =
    OperatorMap.lastValue? (pairs request.operators) id
  oldOperators : ∀ id, session.oldOperators.find? id =
    OperatorMap.lastValue? (pairs request.oldOperators) id
  key : Hex.decode (Text.trim request.validatorKey) = .ok session.validatorKey
  threshold : session.threshold.toNat = request.threshold.toNat

theorem acceptable_or_lacks (request : Request) :
    Acceptable request ∨ ∃ error, Lacks request error := by
  rcases readable_or_refusedFirst request.operators with operators | ⟨error, refused⟩
  · rcases readable_or_refusedFirst request.oldOperators with oldOperators | ⟨error, refused⟩
    · rcases key_cases request.validatorKey with ⟨fault, flawed⟩ | blank | key
      · exact .inr ⟨_, .digits operators oldOperators flawed⟩
      · exact .inr ⟨_, .key operators oldOperators blank⟩
      · by_cases none : countIds request.operators = 0
        · exact .inr ⟨_, .newOperator operators oldOperators key none⟩
        · by_cases fit : 1 ≤ request.threshold.toNat ∧
              request.threshold.toNat ≤ min (countIds request.operators) 65535
          · exact .inl ⟨operators, oldOperators, key, none, fit.1, fit.2⟩
          · exact .inr ⟨_, .threshold operators oldOperators key none fit⟩
    · exact .inr ⟨error, .oldSpec operators refused⟩
  · exact .inr ⟨error, .newSpec refused⟩

theorem thresholdFits_iff {threshold operators : Nat} :
    thresholdFits threshold operators = true ↔ 1 ≤ threshold ∧ threshold ≤ min operators 65535 := by
  simp only [thresholdFits, Bool.and_eq_true, decide_eq_true_eq, UInt16.size]
  omega

/-- A request that has all it must have is accepted. -/
theorem Acceptable.exists_accept (acceptable : Acceptable request) (name : SessionId) :
    ∃ session, accept name request = .ok session ∧ Renders name request session := by
  obtain ⟨key, read, spelled⟩ := acceptable.key.readKey_eq
  have fits : thresholdFits request.threshold.toNat (countIds request.operators) = true :=
    thresholdFits_iff.mpr ⟨acceptable.positive, acceptable.bounded⟩
  refine ⟨⟨name, .ofList (pairs request.operators), .ofList (pairs request.oldOperators),
    UInt16.ofNat request.threshold.toNat, key⟩, ?_, ⟨rfl, OperatorMap.find?_ofList _,
    OperatorMap.find?_ofList _, spelled, ?_⟩⟩
  · have known : (readKey request.validatorKey).mapError Error.badValidatorKey = .ok key := by
      rw [read]
      rfl
    have size : (OperatorMap.ofList (pairs request.operators)).size =
        countIds request.operators := OperatorMap.size_ofList _
    simp only [accept, parseAll_of_readable acceptable.operators,
      parseAll_of_readable acceptable.oldOperators, known, bind, Except.bind, size,
      if_neg acceptable.inhabited, if_pos fits]
  · have small := acceptable.bounded.trans (Nat.min_le_right _ _)
    exact UInt16.toNat_ofNat_of_lt' (Nat.lt_succ_of_le small)

/-- A request that lacks something is refused for the first thing that it lacks. -/
theorem Lacks.accept_eq (lacks : Lacks request error) (name : SessionId) :
    accept name request = .error error := by
  have size : (OperatorMap.ofList (pairs request.operators)).size =
      countIds request.operators := OperatorMap.size_ofList _
  cases lacks with
  | newSpec refused =>
    rw [accept, parseAll_of_refusedFirst refused]
    rfl
  | oldSpec operators refused =>
    rw [accept, parseAll_of_readable operators, parseAll_of_refusedFirst refused]
    rfl
  | digits operators oldOperators flawed =>
    rw [accept, parseAll_of_readable operators, parseAll_of_readable oldOperators,
      readKey_of_flawed flawed]
    rfl
  | key operators oldOperators blank =>
    rw [accept, parseAll_of_readable operators, parseAll_of_readable oldOperators,
      readKey_of_blank blank]
    rfl
  | newOperator operators oldOperators key none =>
    obtain ⟨bytes, read, -⟩ := key.readKey_eq
    rw [accept, parseAll_of_readable operators, parseAll_of_readable oldOperators, read]
    exact if_pos (size.trans none)
  | threshold operators oldOperators key inhabited unfit =>
    obtain ⟨bytes, read, -⟩ := key.readKey_eq
    have misfits : ¬ thresholdFits request.threshold.toNat (countIds request.operators) = true :=
      fun fits => unfit (thresholdFits_iff.mp fits)
    rw [accept, parseAll_of_readable operators, parseAll_of_readable oldOperators, read]
    simp only [bind, Except.bind, Except.mapError, size, if_neg inhabited, if_neg misfits]

/-- No two sessions of one name say what a request says. -/
theorem Renders.unique {other : Session} (renders : Renders name request session)
    (again : Renders name request other) : session = other := by
  -- Maps in which the same is found are equal, so each field is told.
  have operators : session.operators = other.operators :=
    OperatorMap.ext_find? fun id => (renders.operators id).trans (again.operators id).symm
  have oldOperators : session.oldOperators = other.oldOperators :=
    OperatorMap.ext_find? fun id => (renders.oldOperators id).trans (again.oldOperators id).symm
  have threshold : session.threshold = other.threshold :=
    UInt16.toNat_inj.mp (renders.threshold.trans again.threshold.symm)
  have key : session.validatorKey = other.validatorKey :=
    Except.ok.inj (renders.key.symm.trans again.key)
  have id : session.id = other.id := renders.id.trans again.id.symm
  cases session
  cases other
  congr

/-- Which requests are accepted and as what, and why the others are not. A request is accepted
exactly if it has all it must have, and the session is then the only one that says what it says.
Otherwise it is refused for the first thing that it lacks: a new operator's specification, an
old one's, a digit of the key, the key, new operators, or a threshold that they can meet, of
whom each counts once. -/
theorem accept_exact (name : SessionId) (request : Request) :
    (∀ session, accept name request = .ok session ↔
      Acceptable request ∧ Renders name request session) ∧
    (Acceptable request → ∃ session, accept name request = .ok session) ∧
    ∀ error, accept name request = .error error ↔ Lacks request error := by
  refine ⟨fun session => ⟨fun accepted => ?_, fun ⟨acceptable, renders⟩ => ?_⟩,
    fun acceptable => ?_, fun error => ⟨fun refused => ?_, fun lacks => lacks.accept_eq name⟩⟩
  · rcases acceptable_or_lacks request with acceptable | ⟨error, lacks⟩
    · obtain ⟨other, same, renders⟩ := acceptable.exists_accept name
      obtain rfl := Except.ok.inj (same.symm.trans accepted)
      exact ⟨acceptable, renders⟩
    · exact nomatch accepted.symm.trans (lacks.accept_eq name)
  · obtain ⟨other, accepted, again⟩ := acceptable.exists_accept name
    rw [accepted, again.unique renders]
  · obtain ⟨session, accepted, -⟩ := acceptable.exists_accept name
    exact ⟨session, accepted⟩
  · rcases acceptable_or_lacks request with acceptable | ⟨other, lacks⟩
    · obtain ⟨session, accepted, -⟩ := acceptable.exists_accept name
      exact nomatch refused.symm.trans accepted
    · obtain rfl := Except.error.inj ((lacks.accept_eq name).symm.trans refused)
      exact lacks

/-- An operator that is specified twice is one operator, so it cannot meet a threshold of two. -/
example : accept ⟨List.replicate 16 0, rfl⟩ ⟨["1=http://a", " 1 = http://b"], [], 2, "ab"⟩ =
    .error (.badThreshold 2 1) := by
  cbv

end Session

end Resharing
