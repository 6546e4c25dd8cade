import Mathlib.Data.List.TakeWhile
import Mathlib.Tactic.SplitIfs
import Resharing.Http.Url
import Resharing.Http.Target
import Resharing.Proofs.Http.Form

/-!
# Addresses as they are put together

A client puts a path behind the address of a host and fields behind the path. Reading such an
address finds the parts again: nothing in the host is a separator of addresses, and only the path
may have to be cleaned up. The target that is sent has the path and the fields, and whoever
receives it reads them as they were written.

## Main definitions

* `Http.Url.Host`: a text that stands for an authority in an address
* `Http.Url.Simple`: a path that is read as it is written
* `Http.Url.cleaned`, `Http.Url.queryBehind`: what is read of another one

## Main results

* `Http.Url.ofText?_of_slashed`: an address is read as its parts, once its path is cleaned up
* `Http.Url.ofText?_of_host`: a simple path is read as it is
* `Http.Url.withFields_single`: one field in the query
* `Http.Target.ofBytes_parts`: a target is read as its path and its query
-/

namespace Resharing.Http

namespace Url

variable {scheme host authority path text : String} {bytes rest : Bytes}

/-- A text stands for an authority in an address: it is read as that, and nothing in it ends it
or is dropped. -/
structure Host (host authority : String) : Prop where
  reads : authority? (Bytes.ofText host) = some authority
  plain : ∀ byte ∈ Bytes.ofText host,
    isSlash byte = false ∧ endsPath byte = false ∧ isBreak byte = false

/-- A path that begins with a slash and has nothing in it that ends it or is dropped. -/
structure Simple (path : Bytes) : Prop where
  slashed : path.head? = some (ascii '/')
  plain : ∀ byte ∈ path, endsPath byte = false ∧ isBreak byte = false ∧ isMargin byte = false

/-- What is read of a path behind a host: margins at its end and breaks are dropped. -/
def cleaned (path : Bytes) : Bytes :=
  (path.reverse.dropWhile isMargin).reverse.filter fun byte => !isBreak byte

/-- The query that is read behind a path. -/
def queryBehind (path : Bytes) : Option Bytes :=
  match path.dropWhile fun byte => !endsPath byte with
  | byte :: rest =>
    if byte = ascii '?' then some (Percent.encode passesQuery (rest.takeWhile (· != ascii '#')))
    else none
  | [] => none

theorem dropWhile_of_head {p : UInt8 → Bool} {first : UInt8} (head : bytes.head? = some first)
    (stays : p first = false) : bytes.dropWhile p = bytes := by
  cases bytes with
  | nil => rfl
  | cons byte rest =>
    obtain rfl := Option.some.inj head
    rw [List.dropWhile_cons_of_neg (by simp [stays])]

/-- What is in front of a byte that stays is not looked at from behind. -/
theorem dropWhile_reverse_append {p : UInt8 → Bool} {stop : UInt8} (stays : p stop = false)
    (front rest : Bytes) : ((front ++ stop :: rest).reverse.dropWhile p).reverse =
      front ++ ((stop :: rest).reverse.dropWhile p).reverse := by
  have filled : ((stop :: rest).reverse.dropWhile p).isEmpty = false := by
    rw [List.isEmpty_eq_false_iff, Ne, List.dropWhile_eq_nil_iff]
    exact fun all => absurd (all stop (by simp)) (by simp [stays])
  rw [List.reverse_append, List.dropWhile_append, filled]
  simp

theorem takeWhile_before {p : UInt8 → Bool} {stop : UInt8} (passes : ∀ byte ∈ bytes, p byte = true)
    (stops : p stop = false) : (bytes ++ stop :: rest).takeWhile p = bytes := by
  rw [List.takeWhile_append_of_pos passes, List.takeWhile_cons_of_neg (by simp [stops]),
    List.append_nil]

/-! ### Reading an address -/

/-- The schemes are plain words. -/
theorem scheme_facts : ∀ scheme ∈ schemes,
    (Bytes.ofText scheme).head? = some (ascii 'h') ∧
    (∀ byte ∈ Bytes.ofText scheme, byte ≠ ascii ':' ∧ isBreak byte = false) ∧
    lowerText (Bytes.ofText scheme) = scheme := by
  decide +kernel

theorem Host.head (hosted : Host host authority) : ∃ first,
    (Bytes.ofText host).head? = some first ∧ isSlash first = false := by
  cases split : Bytes.ofText host with
  | nil =>
    have reads := hosted.reads
    rw [split] at reads
    cases reads
  | cons first rest =>
    exact ⟨first, rfl, (hosted.plain first (split ▸ List.mem_cons_self)).1⟩

/-- The text of a host ends with something that is no slash. -/
theorem Host.ends (hosted : Host host authority) :
    ∃ last rest, host.toList.reverse = last :: rest ∧ last ≠ '/' := by
  cases turned : host.toList.reverse with
  | nil =>
    obtain ⟨first, begins, -⟩ := hosted.head
    rw [Bytes.ofText_eq_flatMap, List.reverse_eq_nil_iff.mp turned] at begins
    cases begins
  | cons last rest =>
    refine ⟨last, rest, rfl, ?_⟩
    rintro rfl
    have inside : ascii '/' ∈ Bytes.ofText host := by
      rw [Bytes.ofText_eq_flatMap]
      exact List.mem_flatMap.mpr
        ⟨'/', List.mem_reverse.mp (turned ▸ List.mem_cons_self), by decide⟩
    exact absurd (hosted.plain _ inside).1 (by decide)

/-- The parts of an address in their order. -/
theorem ofText_address (scheme host path : String) :
    Bytes.ofText (scheme ++ "://" ++ host ++ path) =
      Bytes.ofText scheme ++ ascii ':' :: ascii '/' :: ascii '/' ::
        (Bytes.ofText host ++ Bytes.ofText path) := by
  have marks : Bytes.ofText "://" = [ascii ':', ascii '/', ascii '/'] := by decide
  simp only [Bytes.ofText_append, marks, List.append_assoc, List.cons_append, List.nil_append]

/-- Only the path has to be cleaned up. -/
theorem clean_address (known : scheme ∈ schemes) (hosted : Host host authority)
    (slashed : (Bytes.ofText path).head? = some (ascii '/')) :
    (trimMargins (Bytes.ofText (scheme ++ "://" ++ host ++ path))).filter (fun b => !isBreak b) =
      Bytes.ofText scheme ++ ascii ':' :: ascii '/' :: ascii '/' ::
        (Bytes.ofText host ++ cleaned (Bytes.ofText path)) := by
  obtain ⟨head, named, -⟩ := scheme_facts scheme known
  obtain ⟨steps, split⟩ := List.head?_eq_some_iff.mp slashed
  have begins : (Bytes.ofText (scheme ++ "://" ++ host ++ path)).head? = some (ascii 'h') := by
    rw [ofText_address, List.head?_append, head, Option.some_or]
  let front := Bytes.ofText scheme ++ ascii ':' :: ascii '/' :: ascii '/' :: Bytes.ofText host
  have parts : Bytes.ofText (scheme ++ "://" ++ host ++ path) = front ++ ascii '/' :: steps := by
    rw [ofText_address, split]
    simp [front]
  have kept : front.filter (fun b => !isBreak b) = front := by
    rw [List.filter_eq_self]
    intro byte member
    simp only [front, List.mem_append, List.mem_cons] at member
    rw [Bool.not_eq_true']
    rcases member with member | rfl | rfl | rfl | member
    · exact (named byte member).2
    · decide
    · decide
    · decide
    · exact (hosted.plain byte member).2.2
  rw [trimMargins, dropWhile_of_head begins (by decide), parts,
    dropWhile_reverse_append (by decide), List.filter_append, kept, cleaned, split]
  simp [front]

/-- What is behind a slash can be cleaned up alone. -/
theorem cleaned_append (front rest : Bytes) : cleaned (front ++ ascii '/' :: rest) =
    front.filter (fun byte => !isBreak byte) ++ ascii '/' :: cleaned rest := by
  have last := @List.dropWhile_append _ isMargin rest.reverse [ascii '/']
  rw [cleaned, dropWhile_reverse_append (by decide), List.filter_append, List.reverse_cons, last,
    cleaned]
  have solid : isBreak (ascii '/') = false := by decide
  split_ifs with all
  · have ends : [ascii '/'].dropWhile isMargin = [ascii '/'] := by decide
    rw [List.isEmpty_iff.mp all, ends]
    simp [solid]
  · simp [solid]

/-- Cleaning up only drops bytes. -/
theorem cleaned_sublist (path : Bytes) : (cleaned path).Sublist path := by
  have trimmed := (List.dropWhile_suffix isMargin (l := path.reverse)).sublist.reverse
  rw [List.reverse_reverse] at trimmed
  exact List.filter_sublist.trans trimmed

/-- Without breaks, and without a margin at its end, nothing has to be cleaned up. -/
theorem cleaned_eq_self_iff : cleaned bytes = bytes ↔
    (∀ byte ∈ bytes, isBreak byte = false) ∧ ∀ last ∈ bytes.getLast?, isMargin last = false := by
  have trimmed : (bytes.reverse.dropWhile isMargin).reverse = bytes ↔
      ∀ last ∈ bytes.getLast?, isMargin last = false := by
    rw [List.reverse_eq_iff, ← List.head?_reverse]
    cases bytes.reverse with
    | nil => simp
    | cons last rest => simp [List.dropWhile_eq_self_iff]
  rw [← trimmed]
  refine ⟨fun same => ?_, fun ⟨unbroken, kept⟩ => ?_⟩
  · -- Neither step leaves more than it is given, so neither has dropped anything.
    have shorter : (bytes.reverse.dropWhile isMargin).length ≤ bytes.reverse.length :=
      List.length_dropWhile_le _ _
    have fewer := List.length_filter_le (fun byte => !isBreak byte)
      (bytes.reverse.dropWhile isMargin).reverse
    have size := congrArg List.length same
    rw [cleaned] at size
    rw [List.length_reverse] at shorter fewer
    have kept : (bytes.reverse.dropWhile isMargin).reverse = bytes := by
      rw [List.reverse_eq_iff]
      exact (List.dropWhile_suffix _).eq_of_length (by rw [List.length_reverse]; omega)
    rw [cleaned, kept, List.filter_eq_self] at same
    exact ⟨fun byte member => by simpa using same byte member, kept⟩
  · rw [cleaned, kept, List.filter_eq_self]
    exact fun byte member => by simp [unbroken byte member]

/-- An address is read as its parts. -/
theorem ofText?_of_slashed (known : scheme ∈ schemes) (hosted : Host host authority)
    (slashed : (Bytes.ofText path).head? = some (ascii '/')) :
    ofText? (scheme ++ "://" ++ host ++ path) = some ⟨scheme, authority,
      segmentsOf ((cleaned (Bytes.ofText path)).takeWhile fun byte => !endsPath byte),
      queryBehind (cleaned (Bytes.ofText path))⟩ := by
  obtain ⟨-, named, lowered⟩ := scheme_facts scheme known
  obtain ⟨first, begins, solid⟩ := hosted.head
  obtain ⟨steps, split⟩ := List.head?_eq_some_iff.mp slashed
  have clean : cleaned (Bytes.ofText path) = ascii '/' :: cleaned steps := by
    rw [split]
    exact cleaned_append [] steps
  generalize path_eq : cleaned (Bytes.ofText path) = whole at clean ⊢
  have scheme_part : (Bytes.ofText scheme ++ ascii ':' :: ascii '/' :: ascii '/' ::
      (Bytes.ofText host ++ whole)).takeWhile (· != ascii ':') = Bytes.ofText scheme :=
    takeWhile_before (fun byte member => bne_iff_ne.mpr (named byte member).1) (by simp)
  have behind : ((Bytes.ofText scheme ++ ascii ':' :: ascii '/' :: ascii '/' ::
      (Bytes.ofText host ++ whole)).drop ((Bytes.ofText scheme).length + 1)).dropWhile isSlash =
      Bytes.ofText host ++ whole := by
    rw [← List.drop_drop, List.drop_left, List.drop_one, List.tail_cons,
      List.dropWhile_cons_of_pos (by decide), List.dropWhile_cons_of_pos (by decide),
      dropWhile_of_head _ solid]
    rw [List.head?_append, begins, Option.some_or]
  have host_part : (Bytes.ofText host ++ whole).takeWhile
      (fun byte => !isSlash byte && !endsPath byte) = Bytes.ofText host := by
    rw [clean]
    refine takeWhile_before (fun byte member => ?_) (by decide)
    simp [hosted.plain byte member]
  have remaining : whole.drop (whole.takeWhile fun byte => !endsPath byte).length =
      whole.dropWhile fun byte => !endsPath byte :=
    (congrArg (List.drop _) List.takeWhile_append_dropWhile.symm).trans List.drop_left
  unfold ofText?
  rw [clean_address known hosted slashed, path_eq]
  simp only [scheme_part, behind, host_part, List.drop_left, remaining, hosted.reads, lowered]
  refine if_pos ⟨known, ?_⟩
  rw [List.length_append, List.length_cons]
  omega

/-- Nothing of a simple path has to be cleaned up. -/
theorem Simple.cleaned_eq (simple : Simple bytes) : cleaned bytes = bytes := by
  refine cleaned_eq_self_iff.mpr ⟨fun byte member => (simple.plain byte member).2.1, ?_⟩
  exact fun last ends => (simple.plain last (List.mem_of_getLast? ends)).2.2

/-- An address with a simple path is read as its parts. -/
theorem ofText?_of_host (known : scheme ∈ schemes) (hosted : Host host authority)
    (simple : Simple (Bytes.ofText path)) :
    ofText? (scheme ++ "://" ++ host ++ path) =
      some ⟨scheme, authority, segmentsOf (Bytes.ofText path), none⟩ := by
  have stays : ∀ byte ∈ Bytes.ofText path, (!endsPath byte) = true :=
    fun byte member => by simp [simple.plain byte member]
  rw [ofText?_of_slashed known hosted simple.slashed, simple.cleaned_eq, queryBehind,
    List.takeWhile_eq_self_iff.mpr stays, List.dropWhile_eq_nil_iff.mpr stays]

/-- One field makes the query of an address that has none. -/
theorem withFields_single {url : Url} (bare : url.query = none) (name value : String) :
    url.withFields [(name, value)] = { url with query := some (Form.encodeField name value) } := by
  simp [withFields, bare]

end Url

/-! ### Reading a target -/

namespace Target

variable {bytes path query : Bytes} {name value : String}

/-- Whether a byte may stand in the path and in the query of a target and ends neither. -/
def isCalm (byte : UInt8) : Bool :=
  passesPath byte && passesQuery byte && byte != '#'.toUInt8 && byte != '?'.toUInt8 &&
    byte < 0x80

theorem isCalm_facts {byte : UInt8} (calm : isCalm byte = true) :
    passesPath byte = true ∧ passesQuery byte = true ∧ byte ≠ '#'.toUInt8 ∧ byte ≠ '?'.toUInt8 ∧
      byte.toNat < 128 := by
  simp only [isCalm, Bool.and_eq_true, bne_iff_ne, decide_eq_true_eq, UInt8.lt_iff_toNat_lt]
    at calm
  exact ⟨calm.1.1.1.1, calm.1.1.1.2, calm.1.1.2, calm.1.2, calm.2⟩

/-- Whether a byte may stand in the query of a target and ends it not. -/
def isQuiet (byte : UInt8) : Bool := passesQuery byte && byte != '#'.toUInt8 && byte < 0x80

theorem isQuiet_facts {byte : UInt8} (quiet : isQuiet byte = true) :
    passesQuery byte = true ∧ byte ≠ '#'.toUInt8 ∧ byte.toNat < 128 := by
  simp only [isQuiet, Bool.and_eq_true, bne_iff_ne, decide_eq_true_eq, UInt8.lt_iff_toNat_lt]
    at quiet
  exact ⟨quiet.1.1, quiet.1.2, quiet.2⟩

theorem isQuiet_of_isCalm {byte : UInt8} (calm : isCalm byte = true) : isQuiet byte = true := by
  obtain ⟨-, passing, whole, -, ascii⟩ := isCalm_facts calm
  simp only [isQuiet, Bool.and_eq_true, bne_iff_ne, decide_eq_true_eq, UInt8.lt_iff_toNat_lt]
  exact ⟨⟨passing, whole⟩, ascii⟩

private theorem isCalm_of_lt :
    ∀ n < 256, Form.isWritten (UInt8.ofNat n) = true → isCalm (UInt8.ofNat n) = true := by
  decide +kernel

/-- The bytes of names and values are calm. -/
theorem isCalm_of_isWritten {byte : UInt8} (written : Form.isWritten byte = true) :
    isCalm byte = true := by
  have calm := isCalm_of_lt byte.toNat byte.toNat_lt
  rw [UInt8.ofNat_toNat] at calm
  exact calm written

theorem isCalm_encodeField (name value : String) :
    ∀ byte ∈ Form.encodeField name value, isCalm byte = true := by
  intro byte member
  simp only [Form.encodeField, List.mem_append, List.mem_cons] at member
  rcases member with member | rfl | member
  · exact isCalm_of_isWritten (Form.isWritten_encodePart name byte member)
  · decide
  · exact isCalm_of_isWritten (Form.isWritten_encodePart value byte member)

/-- ASCII is UTF-8. -/
theorem isSome_text? (ascii : ∀ byte ∈ bytes, byte.toNat < 128) :
    (Bytes.text? bytes).isSome = true := by
  rw [← Bytes.ofText_ofList_map ascii, Bytes.text?_ofText]
  rfl

/-- What stands behind a path. -/
def behind : Option Bytes → Bytes
  | some query => '?'.toUInt8 :: query
  | none => []

/-- A path of calm bytes and a query of quiet ones are read as they are. -/
theorem ofBytes_parts {query : Option Bytes}
    (short : ('/'.toUInt8 :: path ++ behind query).length ≤ maxLength)
    (calm : ∀ byte ∈ path, isCalm byte = true)
    (quiet : ∀ asked ∈ query, ∀ byte ∈ asked, isQuiet byte = true) :
    ofBytes ('/'.toUInt8 :: path ++ behind query) =
      .ok ⟨Form.pieces '/'.toUInt8 path, query.getD []⟩ := by
  have slashed : ∀ byte ∈ '/'.toUInt8 :: path, isCalm byte = true :=
    List.forall_mem_cons.mpr ⟨by decide, calm⟩
  have plain : ∀ byte ∈ '/'.toUInt8 :: path ++ behind query,
      byte ≠ '#'.toUInt8 ∧ byte.toNat < 128 := by
    intro byte member
    rcases List.mem_append.mp member with before | after
    · exact (isQuiet_facts (isQuiet_of_isCalm (slashed byte before))).2
    · cases query with
      | none => cases after
      | some asked =>
        rcases List.mem_cons.mp after with rfl | after
        · decide
        · exact (isQuiet_facts (quiet asked rfl byte after)).2
  have whole : ('/'.toUInt8 :: path ++ behind query).takeWhile (· != '#'.toUInt8) =
      '/'.toUInt8 :: path ++ behind query := by
    rw [List.takeWhile_eq_self_iff]
    exact fun byte member => bne_iff_ne.mpr (plain byte member).1
  have unasked : ∀ byte ∈ '/'.toUInt8 :: path, (byte != '?'.toUInt8) = true :=
    fun byte member => bne_iff_ne.mpr (isCalm_facts (slashed byte member)).2.2.2.1
  have path_part : ('/'.toUInt8 :: path ++ behind query).takeWhile (· != '?'.toUInt8) =
      '/'.toUInt8 :: path := by
    cases query with
    | none => rw [behind, List.append_nil, List.takeWhile_eq_self_iff.mpr unasked]
    | some asked => exact Url.takeWhile_before unasked (by decide)
  have query_part : ('/'.toUInt8 :: path ++ behind query).drop
      (('/'.toUInt8 :: path).length + 1) = query.getD [] := by
    rw [← List.drop_drop, List.drop_left]
    cases query <;> rfl
  have passes : ('/'.toUInt8 :: path).all passesPath = true ∧
      (query.getD []).all passesQuery = true ∧
      (Bytes.text? ('/'.toUInt8 :: path ++ behind query)).isSome = true := by
    refine ⟨List.all_eq_true.mpr fun byte member => (isCalm_facts (slashed byte member)).1, ?_,
      isSome_text? fun byte member => (plain byte member).2⟩
    cases query with
    | none => rfl
    | some asked => exact List.all_eq_true.mpr fun byte member =>
        (isQuiet_facts (quiet asked rfl byte member)).1
  rw [ofBytes]
  simp only [if_neg (Nat.not_lt.mpr short)]
  refine (if_pos rfl).trans ?_
  rw [ofPath]
  simp only [whole, path_part, query_part]
  rw [if_pos passes]

end Target

end Resharing.Http
