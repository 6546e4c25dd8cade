import Mathlib.Data.List.Nodup
import Mathlib.Logic.Function.Basic
import Resharing.Mailbox.Address
import Resharing.Proofs.Text.Hex
import Resharing.Proofs.Text.Utf8
import Resharing.Session.Id

/-!
# When two messages bear one name

A name is a digest of topic, colon and content. Nothing tells which of several colons is the
one in between, so the digest of a message on `a` can be that of a message on `a:b`. For this
one topic has to begin with the other and a colon. Topics that do not are apart: whatever is
said on them, no two of their messages bear one name.

The digest is a parameter here. What is said of it holds of every digest that tells different
inputs apart. The digest in use has only 32 bytes and cannot tell all of them apart. Where it
tells those that occur apart, it can be replaced by one that agrees with it there and tells
apart whatever is given.

## Main definitions

* `Mailbox.digestOn`: the digest in use on some inputs, and a longer one on all others
* `Mailbox.Apart`: neither topic begins with the other and a colon
* `Mailbox.Plain`: a topic without a colon

## Main results

* `Mailbox.preimage_eq_iff`: which messages on different topics have one preimage
* `Mailbox.nameWith_eq_iff`: names are as good as their preimages
* `Mailbox.digestOn_injective`: the digest in use need only tell apart what occurs
* `Mailbox.Apart.preimage_ne`, `Mailbox.apart_sessions`: topics of sessions are apart
* `Mailbox.Plain.nameWith_inj`: on topics without a colon a name tells topic and content
-/

namespace Resharing.Mailbox

variable {digest : Bytes → Bytes} {topic other : String} {payload content : Bytes}

/-- The colon between topic and content. -/
theorem ofText_colon : Bytes.ofText ":" = [58] := by decide +kernel

/-- On different topics two messages have one preimage if the one topic goes on, behind a
colon, with what the content of the message on the other topic begins with. -/
theorem preimage_eq_iff (distinct : topic ≠ other) :
    preimage topic payload = preimage other content ↔ ∃ rest,
      (Bytes.ofText other = preimage topic rest ∧ payload = rest ++ Bytes.ofText ":" ++ content) ∨
      (Bytes.ofText topic = preimage other rest ∧
        content = rest ++ Bytes.ofText ":" ++ payload) := by
  simp only [preimage, ofText_colon, List.append_assoc, List.cons_append, List.nil_append]
  constructor
  · intro same
    -- One topic is a beginning of the other; what is left over begins with the colon.
    rcases List.append_eq_append_iff.mp same with ⟨left, longer, behind⟩ | ⟨left, longer, behind⟩
    · cases left with
      | nil => exact absurd (Bytes.ofText_injective (by simpa using longer.symm)) distinct
      | cons colon rest =>
        obtain ⟨rfl, rfl⟩ := List.cons_eq_cons.mp behind
        exact ⟨rest, .inl ⟨longer, rfl⟩⟩
    · cases left with
      | nil => exact absurd (Bytes.ofText_injective (by simpa using longer)) distinct
      | cons colon rest =>
        obtain ⟨rfl, rfl⟩ := List.cons_eq_cons.mp behind
        exact ⟨rest, .inr ⟨longer, rfl⟩⟩
  · rintro ⟨rest, ⟨longer, rfl⟩ | ⟨longer, rfl⟩⟩
    · simp [longer]
    · simp [longer]

theorem preimage_inj : preimage topic payload = preimage topic content ↔ payload = content := by
  simp [preimage]

/-- Where the digest tells inputs apart, messages with one name have one preimage. -/
theorem nameWith_eq_iff (injective : Function.Injective digest) :
    nameWith digest topic payload = nameWith digest other content ↔
      preimage topic payload = preimage other content :=
  (Hex.encode_injective.comp injective).eq_iff

/-! ### The digest in use -/

/-- The digest in use on some inputs. Any other input is kept whole behind 33 zeros, more bytes
than a digest has. -/
def digestOn (inputs : List Bytes) (input : Bytes) : Bytes :=
  if input ∈ inputs then Blake3.digest input else List.replicate 33 0 ++ input

theorem digestOn_of_mem {inputs : List Bytes} {input : Bytes} (member : input ∈ inputs) :
    digestOn inputs input = Blake3.digest input :=
  if_pos member

/-- It is enough that the digest in use tells apart what it is asked for. -/
theorem digestOn_injective {inputs : List Bytes} (distinct : (inputs.map Blake3.digest).Nodup) :
    Function.Injective (digestOn inputs) := by
  have longer (short long : Bytes) : Blake3.digest short ≠ List.replicate 33 0 ++ long := by
    intro same
    have length := congrArg List.length same
    rw [Blake3.length_digest, List.length_append, List.length_replicate] at length
    omega
  intro left right same
  by_cases first : left ∈ inputs <;> by_cases second : right ∈ inputs <;>
    simp only [digestOn, first, second, if_true, if_false] at same
  · exact List.inj_on_of_nodup_map distinct first second same
  · exact absurd same (longer left right)
  · exact absurd same.symm (longer right left)
  · exact List.append_cancel_left same

/-! ### Topics that are apart -/

/-- Neither topic begins with the other and a colon. -/
def Apart (topic other : String) : Prop :=
  ¬ preimage topic [] <+: Bytes.ofText other ∧ ¬ preimage other [] <+: Bytes.ofText topic

theorem preimage_prefix (topic : String) (rest : Bytes) :
    preimage topic [] <+: preimage topic rest := by
  simp [preimage]

/-- Whatever is said on topics that are apart, it is told apart. -/
theorem Apart.preimage_ne (apart : Apart topic other) (distinct : topic ≠ other)
    (payload content : Bytes) : preimage topic payload ≠ preimage other content := by
  intro same
  obtain ⟨rest, ⟨longer, -⟩ | ⟨longer, -⟩⟩ := (preimage_eq_iff distinct).mp same
  · exact apart.1 (longer ▸ preimage_prefix topic rest)
  · exact apart.2 (longer ▸ preimage_prefix other rest)

private theorem not_begins_of_length
    (short : (Bytes.ofText other).length ≤ (Bytes.ofText topic).length) :
    ¬ preimage topic [] <+: Bytes.ofText other := by
  intro begins
  have room := begins.length_le
  simp only [preimage, ofText_colon, List.append_nil, List.length_append,
    List.length_singleton] at room
  omega

/-- Topics of one length are apart: there is no room for a colon. -/
theorem apart_of_length
    (length : (Bytes.ofText topic).length = (Bytes.ofText other).length) : Apart topic other :=
  ⟨not_begins_of_length (Nat.le_of_eq length.symm),
    not_begins_of_length (Nat.le_of_eq length)⟩

theorem hex_session_injective : Function.Injective SessionId.hex := by
  rintro ⟨left, _⟩ ⟨right, _⟩ same
  obtain rfl : left = right := Hex.encode_injective same
  rfl

/-- The topics of sessions are apart from each other. -/
theorem apart_sessions (left right : SessionId) : Apart left.hex right.hex := by
  apply apart_of_length
  simp only [SessionId.hex, Hex.ofText_encode, Hex.length_digits, left.length_bytes,
    right.length_bytes]

/-! ### Topics without a colon -/

/-- The topic has no colon. -/
def Plain (topic : String) : Prop := ':' ∉ topic.toList

/-- Where there is no colon there is none behind another topic. -/
theorem Plain.not_begins (plain : Plain other) : ¬ preimage topic [] <+: Bytes.ofText other := by
  rintro ⟨rest, begins⟩
  -- The byte of the colon is below 128, so in the form of a text it is that character.
  apply plain
  apply Bytes.mem_of_ascii (by decide)
  rw [← begins, preimage, ofText_colon, List.append_nil]
  exact List.mem_append_left rest (List.mem_append_right _ (List.mem_singleton.mpr rfl))

theorem Plain.apart (plain : Plain topic) (plainer : Plain other) : Apart topic other :=
  ⟨plainer.not_begins, plain.not_begins⟩

/-- On topics without a colon a name tells topic and content. -/
theorem Plain.nameWith_inj (plain : Plain topic) (plainer : Plain other)
    (injective : Function.Injective digest) :
    nameWith digest topic payload = nameWith digest other content ↔
      topic = other ∧ payload = content := by
  constructor
  · intro same
    have preimages := (nameWith_eq_iff injective).mp same
    by_cases distinct : topic = other
    · subst distinct
      exact ⟨rfl, preimage_inj.mp preimages⟩
    · exact absurd preimages ((plain.apart plainer).preimage_ne distinct payload content)
  · rintro ⟨rfl, rfl⟩
    rfl

end Resharing.Mailbox
