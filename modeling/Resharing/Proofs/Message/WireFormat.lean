import Resharing.Message.Signing
import Resharing.Proofs.Operator.Format
import Resharing.Publication.Basic

/-!
# Everything that is sent or stored is read back

Messages, results, operators and sessions are records of lists, maps, texts and numbers, so their
formats are faithful by following their definitions. Different messages therefore have different
written forms, and a signature made for one of them fits another only when the digest collides.

## Main definitions

* `Json.Format.Lossless`: decoding undoes encoding, which loses nothing
* `Sha2.Collision`: different bytes with one digest

## Main results

* `wireFormats_lossless`: all written forms are read back and differ from each other
-/

namespace Resharing

open Json

/-- Whether decoding undoes encoding, so that different values have different written forms. -/
structure Json.Format.Lossless {α : Type} (format : Format α) : Prop where
  decode_encode : ∀ a, format.decode (format.encode a) = .ok a
  /-- Different values are encoded differently. -/
  injective : Function.Injective format.encode

theorem Json.Format.Faithful.lossless {α : Type} {format : Format α}
    (faithful : format.Faithful) : format.Lossless where
  decode_encode a := (faithful a).decode_encode
  injective := faithful.encode_injective

/-- Different bytes with one digest. -/
def Sha2.Collision (left right : Bytes) : Prop :=
  left ≠ right ∧ Sha2.digest Sha2.short left = Sha2.digest Sha2.short right

/-! ### Sessions -/

theorem SessionId.faithful_format : SessionId.format.Faithful := by
  intro id
  apply (Format.faithful_bytes _).convert
  exact dif_pos id.length_bytes

namespace Session

theorem faithful_thresholdFormat : thresholdFormat.Faithful := by
  intro threshold
  apply (Format.readsBack_natural (by decide) threshold.toNat_lt).convert
  rw [UInt16.ofNat_toNat]

theorem faithful_format : Session.format.Faithful :=
  Format.faithful_record
    ⟨SessionId.faithful_format, by decide,
      OperatorMap.faithful_format Format.faithful_text, by decide,
      OperatorMap.faithful_format Format.faithful_text, by decide,
      faithful_thresholdFormat, by decide,
      Format.faithful_bytes, by decide, trivial⟩
    fun _ => rfl

end Session

/-! ### Messages -/

theorem SessionTerms.faithful_format : SessionTerms.format.Faithful :=
  Format.faithful_record
    ⟨Format.faithful_list OperatorId.faithful_format, by decide,
      Session.faithful_thresholdFormat, by decide,
      Format.faithful_text, by decide,
      Format.faithful_list OperatorId.faithful_format, by decide, trivial⟩
    fun _ => rfl

theorem Ceremony.faithful_format : Ceremony.format.Faithful := by
  apply Format.faithful_choice
  rintro (_ | _) <;> rfl

theorem KeyMessage.faithful_format : KeyMessage.format.Faithful :=
  Format.faithful_record
    ⟨Ceremony.faithful_format, by decide, SessionId.faithful_format, by decide,
      Format.faithful_bytes, by decide, trivial⟩
    fun _ => rfl

theorem SignedMessage.faithful_format : SignedMessage.format.Faithful :=
  Format.faithful_record
    ⟨KeyMessage.faithful_format, by decide, OperatorId.faithful_format, by decide,
      Format.faithful_bytes, by decide, trivial⟩
    fun _ => rfl

theorem EnvelopeKind.faithful_format : EnvelopeKind.format.Faithful := by
  apply Format.faithful_choice
  rintro (_ | _) <;> rfl

theorem Envelope.faithful_format : Envelope.format.Faithful :=
  Format.faithful_record
    ⟨EnvelopeKind.faithful_format, by decide, Format.faithful_bytes, by decide, trivial⟩
    fun _ => rfl

/-! ### Results -/

theorem ShareData.faithful_format : ShareData.format.Faithful :=
  Format.faithful_record
    ⟨SessionId.faithful_format, by decide, Format.faithful_text, by decide,
      Format.faithful_text, by decide, Format.faithful_text, by decide, trivial⟩
    fun _ => rfl

theorem KeySignature.faithful_format : KeySignature.format.Faithful :=
  Format.faithful_record
    ⟨SessionId.faithful_format, by decide, Format.faithful_text, by decide, trivial⟩
    fun _ => rfl

/-- A record is never written as `null`, so an absent share differs from every present one. -/
theorem OperatorOutput.faithful_format : OperatorOutput.format.Faithful :=
  Format.faithful_record
    ⟨Format.faithful_option ShareData.faithful_format nofun, by decide,
      Format.faithful_option KeySignature.faithful_format nofun, by decide,
      OperatorId.faithful_format, by decide, Format.faithful_text, by decide, trivial⟩
    fun _ => rfl

theorem Outputs.faithful_format : Outputs.format.Faithful :=
  OperatorMap.faithful_format OperatorOutput.faithful_format

theorem Blame.faithful_format : Blame.format.Faithful :=
  Format.faithful_record
    ⟨Format.faithful_bool, by decide, SignedMessage.faithful_format, by decide, trivial⟩
    fun _ => rfl

/-! ### All formats -/

/-- A signature that fits two messages is a signature of colliding bytes. -/
theorem KeyMessage.collision_of_root_eq {left right : KeyMessage} (differ : left ≠ right)
    (same : left.root = right.root) :
    Sha2.Collision (KeyMessage.format.encode left) (KeyMessage.format.encode right) :=
  ⟨fun equal => differ (KeyMessage.faithful_format.encode_injective equal), same⟩

/-- Decoding undoes encoding for everything that is sent or stored, so no two values share a
written form; in particular the bytes that are signed for two messages differ, and equal roots
would be a collision of the digest. -/
theorem wireFormats_lossless :
    SessionTerms.format.Lossless ∧ KeyMessage.format.Lossless ∧ SignedMessage.format.Lossless ∧
      Envelope.format.Lossless ∧ Blame.format.Lossless ∧ Outputs.format.Lossless ∧
      Operator.format.Lossless ∧ KeyGeneration.format.Lossless ∧ Session.format.Lossless ∧
      ∀ left right : KeyMessage, left ≠ right →
        KeyMessage.format.encode left ≠ KeyMessage.format.encode right ∧
          (left.root = right.root →
            Sha2.Collision (KeyMessage.format.encode left) (KeyMessage.format.encode right)) := by
  refine ⟨SessionTerms.faithful_format.lossless, KeyMessage.faithful_format.lossless,
    SignedMessage.faithful_format.lossless, Envelope.faithful_format.lossless,
    Blame.faithful_format.lossless, Outputs.faithful_format.lossless,
    Operator.faithful_format.lossless, KeyGeneration.faithful_format.lossless,
    Session.faithful_format.lossless, ?_⟩
  intro left right differ
  refine ⟨?_, KeyMessage.collision_of_root_eq differ⟩
  intro equal
  exact differ (KeyMessage.faithful_format.encode_injective equal)

end Resharing
