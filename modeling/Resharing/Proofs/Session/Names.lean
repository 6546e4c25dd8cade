import Resharing.Message.Signing
import Resharing.Messenger.Basic
import Resharing.Proofs.Text.HexReading
import Resharing.Session.Basic

/-!
# Names of sessions, seeds and keys

Sessions are named, signers are loaded and validators are told by texts in base sixteen, and all
three are read alike. They differ in how many digits there have to be, and in whether blanks around
them count: the name of a session is taken as it stands, seeds and keys are trimmed first. What is
read is written back as the text in lower case. So a session has one topic and no two sessions share
one, and a seed that was written down is loaded again.

## Main results

* `SessionId.makes_ofBytes?`, `Seed.makes_ofBytes?`, `Session.makes_keyOf?`: how many digits there
  have to be
* `Seed.ofHex_hex`: a seed is loaded from what was written of it
* `Hex.names_exact`: which texts are bytes, names, seeds and keys, and what is said of the others
-/

namespace Resharing

/-! ### Names of sessions -/

namespace SessionId

theorem makes_ofBytes? : Hex.Makes ofBytes? bytes (· = 32) := by
  apply Hex.Makes.of_length
  · rintro ⟨left, _⟩ ⟨right, _⟩ rfl
    rfl
  · exact fun bytes length => rfl

theorem ofHex_eq (text : String) :
    ofHex text = Hex.readAs ofBytes? .notHex .wrongLength text := by
  rw [ofHex, Hex.readAs]
  cases Hex.decode text with
  | error fault => rfl
  | ok bytes =>
    dsimp only
    cases ofBytes? bytes <;> rfl

theorem readsAs_ofHex (text : String) :
    Hex.ReadsAs (ofHex text) hex text (· = 32) .notHex .wrongLength := by
  rw [ofHex_eq]
  exact makes_ofBytes?.readsAs text

theorem ofHex_hex (id : SessionId) : ofHex id.hex = .ok id := by
  rw [ofHex_eq]
  exact makes_ofBytes?.readAs_encode (congrArg (2 * ·) id.length_bytes)

/-- The topic of a session tells the session. -/
theorem eq_of_topic {left right : SessionId} {ids others : List OperatorId}
    (same : (sessionTopic left ids).name = (sessionTopic right others).name) : left = right :=
  makes_ofBytes?.encode_injective same

end SessionId

/-! ### Seeds -/

namespace Seed

theorem makes_ofBytes? : Hex.Makes ofBytes? bytes (· = 64) := by
  apply Hex.Makes.of_length
  · exact fun left right => ext_bytes
  · exact fun bytes length => rfl

theorem ofHex_eq (text : String) :
    ofHex text = Hex.readAs ofBytes? (Error.badSignerKey <| .notHex ·) (.badSignerKey .wrongLength)
      (Text.trim text) := by
  rw [ofHex, Hex.readAs]
  cases Hex.decode (Text.trim text) with
  | error fault => rfl
  | ok bytes =>
    dsimp only
    cases ofBytes? bytes <;> rfl

theorem readsAs_ofHex (text : String) :
    Hex.ReadsAs (ofHex text) hex (Text.trim text) (· = 64) (Error.badSignerKey <| .notHex ·)
      (.badSignerKey .wrongLength) := by
  rw [ofHex_eq]
  exact makes_ofBytes?.readsAs (Text.trim text)

/-- A seed is loaded from what was written of it. -/
theorem ofHex_hex (seed : Seed) : ofHex seed.hex = .ok seed := by
  rw [ofHex_eq, hex, Hex.trim_encode]
  exact makes_ofBytes?.readAs_encode (congrArg (2 * ·) seed.length_bytes)

/-- The signer that is loaded from a text is that of the seed which the text spells. -/
theorem signer_eq_ok_iff {scheme : SignatureScheme} {operator : OperatorId} {text : String}
    {signer : Signer} : (ofHex text).map (Signer.ofSeed scheme operator) = .ok signer ↔
      Hex.Written (Text.trim text) ∧ (Text.trim text).utf8ByteSize = 64 ∧
        ∃ seed : Seed, seed.hex = (Text.trim text).toLower ∧
          Signer.ofSeed scheme operator seed = signer := by
  have reads := readsAs_ofHex text
  constructor
  · intro loaded
    cases read : ofHex text with
    | error fault =>
      rw [read] at loaded
      cases loaded
    | ok seed =>
      rw [read] at loaded
      obtain ⟨written, fit, lower⟩ := (reads.eq_ok_iff seed).mp read
      exact ⟨written, fit, seed, lower, Except.ok.inj loaded⟩
  · rintro ⟨written, fit, seed, lower, rfl⟩
    rw [(reads.eq_ok_iff seed).mpr ⟨written, fit, lower⟩]
    rfl

end Seed

/-! ### Keys -/

namespace Session

/-- The key that some bytes are, if there are any. -/
def keyOf? (bytes : Bytes) : Option Bytes := if bytes = [] then none else some bytes

theorem makes_keyOf? : Hex.Makes keyOf? (fun key => key) (0 < ·) where
  injective := Function.injective_id
  eq_of_some {bytes key} made := by
    rw [keyOf?] at made
    split_ifs at made
    exact (Option.some.inj made).symm
  exists_iff bytes := by
    cases bytes with
    | nil => simp [keyOf?]
    | cons byte rest => simp [keyOf?]

theorem readKey_eq (text : String) :
    readKey text = Hex.readAs keyOf? (.notHex text) .empty (Text.trim text) := by
  rw [readKey, Hex.readAs]
  cases Hex.decode (Text.trim text) with
  | error fault => rfl
  | ok key => cases key <;> rfl

theorem readsAs_readKey (text : String) :
    Hex.ReadsAs (readKey text) Hex.encode (Text.trim text) (0 < ·) (.notHex text) .empty := by
  rw [readKey_eq]
  exact makes_keyOf?.readsAs (Text.trim text)

end Session

/-- Bytes in base sixteen, and the names, seeds and keys that are read in it. Bytes are read
back from what is written of them, and a text is read exactly if it is whole bytes, as those that
are written as it in lower case; otherwise its length is blamed or the first byte that is no digit.
Of these texts those with thirty-two digits name sessions, each with a topic of its own. Those that
without the blanks around them have sixty-four are the seeds of signers, and those that have any are
keys. -/
theorem Hex.names_exact (scheme : SignatureScheme) (operator : OperatorId) :
    (∀ bytes, decode (encode bytes) = .ok bytes) ∧
    (∀ text, ((∃ bytes, decode text = .ok bytes) ↔ Written text) ∧
      (∀ bytes, decode text = .ok bytes → encode bytes = text.toLower) ∧
      ∀ fault, decode text = .error fault ↔ Blamed text fault) ∧
    ((∀ text, ReadsAs (SessionId.ofHex text) SessionId.hex text (· = 32) .notHex .wrongLength) ∧
      (∀ name : SessionId, SessionId.ofHex name.hex = .ok name) ∧
      ∀ left right ids others,
        (sessionTopic left ids).name = (sessionTopic right others).name → left = right) ∧
    ((∀ text, ReadsAs (Seed.ofHex text) Seed.hex (Text.trim text) (· = 64)
        (Error.badSignerKey <| .notHex ·) (.badSignerKey .wrongLength)) ∧
      (∀ seed : Seed, Seed.ofHex seed.hex = .ok seed) ∧
      ∀ text signer, (Seed.ofHex text).map (Signer.ofSeed scheme operator) = .ok signer ↔
        Written (Text.trim text) ∧ (Text.trim text).utf8ByteSize = 64 ∧
          ∃ seed : Seed, seed.hex = (Text.trim text).toLower ∧
            Signer.ofSeed scheme operator seed = signer) ∧
    ∀ text, ReadsAs (Session.readKey text) encode (Text.trim text) (0 < ·) (.notHex text)
      .empty := by
  refine ⟨decode_encode, fun text => ⟨exists_decode_iff, fun bytes => encode_of_decode,
      fun fault => decode_eq_error_iff⟩,
    ⟨SessionId.readsAs_ofHex, SessionId.ofHex_hex, fun left right ids others same => ?_⟩,
    ⟨Seed.readsAs_ofHex, Seed.ofHex_hex, fun text signer => ?_⟩, Session.readsAs_readKey⟩
  · exact SessionId.eq_of_topic same
  · exact Seed.signer_eq_ok_iff

end Resharing
