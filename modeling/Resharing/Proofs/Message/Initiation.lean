import Resharing.Message.Initiation
import Resharing.Proofs.Message.WireFormat
import Resharing.Proofs.Session.Operators

/-!
# What operators find in an initiation

An initiation is put together in three layers, each of which holds the written form of the next.
Whoever takes it apart finds the terms of the session under a signature that verifies, because
every layer is read back as it was written. For one signer the payload is a function of the
terms and of nothing else, and it tells them: addresses never reach an operator, while every
other part of the session does.

The signature scheme is a parameter. Of it only the law is used that it accepts what it has
signed itself.

## Main definitions

* `Initiation.Layers`: what is found in a payload, layer by layer
* `Session.SameTerms`: sessions that differ in their addresses at most

## Main results

* `Initiation.layers_payload`: the layers of an initiation are those it was made of
* `Initiation.payload_eq_iff`: when two sessions have one payload
* `Initiation.payload_tells_session`: both, for a request that was accepted
-/

namespace Resharing

namespace Session

/-- Sessions that differ in their addresses at most. -/
structure SameTerms (left right : Session) : Prop where
  id : left.id = right.id
  operators : left.operators.ids = right.operators.ids
  oldOperators : left.oldOperators.ids = right.oldOperators.ids
  threshold : left.threshold = right.threshold
  validatorKey : left.validatorKey = right.validatorKey

/-- The terms that operators are told leave only the name and the addresses open. -/
theorem sameTerms_iff {left right : Session} :
    left.SameTerms right ↔ left.id = right.id ∧
      SessionTerms.ofSession left = SessionTerms.ofSession right := by
  constructor
  · rintro ⟨id, operators, oldOperators, threshold, validatorKey⟩
    exact ⟨id, by simp only [SessionTerms.ofSession, *]⟩
  · rintro ⟨id, terms⟩
    obtain ⟨operators, threshold, validatorKey, oldOperators⟩ := SessionTerms.mk.inj terms
    exact ⟨id, operators, oldOperators, threshold, Hex.encode_injective validatorKey⟩

end Session

namespace Initiation

/-- What is found in a payload, one layer after the other. -/
structure Layers (payload : Bytes) (envelope : Envelope) (signed : SignedMessage)
    (terms : SessionTerms) : Prop where
  outer : Envelope.format.decode payload = .ok envelope
  middle : envelope.signed = .ok signed
  inner : SessionTerms.format.decode signed.message.data = .ok terms

variable {scheme : SignatureScheme} {id : OperatorId} {seed : Seed} {session : Session}

/-- The message of a session with its signature. -/
def signedMessage (scheme : SignatureScheme) (id : OperatorId) (seed : Seed) (session : Session) :
    SignedMessage :=
  ⟨message session, id, scheme.sign seed (message session).root⟩

/-- A signer with a seed never refuses, so there is an initiation. -/
theorem compose_ofSeed (scheme : SignatureScheme) (id : OperatorId) (seed : Seed)
    (session : Session) :
    compose session (.ofSeed scheme id seed) = .ok
      ⟨session.id, Envelope.format.encode (.ofSigned (signedMessage scheme id seed session))⟩ :=
  rfl

/-- An initiation with the message of a session is taken apart, whoever has signed it. -/
theorem layers_of_signed {signed : SignedMessage} (given : signed.message = message session) :
    Layers (Envelope.format.encode (.ofSigned signed)) (.ofSigned signed) signed
      (.ofSession session) where
  outer := Envelope.faithful_format.lossless.decode_encode _
  middle := by
    simp only [Envelope.ofSigned, Envelope.signed,
      SignedMessage.faithful_format.lossless.decode_encode signed]
    rfl
  inner := by
    rw [given]
    exact SessionTerms.faithful_format.lossless.decode_encode _

/-- Taking an initiation apart gives what it was made of. -/
theorem layers_payload (scheme : SignatureScheme) (id : OperatorId) (seed : Seed)
    (session : Session) :
    Layers (Envelope.format.encode (.ofSigned (signedMessage scheme id seed session)))
      (.ofSigned (signedMessage scheme id seed session)) (signedMessage scheme id seed session)
      (.ofSession session) :=
  layers_of_signed rfl

/-- A payload has one reading. -/
theorem Layers.unique {payload : Bytes} {envelope otherEnvelope : Envelope}
    {signed otherSigned : SignedMessage} {terms otherTerms : SessionTerms}
    (layers : Layers payload envelope signed terms)
    (other : Layers payload otherEnvelope otherSigned otherTerms) :
    envelope = otherEnvelope ∧ signed = otherSigned ∧ terms = otherTerms := by
  obtain rfl := Except.ok.inj (layers.outer.symm.trans other.outer)
  obtain rfl := Except.ok.inj (layers.middle.symm.trans other.middle)
  obtain rfl := Except.ok.inj (layers.inner.symm.trans other.inner)
  exact ⟨rfl, rfl, rfl⟩

/-- What a signer has signed verifies with its public key. -/
theorem verify_signedMessage (own : scheme.AcceptsOwn) :
    (signedMessage scheme id seed session).verify scheme (scheme.publicKey seed) = .ok () := by
  simp [SignedMessage.verify, signedMessage, own.length_sign, own.accepts_sign]

/-- With one signer, two sessions have one payload exactly if they have the same terms. -/
theorem payload_eq_iff {left right : Session} :
    Envelope.format.encode (.ofSigned (signedMessage scheme id seed left)) =
        Envelope.format.encode (.ofSigned (signedMessage scheme id seed right)) ↔
      left.SameTerms right := by
  rw [Session.sameTerms_iff]
  constructor
  · intro same
    -- The layers come off one by one, since none of the formats loses anything.
    have envelopes := Envelope.faithful_format.encode_injective same
    have written := (Envelope.mk.inj envelopes).2
    have signed := SignedMessage.faithful_format.encode_injective written
    have messages : message left = message right := (SignedMessage.mk.inj signed).1
    obtain ⟨-, names, terms⟩ := KeyMessage.mk.inj messages
    exact ⟨names, SessionTerms.faithful_format.encode_injective terms⟩
  · rintro ⟨names, terms⟩
    have messages : message left = message right := by simp only [message, names, terms]
    simp only [signedMessage, messages]

/-- What operators unwrap is the session, signed. Of every session that was accepted and every
signer with a seed there is an initiation; its layers are those of a signed resharing message
with the name of the session, the ascending ids of the new and the old operators, the threshold
and the key as it was requested; and the signature verifies. Another session has the same
payload if and only if it differs in its addresses at most. -/
theorem payload_tells_session (own : scheme.AcceptsOwn) {name : SessionId} {request : Request}
    (accepted : Session.accept name request = .ok session) (id : OperatorId) (seed : Seed) :
    (∃ initiation envelope signed terms,
      compose session (.ofSeed scheme id seed) = .ok initiation ∧
      initiation.session = name ∧ session.id = name ∧
      Layers initiation.payload envelope signed terms ∧
      envelope.kind = .keyMessage ∧ signed.signer = id ∧
      signed.message.ceremony = .reshare ∧ signed.message.session = session.id ∧
      terms.operatorIds = session.operators.ids ∧ terms.operatorIds.Pairwise (· < ·) ∧
      terms.oldOperatorIds = session.oldOperators.ids ∧ terms.oldOperatorIds.Pairwise (· < ·) ∧
      terms.threshold = session.threshold ∧
      terms.validatorKey = Hex.encode session.validatorKey ∧
      terms.validatorKey = (Text.trim request.validatorKey).toLower ∧
      signed.verify scheme (scheme.publicKey seed) = .ok ()) ∧
    ∀ other left right, compose session (.ofSeed scheme id seed) = .ok left →
      compose other (.ofSeed scheme id seed) = .ok right →
        (left.payload = right.payload ↔ session.SameTerms other) := by
  have found := Session.accept_eq_ok accepted
  constructor
  · exact ⟨_, _, _, _, compose_ofSeed scheme id seed session, found.id, found.id,
      layers_payload scheme id seed session, rfl, rfl, rfl, rfl, rfl,
      session.operators.pairwise_ids, rfl, session.oldOperators.pairwise_ids, rfl, rfl,
      found.encode_validatorKey, verify_signedMessage own⟩
  · intro other left right composed composedOther
    obtain rfl := Except.ok.inj composed
    obtain rfl := Except.ok.inj composedOther
    exact payload_eq_iff

/-! ### A signature that was made -/

/-- A scheme in which one seed has a given public key and, for one root, a given signature;
everything else is signed with zeros. -/
def recorded (known : Seed) (key root signature : Bytes) : SignatureScheme :=
  let signatureOf (someKey someRoot : Bytes) : Bytes :=
    if someKey = key ∧ someRoot = root then signature else List.replicate 64 0
  let publicKey (seed : Seed) : Bytes := if seed = known then key else seed.bytes
  ⟨fun _ => true, publicKey, fun seed => signatureOf (publicKey seed),
    fun someKey someRoot given => given == signatureOf someKey someRoot⟩

theorem acceptsOwn_recorded {known : Seed} {key root signature : Bytes}
    (length : signature.length = 64) : (recorded known key root signature).AcceptsOwn where
  length_sign seed message := by
    simp only [recorded]
    split_ifs
    all_goals simp [length]
  accepts_sign seed message := by simp [recorded]

/-- The bytes that digits of base sixteen spell. -/
def bytesOfHex (text : String) : Bytes := (Hex.decode text).toOption.getD []

/-- The key was requested with blanks around it and in mixed case, and one operator is in both
sets. The addresses do not matter. -/
theorem payload_tells_session_spaced_key :
    let seed : Seed := ⟨bytesOfHex
      "9d61b19deffd5a60ba844af492ec2cc44449c5697b326919703bac031cae7f60", by decide +kernel⟩
    let key := bytesOfHex "d75a980182b10ab7d54bfed3c964073a0ee172f3daa62325af021a68f707511a"
    let root := bytesOfHex "fbe8550ee7cb42940a366ef58c9eb602aa22751db1f694df4d6d045840291692"
    let signature := bytesOfHex <|
      "d93f74b80976fbed155c7cbe28b9b3d9313f230eb7c0c6aeb688f89f71642ec0" ++
        "a579241cbe9ad66e7d0b77ed9af91ca2ddc0c87ad10bc5ec01d8e9abf312d505"
    let scheme := recorded seed key root signature
    let request : Request :=
      ⟨["1=http://a", "2=http://b"], ["1=http://a", "3=http://c"], 2, " AbCd "⟩
    let session : Session := ⟨⟨List.replicate 16 0xff, rfl⟩,
      ⟨[(1, "http://a"), (2, "http://b")], by decide⟩,
      ⟨[(1, "http://a"), (3, "http://c")], by decide⟩, 2, [0xab, 0xcd]⟩
    let moved : Session := { session with
      operators := ⟨[(1, "http://elsewhere"), (2, "http://b")], by decide⟩ }
    scheme.AcceptsOwn ∧ Session.accept session.id request = .ok session ∧
      ∃ initiation envelope signed terms other,
        compose session (.ofSeed scheme 0 seed) = .ok initiation ∧
        Layers initiation.payload envelope signed terms ∧
        terms = ⟨[1, 2], 2, "abcd", [1, 3]⟩ ∧ signed.signature = signature ∧
        signed.verify scheme key = .ok () ∧
        compose moved (.ofSeed scheme 0 seed) = .ok other ∧
        initiation.payload = other.payload := by
  intro seed key root signature scheme request session moved
  have own : scheme.AcceptsOwn := acceptsOwn_recorded (by decide +kernel)
  have accepted : Session.accept session.id request = .ok session := by
    have operators : Operator.Spec.parseAll request.operators = .ok session.operators :=
      Operator.Spec.parseAll_eq_ok (by decide +kernel)
    have others : Operator.Spec.parseAll request.oldOperators = .ok session.oldOperators :=
      Operator.Spec.parseAll_eq_ok (by decide +kernel)
    have read : Session.readKey request.validatorKey = .ok session.validatorKey := by
      decide +kernel
    simp only [Session.accept, operators, others, read]
    rfl
  obtain ⟨⟨initiation, envelope, signed, terms, composed, -, -, layers, -, -, -, -, -, -, -, -, -,
    -, -, verified⟩, alike⟩ := payload_tells_session own accepted 0 seed
  obtain rfl := Except.ok.inj composed
  obtain ⟨rfl, rfl, rfl⟩ := layers.unique (layers_payload scheme 0 seed session)
  have signedRoot : (message session).root = root := by decide +kernel
  refine ⟨own, accepted, _, _, _, _, _, rfl, layers, by decide +kernel, ?_, ?_, rfl, ?_⟩
  · change scheme.sign seed (message session).root = signature
    rw [signedRoot]
    simp [scheme, recorded]
  · simpa [scheme, recorded] using verified
  · exact (alike moved _ _ rfl rfl).mpr ⟨rfl, rfl, rfl, rfl, rfl⟩

end Initiation

end Resharing
