import Mathlib.Order.Bounds.Basic
import Resharing.Messenger.InMemory
import Resharing.Proofs.Message.WireFormat
import Resharing.Proofs.Messenger.Logged
import Resharing.Proofs.Operator.Map
import Resharing.Proofs.Store.Keeping

/-!
# The request that outputs are handed in under

The output of the first operator says which request is expected. Whoever belongs to none or to
another strays from it, and of those who stray the first is blamed. If nobody strays, the outputs
are handed in under that request, once and all together.

An output belongs to the request of its share, and to that of its signature only if it has no
share. So the request of a signature beside a share is looked at by nobody, and outputs are handed
in under one request although a signature among them names another.

## Main definitions

* `OperatorOutput.requests`: every request that an output names
* `OperatorOutput.OfOneRequest`: its share and its signature agree
* `Outputs.BelongTo`: there are outputs, and all of them belong to one request
* `Outputs.FirstStray`: the first operator, and the first one that strays from it

## Main results

* `OperatorMap.isLeast_of_find?`: the first entry of a kind has the least id
* `Outputs.belongTo_or_firstStray`: outputs belong to one request, or somebody strays
* `Outputs.commonRequest_exact`: which request is found, who is blamed otherwise, and what is
  handed in
* `Outputs.named_requests_iff`: what is handed in may name other requests in its signatures
-/

namespace Resharing

namespace OperatorMap

variable {α : Type} {map : OperatorMap α} {kind : OperatorId × α → Bool} {id : OperatorId} {a : α}

/-- The first entry of a kind has the least id. -/
theorem isLeast_of_find? (found : map.entries.find? kind = some (id, a)) :
    map.find? id = some a ∧ IsLeast {other | ∃ b ∈ map.find? other, kind (other, b) = true} id := by
  obtain ⟨ofKind, before, after, split, others⟩ := List.find?_eq_some_iff_append.mp found
  have there : map.find? id = some a := find?_eq_some_iff.mpr (by simp [split])
  refine ⟨there, ⟨a, there, ofKind⟩, fun other ⟨b, present, too⟩ => ?_⟩
  have member := find?_eq_some_iff.mp present
  rw [split, List.mem_append, List.mem_cons] at member
  rcases member with earlier | same | later
  · exact absurd too (by simpa using others _ earlier)
  · exact UInt64.le_of_eq (congrArg Prod.fst same).symm
  · have ascending := map.ascending
    rw [split, List.pairwise_append] at ascending
    exact UInt64.le_of_lt ((List.pairwise_cons.mp ascending.2.1).1 _ later)

/-- The least id is that of the first entry. -/
theorem isLeast_head {rest : List (OperatorId × α)} (entries : map.entries = (id, a) :: rest) :
    map.find? id = some a ∧ IsLeast {other | other ∈ map.ids} id := by
  have found : map.entries.find? (fun _ => true) = some (id, a) := by rw [entries]; rfl
  obtain ⟨there, least⟩ := isLeast_of_find? found
  refine ⟨there, ?_⟩
  simpa [← find?_isSome_iff, Option.isSome_iff_exists] using least

end OperatorMap

/-! ### The requests of an output -/

namespace OperatorOutput

/-- Every request that an output names, that of its share before that of its signature. -/
def requests (output : OperatorOutput) : List SessionId :=
  (output.share.map ShareData.request).toList ++
    (output.keySignature.map KeySignature.request).toList

/-- The share and the signature of an output, if it has both, are for one request. -/
def OfOneRequest (output : OperatorOutput) : Prop :=
  ∀ share ∈ output.share, ∀ signature ∈ output.keySignature, signature.request = share.request

/-- The request of an output, as it is shown to whoever is blamed. -/
def requestText (output : OperatorOutput) (absent : String) : String :=
  (output.request?.map SessionId.hex).getD absent

variable {output : OperatorOutput} {request : SessionId}

/-- What an output names that belongs to a request is that request, unless it is named in a
signature beside a share. -/
theorem request?_eq_some_iff : output.request? = some request ↔
    (∀ share ∈ output.share, share.request = request) ∧
      (output.share = none → output.requests = [request]) := by
  obtain ⟨_ | share, _ | keySignature, signer, signature⟩ := output <;> simp [request?, requests]

theorem forall_requests_iff (belongs : output.request? = some request) :
    (∀ named ∈ output.requests, named = request) ↔ output.OfOneRequest := by
  obtain ⟨_ | share, _ | keySignature, signer, signature⟩ := output <;>
    simp_all [request?, requests, OfOneRequest]

end OperatorOutput

/-! ### Who strays -/

namespace Outputs

variable {outputs : Outputs} {request : SessionId} {first operator : OperatorId}
  {leading output : OperatorOutput} {error : Error}

/-- There are outputs, and all of them belong to one request. -/
structure BelongTo (outputs : Outputs) (request : SessionId) : Prop where
  inhabited : outputs.ids ≠ []
  belongs : ∀ id, ∀ output ∈ outputs.find? id, output.request? = some request

/-- The output of an operator belongs to no request, or not to the one that is expected. -/
def Strays (outputs : Outputs) (expected : Option SessionId) (id : OperatorId) : Prop :=
  ∃ output ∈ outputs.find? id, output.request? = none ∨ output.request? ≠ expected

/-- The first operator with its output, and the first operator that strays from it. The first
operator strays itself if its output belongs to no request. -/
structure FirstStray (outputs : Outputs) (first : OperatorId) (leading : OperatorOutput)
    (operator : OperatorId) (output : OperatorOutput) : Prop where
  leads : IsLeast {id | id ∈ outputs.ids} first
  leading_eq : outputs.find? first = some leading
  strays : IsLeast {id | outputs.Strays leading.request? id} operator
  output_eq : outputs.find? operator = some output

/-- Whether an entry is that of an operator that strays. -/
def isStray (expected : Option SessionId) (entry : OperatorId × OperatorOutput) : Bool :=
  entry.2.request? = none || entry.2.request? ≠ expected

theorem strays_iff {expected : Option SessionId} :
    outputs.Strays expected operator ↔
      ∃ output ∈ outputs.find? operator, isStray expected (operator, output) = true := by
  simp [Strays, isStray]

/-- Who strays first is found by going through the entries. -/
theorem firstStray_of_find? {rest : List (OperatorId × OperatorOutput)}
    (entries : outputs.entries = (first, leading) :: rest)
    (found : outputs.entries.find? (isStray leading.request?) = some (operator, output)) :
    outputs.FirstStray first leading operator output := by
  obtain ⟨leading_eq, leads⟩ := OperatorMap.isLeast_head entries
  obtain ⟨output_eq, strays⟩ := OperatorMap.isLeast_of_find? found
  exact ⟨leads, leading_eq, by simpa only [strays_iff] using strays, output_eq⟩

/-- There is one answer to who strays first. -/
theorem FirstStray.unique {otherFirst otherOperator : OperatorId}
    {otherLeading otherOutput : OperatorOutput}
    (stray : outputs.FirstStray first leading operator output)
    (other : outputs.FirstStray otherFirst otherLeading otherOperator otherOutput) :
    leading = otherLeading ∧ operator = otherOperator ∧ output = otherOutput := by
  obtain rfl := UInt64.le_antisymm (stray.leads.2 other.leads.1) (other.leads.2 stray.leads.1)
  obtain rfl := Option.some.inj (stray.leading_eq.symm.trans other.leading_eq)
  obtain rfl := UInt64.le_antisymm (stray.strays.2 other.strays.1) (other.strays.2 stray.strays.1)
  exact ⟨rfl, rfl, Option.some.inj (stray.output_eq.symm.trans other.output_eq)⟩

/-- Either there are no outputs, or all of them belong to one request, or somebody strays. -/
theorem belongTo_or_firstStray (outputs : Outputs) :
    outputs.ids = [] ∨ (∃ request, outputs.BelongTo request) ∨
      ∃ first leading operator output, outputs.FirstStray first leading operator output := by
  cases entries : outputs.entries with
  | nil => exact .inl (by rw [OperatorMap.ids, entries, List.map_nil])
  | cons entry rest =>
    obtain ⟨first, leading⟩ := entry
    cases found : outputs.entries.find? (isStray leading.request?) with
    | some entry => exact .inr (.inr ⟨_, _, _, _, firstStray_of_find? entries found⟩)
    | none =>
      have nobody : ∀ id, ∀ output ∈ outputs.find? id,
          output.request? ≠ none ∧ output.request? = leading.request? := by
        intro id output there
        have stays := List.find?_eq_none.mp found _ (OperatorMap.find?_eq_some_iff.mp there)
        simpa [isStray] using stays
      obtain ⟨leads, -⟩ := OperatorMap.isLeast_head entries
      obtain ⟨request, named⟩ := Option.ne_none_iff_exists'.mp (nobody first leading leads).1
      refine .inr (.inl ⟨request, by simp [OperatorMap.ids, entries], fun id output there => ?_⟩)
      rw [(nobody id output there).2, named]

/-! ### The request that is found -/

/-- With a request expected, the first entry that strays is blamed. -/
theorem commonRequestFrom_some (request : SessionId)
    (entries : List (OperatorId × OperatorOutput)) :
    commonRequestFrom (some request) entries =
      match entries.find? (isStray (some request)) with
      | none => .ok request
      | some (operator, output) =>
        .error (.inconsistentIdentifier request.hex operator (output.requestText "none")) := by
  induction entries with
  | nil => rfl
  | cons entry rest ih =>
    obtain ⟨operator, output⟩ := entry
    rw [commonRequestFrom, List.find?_cons]
    cases belongs : output.request? with
    | none => simp [isStray, belongs, OperatorOutput.requestText]
    | some found =>
      -- What is expected stays the same until somebody strays.
      by_cases same : request = found
      · subst same
        simpa [isStray, belongs] using ih
      · simp [isStray, belongs, same, Ne.symm same, OperatorOutput.requestText]

theorem BelongTo.commonRequest_eq (belong : outputs.BelongTo request) :
    commonRequest outputs = .ok request := by
  have belongs : ∀ entry ∈ outputs.entries, entry.2.request? = some request :=
    fun entry member => belong.belongs entry.1 entry.2 (OperatorMap.find?_eq_some_iff.mpr member)
  cases entries : outputs.entries with
  | nil => exact absurd (by rw [OperatorMap.ids, entries, List.map_nil]) belong.inhabited
  | cons entry rest =>
    rw [entries] at belongs
    obtain ⟨first, later⟩ := List.forall_mem_cons.mp belongs
    have nobody : rest.find? (isStray (some request)) = none := by
      refine List.find?_eq_none.mpr fun other member => ?_
      simp [isStray, later other member]
    simp only [commonRequest, entries, commonRequestFrom, first, commonRequestFrom_some, nobody]

/-- The first entry says which request is expected, and is blamed itself if it says none. -/
theorem commonRequest_of_find? {rest : List (OperatorId × OperatorOutput)}
    (entries : outputs.entries = (first, leading) :: rest)
    (found : outputs.entries.find? (isStray leading.request?) = some (operator, output)) :
    commonRequest outputs = .error (.inconsistentIdentifier (leading.requestText "") operator
      (output.requestText "none")) := by
  rw [entries, List.find?_cons] at found
  rw [commonRequest, entries, commonRequestFrom]
  cases belongs : leading.request? with
  | none =>
    simp only [isStray, belongs, decide_true, Bool.true_or] at found
    obtain ⟨rfl, rfl⟩ := Prod.mk.inj (Option.some.inj found)
    simp [OperatorOutput.requestText, belongs]
  | some request =>
    have stays : isStray leading.request? (first, leading) = false := by simp [isStray, belongs]
    rw [stays, belongs] at found
    simp only [commonRequestFrom_some, found]
    simp [OperatorOutput.requestText, belongs]

theorem FirstStray.commonRequest_eq (stray : outputs.FirstStray first leading operator output) :
    commonRequest outputs = .error (.inconsistentIdentifier (leading.requestText "") operator
      (output.requestText "none")) := by
  cases entries : outputs.entries with
  | nil =>
    have said := OperatorMap.find?_eq_some_iff.mp stray.leading_eq
    simp [entries] at said
  | cons entry rest =>
    obtain ⟨head, said⟩ := entry
    obtain ⟨said_eq, leads⟩ := OperatorMap.isLeast_head entries
    obtain rfl := UInt64.le_antisymm (stray.leads.2 leads.1) (leads.2 stray.leads.1)
    obtain rfl := Option.some.inj (stray.leading_eq.symm.trans said_eq)
    obtain ⟨other, there, strays⟩ := strays_iff.mp stray.strays.1
    cases found : outputs.entries.find? (isStray leading.request?) with
    | none =>
      exact absurd strays (List.find?_eq_none.mp found _ (OperatorMap.find?_eq_some_iff.mp there))
    | some entry =>
      obtain ⟨-, rfl, rfl⟩ := stray.unique (firstStray_of_find? entries found)
      exact commonRequest_of_find? entries found

theorem commonRequest_of_empty (empty : outputs.ids = []) :
    commonRequest outputs = .error .noOperators := by
  have entries : outputs.entries = [] := List.map_eq_nil_iff.mp empty
  rw [commonRequest, entries]
  rfl

theorem commonRequest_eq_ok_iff :
    commonRequest outputs = .ok request ↔ outputs.BelongTo request := by
  refine ⟨fun found => ?_, BelongTo.commonRequest_eq⟩
  rcases belongTo_or_firstStray outputs with empty | ⟨other, belong⟩ | ⟨_, _, _, _, stray⟩
  · cases found.symm.trans (commonRequest_of_empty empty)
  · obtain rfl := Except.ok.inj (found.symm.trans belong.commonRequest_eq)
    exact belong
  · cases found.symm.trans stray.commonRequest_eq

theorem commonRequest_eq_error_iff : commonRequest outputs = .error error ↔
    (outputs.ids = [] ∧ error = .noOperators) ∨
      ∃ first leading operator output, outputs.FirstStray first leading operator output ∧
        error = .inconsistentIdentifier (leading.requestText "") operator
          (output.requestText "none") := by
  constructor
  · intro refused
    rcases belongTo_or_firstStray outputs with empty | ⟨request, belong⟩ | ⟨_, _, _, _, stray⟩
    · exact .inl ⟨empty, Except.error.inj (refused.symm.trans (commonRequest_of_empty empty))⟩
    · cases refused.symm.trans belong.commonRequest_eq
    · exact .inr ⟨_, _, _, _, stray, Except.error.inj (refused.symm.trans stray.commonRequest_eq)⟩
  · rintro (⟨empty, rfl⟩ | ⟨_, _, _, _, stray, rfl⟩)
    · exact commonRequest_of_empty empty
    · exact stray.commonRequest_eq

end Outputs

/-! ### What is handed in -/

namespace Messenger

variable {σ : Type} {outputs : Outputs} {request : SessionId} {error : Error}

/-- Outputs that belong to one request are handed in under it, by one call. -/
theorem perform_streamOutputs_logged (messenger : Messenger σ)
    (found : commonRequest outputs = .ok request) (state : σ) (log : List Messenger.Request) :
    (messenger.logged.streamOutputs outputs).perform (state, log) =
      let handed := (messenger.stream .output request.hex
        (Outputs.format.encode outputs)).perform state
      (handed.1, handed.2,
        log ++ [.stream .output request.hex (Outputs.format.encode outputs)]) := by
  have asked : (Effect.ofResult (commonRequest outputs)).perform (state, log) =
      (.ok request, state, log) := by
    rw [found]
    rfl
  exact (Effect.perform_bind_ok asked).trans (Effect.perform_noting _ _ _ _)

/-- Nothing is handed in of outputs that do not belong to one request. -/
theorem perform_streamOutputs_of_refused (messenger : Messenger σ)
    (refused : commonRequest outputs = .error error) (state : σ) :
    (messenger.streamOutputs outputs).perform state = (.error error, state) := by
  have asked : (Effect.ofResult (commonRequest outputs)).perform state = (.error error, state) := by
    rw [refused]
    rfl
  exact Effect.perform_bind_error asked

end Messenger

namespace Outputs

variable {σ : Type} {outputs : Outputs} {request : SessionId}

theorem BelongTo.unique {other : SessionId} (belong : outputs.BelongTo request)
    (too : outputs.BelongTo other) : request = other :=
  Except.ok.inj (belong.commonRequest_eq.symm.trans too.commonRequest_eq)

/-- The request that outputs are handed in under. It is found if and only if there are outputs and
all of them belong to it. If there are outputs and they do not, the first operator is blamed whose
output belongs to no request or to another than the output of the first operator: what is said is
the request of the first operator, or nothing if it has none, and that of the one who is blamed, or
`none`. A messenger is asked once for outputs with a request, with bytes from which the outputs are
read back, and is not asked at all for others. -/
theorem commonRequest_exact (outputs : Outputs) :
    (∀ request, commonRequest outputs = .ok request ↔ outputs.BelongTo request) ∧
    (commonRequest outputs = .error .noOperators ↔ outputs.ids = []) ∧
    (∀ error, error ≠ .noOperators → (commonRequest outputs = .error error ↔
      ∃ first leading operator output, outputs.FirstStray first leading operator output ∧
        error = .inconsistentIdentifier (leading.requestText "") operator
          (output.requestText "none"))) ∧
    ∀ {σ : Type} (messenger : Messenger σ) (state : σ) (log : List Messenger.Request),
      (∀ request, commonRequest outputs = .ok request →
        ∃ bytes, Outputs.format.decode bytes = .ok outputs ∧
          (messenger.logged.streamOutputs outputs).perform (state, log) =
            (((messenger.stream .output request.hex bytes).perform state).1,
              ((messenger.stream .output request.hex bytes).perform state).2,
              log ++ [.stream .output request.hex bytes])) ∧
      ∀ error, commonRequest outputs = .error error →
        (messenger.logged.streamOutputs outputs).perform (state, log) =
          (.error error, state, log) := by
  refine ⟨fun request => commonRequest_eq_ok_iff, ?_, fun error blamed => ?_,
    fun messenger state log => ⟨fun request found => ?_, fun error refused => ?_⟩⟩
  · simp [commonRequest_eq_error_iff]
  · simp [commonRequest_eq_error_iff, blamed]
  · exact ⟨_, Outputs.faithful_format.lossless.decode_encode outputs,
      messenger.perform_streamOutputs_logged found state log⟩
  · exact messenger.logged.perform_streamOutputs_of_refused refused (state, log)

/-- Outputs are handed in under a request if and only if they belong to it. Then every share is for
that request, and so is every signature of an output without a share. Everything that is named is
that request if and only if no output has a share and a signature for different requests. -/
theorem named_requests_iff (messenger : Messenger σ) (outputs : Outputs) (state : σ) :
    (∀ asked, asked ∈ ((messenger.logged.streamOutputs outputs).perform (state, [])).2.2 ↔
      ∃ request, outputs.BelongTo request ∧
        asked = .stream .output request.hex (Outputs.format.encode outputs)) ∧
    ∀ request, outputs.BelongTo request →
      (∀ id, ∀ output ∈ outputs.find? id,
        (∀ share ∈ output.share, share.request = request) ∧
          (output.share = none → output.requests = [request])) ∧
      ((∀ id, ∀ output ∈ outputs.find? id, ∀ named ∈ output.requests, named = request) ↔
        ∀ id, ∀ output ∈ outputs.find? id, output.OfOneRequest) := by
  refine ⟨fun asked => ?_, fun request belong => ⟨fun id output there => ?_, ?_⟩⟩
  · cases found : commonRequest outputs with
    | ok request =>
      have belong := commonRequest_eq_ok_iff.mp found
      rw [messenger.perform_streamOutputs_logged found, List.nil_append, List.mem_singleton]
      constructor
      · rintro rfl
        exact ⟨request, belong, rfl⟩
      · rintro ⟨other, too, rfl⟩
        rw [belong.unique too]
    | error error =>
      rw [messenger.logged.perform_streamOutputs_of_refused found]
      constructor
      · nofun
      · rintro ⟨request, belong, -⟩
        cases found.symm.trans belong.commonRequest_eq
  · exact OperatorOutput.request?_eq_some_iff.mp (belong.belongs id output there)
  · exact forall_congr' fun id => forall_congr' fun output => forall_congr' fun there =>
      OperatorOutput.forall_requests_iff (belong.belongs id output there)

/-- An output whose signature names another request than its share is handed in under the request
of the share. -/
theorem foreign_signature_handed_in :
    let own : SessionId := ⟨List.replicate 16 1, rfl⟩
    let foreign : SessionId := ⟨List.replicate 16 2, rfl⟩
    let output : OperatorOutput :=
      ⟨some ⟨own, "aa", "bb", "cc"⟩, some ⟨foreign, "ee"⟩, 1, "dd"⟩
    let outputs : Outputs := ⟨[(1, output)], by decide⟩
    ((InMemory.messenger.logged.streamOutputs outputs).perform (.start false 0, [])).2.2 =
        [.stream .output own.hex (Outputs.format.encode outputs)] ∧
      outputs.find? 1 = some output ∧ foreign ∈ output.requests ∧ foreign ≠ own := by
  intro own foreign output outputs
  have found : commonRequest outputs = .ok own := rfl
  refine ⟨?_, rfl, by simp [output, OperatorOutput.requests], by decide⟩
  rw [InMemory.messenger.perform_streamOutputs_logged found]
  rfl

end Outputs

end Resharing
