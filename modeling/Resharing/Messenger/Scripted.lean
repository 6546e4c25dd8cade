import Resharing.Messenger.Basic

/-!
# Messengers that refuse by script

A script says, registration by registration, whether it is refused and why; after its
end, and for everything else, another messenger answers.
-/

namespace Resharing

/-- A messenger's state behind a script. -/
structure Scripted (σ : Type) where
  /-- Why each of the next registrations is refused, or `none` if it is not. -/
  script : List (Option Error)
  /-- The state of the messenger behind it. -/
  inner : σ

namespace Scripted

variable {σ α : Type}

/-- The messenger behind the script. -/
def inside : Part (Scripted σ) σ := ⟨Scripted.inner, fun state inner => { state with inner }⟩

/-- A computation on the messenger behind the script. -/
def behind (effect : Effect σ α) : Effect (Scripted σ) α := effect.within inside

/-- Registers a node unless the script refuses. -/
def registerNode (messenger : Messenger σ) (node : Subscriber) (topic : String) :
    Effect (Scripted σ) Unit := do
  let state ← get
  set { state with script := state.script.tail }
  match state.script with
  | some refusal :: _ => throw refusal
  | _ => behind (messenger.registerNode node topic)

def messenger (inner : Messenger σ) : Messenger (Scripted σ) where
  createTopic topic := behind (inner.createTopic topic)
  getTopic name := behind (inner.getTopic name)
  registerNode := registerNode inner
  publish topic payload := behind (inner.publish topic payload)
  stream kind request payload := behind (inner.stream kind request payload)

end Scripted

end Resharing
