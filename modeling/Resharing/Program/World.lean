import Resharing.Delivery.Remote
import Resharing.Store.Files

/-!
# What is around a program

A program acts on a data directory and on a network.

## Main definitions

* `World`: the states of both
* `Machine`: what the program finds where it runs
-/

namespace Resharing

/-- The state of everything around a program. -/
structure World (ν : Type) where
  folder : Folder
  network : ν

namespace World

variable {ν : Type}

/-- The data directory as a part of everything. -/
def folderPart : Part (World ν) Folder :=
  ⟨World.folder, fun world folder => { world with folder }⟩

/-- The network as a part of everything. -/
def networkPart : Part (World ν) ν :=
  ⟨World.network, fun world network => { world with network }⟩

/-- The store in the data directory. -/
def store : Store (World ν) := FileStore.store.within folderPart

end World

/-- What a program finds where it runs. -/
structure Machine (ν : Type) where
  network : Http.Network ν
  /-- The directory at a path, which is made if nothing is there. -/
  openFolder : String → Except FileFault Folder
  /-- How keys are made and messages signed. -/
  scheme : SignatureScheme
  /-- A name that no session has had. -/
  session : SessionId
  /-- A seed that nobody knows. -/
  seed : Seed
  /-- When the user interrupts the program. -/
  interrupt : CancelPlan

def Machine.worldNetwork {ν : Type} (machine : Machine ν) : Http.Network (World ν) :=
  machine.network.within World.networkPart

end Resharing
