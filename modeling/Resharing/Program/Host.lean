import Resharing.CommandLine.Host
import Resharing.Program.Exit

/-!
# The program of a mailbox host

A host that can listen at its address runs until it is stopped; one that cannot says why.

## Main definitions

* `HostProgram.refusal?`: what a host that cannot start leaves for its caller
-/

namespace Resharing.HostProgram

/-- What a host that cannot start leaves for its caller, or `none` if it can. -/
def refusal? (environment : CommandLine.Given) (words : List String) : Option Exit :=
  match HostOptions.ofWords environment words with
  | .error .help => some (.guidance true)
  | .error _ => some (.guidance false)
  | .ok options =>
    options.fault?.map fun fault => .finished [] (some (.deaf fault.message))

end Resharing.HostProgram
