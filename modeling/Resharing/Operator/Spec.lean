import Resharing.Error
import Resharing.Operator.Basic
import Resharing.Text.Blank

/-!
# Operator specifications

An operator is specified on the command line as `id=address`. Blank characters
around the whole, the id and the address do not count; there has to be exactly
one equals sign, and the address may not be empty.

## Main definitions

* `Operator.Spec.parse`: the id and address of a specification
* `Operator.Spec.parseAll`: the map of several, the last of equal ids winning
-/

namespace Resharing.Operator.Spec

/-- The parts of a text between equals signs; there is one more part than signs. -/
def parts : List Char → List (List Char)
  | [] => [[]]
  | c :: rest =>
    if c = '=' then [] :: parts rest
    else
      match parts rest with
      | part :: later => (c :: part) :: later
      | [] => [[c]]

/-- The id and address of a specification. -/
def parse (spec : String) : Except Error (OperatorId × String) :=
  let trimmed := Text.trimChars spec.toList
  let named := String.ofList trimmed
  match parts trimmed with
  | [id, address] =>
    let address := Text.trimChars address
    if address = [] then .error (.malformedSpec named)
    else
      match Decimal.read UInt64.size (Text.trimChars id) with
      | .error reason => .error (.badOperatorId named reason)
      | .ok value => .ok (UInt64.ofNat value, String.ofList address)
  | _ => .error (.malformedSpec named)

/-- The addresses of all specified operators. -/
def parseAll (specs : List String) : Except Error (OperatorMap String) :=
  (specs.mapM parse).map OperatorMap.ofList

end Resharing.Operator.Spec
