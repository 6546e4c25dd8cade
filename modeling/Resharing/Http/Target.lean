import Resharing.Http.Authority
import Resharing.Http.Message

/-!
# Targets

A target is a path, or a scheme and an authority in front of a path, or an authority alone. The
path ends at the first question mark, and everything ends at a number sign. A target without a
path has no segments.

## Main definitions

* `Target.Fault`, `Target.ofBytes`: how a target is read, and why it cannot be
-/

namespace Resharing.Http.Target

/-- Why bytes are no target. -/
inductive Fault where
  /-- A byte stands where it may not, or a part is missing. -/
  | malformed
  | tooLong
  deriving DecidableEq, Repr

/-- The status that a fault is answered with. -/
def Fault.status : Fault → Nat
  | .malformed => 400
  | .tooLong => 414

/-- How many bytes a target may have. -/
def maxLength : Nat := 65534

/-- How many bytes a scheme may have. -/
def maxSchemeLength : Nat := 64

/-- Whether a byte is one of the given characters. -/
def isAmong (characters : List Char) (byte : UInt8) : Bool :=
  characters.any fun c => byte == c.toUInt8

/-- Whether a byte may stand in a path. -/
def passesPath (byte : UInt8) : Bool := 0x20 < byte && !isAmong ['<', '>', '`'] byte

/-- Whether a byte may stand in a query. -/
def passesQuery (byte : UInt8) : Bool := 0x20 < byte && !isAmong ['<', '>', '"'] byte

/-- Whether a byte may stand in a scheme. -/
def passesScheme (byte : UInt8) : Bool := Form.isAlphanumeric byte || isAmong ['+', '-', '.'] byte

/-- The parts of a path and a query. -/
def ofPath (bytes : Bytes) : Except Fault Target :=
  let whole := bytes.takeWhile (· != '#'.toUInt8)
  let path := whole.takeWhile (· != '?'.toUInt8)
  let query := whole.drop (path.length + 1)
  if path.all passesPath ∧ query.all passesQuery ∧ (Bytes.text? whole).isSome then
    match path with
    | _ :: rest => .ok ⟨Form.pieces '/'.toUInt8 rest, query⟩
    | [] => .ok ⟨[], query⟩
  else .error .malformed

/-- The parts of an authority and of what follows it. -/
def ofAuthority (bytes : Bytes) : Except Fault Target :=
  let authority := bytes.takeWhile fun byte => !isAmong ['/', '?', '#'] byte
  if Authority.accepts authority then ofPath (bytes.drop authority.length) else .error .malformed

/-- The parts of what is sent as the target of a request. Nothing depends on the scheme and
the authority, so they are checked and left out. -/
def ofBytes (bytes : Bytes) : Except Fault Target :=
  let scheme := bytes.takeWhile passesScheme
  if maxLength < bytes.length then .error .tooLong
  else if bytes.head? = some '/'.toUInt8 then ofPath bytes
  else if (Bytes.ofText "://").isPrefixOf (bytes.drop scheme.length) then
    if scheme.length ≤ maxSchemeLength then ofAuthority (bytes.drop (scheme.length + 3))
    else .error .malformed
  else if Authority.accepts bytes then .ok ⟨[], []⟩
  else .error .malformed

end Resharing.Http.Target
