import Resharing.Json.Reader

/-!
# Formats: values with a written form

A format pairs the JSON value written for something with the reader that gets it
back. Formats of records are put together from fields. A record may be read from
its members in any order, unknown ones being checked and dropped, or from the
list of its fields' values.

## Main definitions

* `Json.Format`, with `Format.encode` and `Format.decode`
* `Json.Fields`: the fields of a record and what stands for an absent one
* `Format.record`, `Format.list`, `Format.option`, `Format.choice`, `Format.convert`
-/

namespace Resharing.Json

/-- The JSON value written for something, and the reader that gets it back. -/
structure Format (α : Type) where
  value : α → Value
  read : Reader α

namespace Format

variable {α β : Type}

def encode (format : Format α) (a : α) : Bytes := (format.value a).compact

/-- Reads a value and leaves what follows it unread. -/
def decodeLeading (format : Format α) (bytes : Bytes) : Except Fault α :=
  (format.read bytes).map (·.1)

/-- Reads a value that only spaces may follow. -/
def decode (format : Format α) (bytes : Bytes) : Except Fault α := do
  let (a, rest) ← format.read bytes
  if skipSpace rest = [] then .ok a else .error .malformed

/-- The same written form for another type. Reading may refuse a value as of the
wrong shape. -/
def convert (format : Format α) (toOld : β → α) (ofOld : α → Option β) : Format β where
  value b := format.value (toOld b)
  read bytes := do
    let (a, rest) ← format.read bytes
    match ofOld a with
    | some b => return (b, rest)
    | none => .error .mismatch

def natural (limit : Nat) : Format Nat := ⟨.number, readNatural limit⟩

def bool : Format Bool := ⟨.bool, readBool⟩

def text : Format String := ⟨.text, readText⟩

def list (item : Format α) : Format (List α) where
  value items := .list (items.map item.value)
  read := readList item.read

def option (format : Format α) : Format (Option α) where
  value
    | none => .null
    | some a => format.value a
  read := readOption format.read

/-- A name for each of a few values. -/
def choice (name : α → String) (all : List α) : Format α where
  value a := .text (name a)
  read := readChoice (all.map fun a => (name a, a))

def byte : Format UInt8 :=
  (natural 256).convert UInt8.toNat fun n => some (UInt8.ofNat n)

def bytes : Format Bytes := list byte

/-- Bytes as a text of base sixteen. -/
def hex : Format Bytes := text.convert Hex.encode fun s => (Hex.decode s).toOption

end Format

/-! ### Records -/

/-- What stands for a field that is not given, where it may be left out. -/
structure Absent (α : Type) where
  /-- When a record has no member of its name. -/
  inRecord : Option α
  /-- When a list of values ends before it. -/
  inList : Option α

namespace Absent

variable {α : Type}

def refused : Absent α := ⟨none, none⟩

/-- A record may leave the field out. -/
def fromRecord (a : α) : Absent α := ⟨some a, none⟩

/-- The field may always be left out. -/
def always (a : α) : Absent α := ⟨some a, some a⟩

end Absent

/-- The fields of a record: the type of their values, gathered in nested pairs, and the
type of the values read so far, each of which may still be missing. -/
inductive Fields : Type → Type → Type 1 where
  | done : Fields Unit Unit
  | field {α τ σ : Type} (name : String) (format : Format α) (absent : Absent α)
      (rest : Fields τ σ) : Fields (α × τ) (Option α × σ)

namespace Fields

/-- The members written for the values of the fields. -/
def members : {τ σ : Type} → Fields τ σ → τ → List (String × Value)
  | _, _, .done, () => []
  | _, _, .field name format _ rest, (a, values) => (name, format.value a) :: rest.members values

def noSlots : {τ σ : Type} → Fields τ σ → σ
  | _, _, .done => ()
  | _, _, .field _ _ _ rest => (none, rest.noSlots)

/-- The reader of the field with a name, if there is one. A second value for a field
is refused before it is read. -/
def reader? : {τ σ : Type} → Fields τ σ → σ → String → Option (Except Fault (Reader σ))
  | _, _, .done, (), _ => none
  | _, _, .field name format _ rest, (slot, slots), key =>
    if key = name then
      if slot.isSome then some (.error .mismatch)
      else some (.ok fun bytes => do
        let (a, tail) ← format.read bytes
        return ((some a, slots), tail))
    else
      (rest.reader? slots key).map fun found => found.map fun reader bytes => do
        let (slots, tail) ← reader bytes
        return ((slot, slots), tail)

/-- The values of all fields, once every member was read. -/
def finish : {τ σ : Type} → Fields τ σ → σ → Except Fault τ
  | _, _, .done, () => .ok ()
  | _, _, .field _ _ absent rest, (slot, slots) => do
    match slot.or absent.inRecord with
    | none => .error .mismatch
    | some a => return (a, ← rest.finish slots)

/-- Reads the members of a record up to its closing sign. -/
def readMembers {τ σ : Type} (fields : Fields τ σ) : Nat → σ → Bool → Reader τ
  | 0, _, _, _ => .error .malformed
  | fuel + 1, slots, first, bytes => do
    match ← nextPart '\x7d' first bytes with
    | none =>
      let values ← fields.finish slots
      return (values, ← expectSign '\x7d' bytes)
    | some member =>
      let (name, rest) ← readTextBody (← openName member)
      match fields.reader? slots name with
      | none =>
        let rest ← skipValue (← expectSign ':' rest)
        readMembers fields fuel slots false rest
      | some found =>
        let reader ← found
        let (slots, rest) ← reader (← expectSign ':' rest)
        readMembers fields fuel slots false rest

/-- Reads the values of the fields as a list up to its closing sign. -/
def readListed : {τ σ : Type} → Fields τ σ → Bool → Reader τ
  | _, _, .done, first, bytes => do
    match ← nextPart ']' first bytes with
    | none => return ((), ← expectSign ']' bytes)
    | some _ => .error .malformed
  | _, _, .field _ format absent rest, first, bytes => do
    match ← nextPart ']' first bytes with
    | none =>
      match absent.inList with
      | none => .error .mismatch
      | some a =>
        let (values, tail) ← rest.readListed first bytes
        return ((a, values), tail)
    | some start =>
      let (a, tail) ← format.read start
      let (values, tail) ← rest.readListed false tail
      return ((a, values), tail)

end Fields

/-- The format of a record with the given fields. -/
def Format.record {α τ σ : Type} (fields : Fields τ σ) (values : α → τ) (make : τ → α) :
    Format α where
  value a := .record (fields.members (values a))
  read bytes :=
    match skipSpace bytes with
    | byte :: rest =>
      if byte = ascii '\x7b' then
        (fields.readMembers (rest.length + 1) fields.noSlots true rest).map
          fun (values, tail) => (make values, tail)
      else if byte = ascii '[' then
        (fields.readListed true rest).map fun (values, tail) => (make values, tail)
      else .error (refuse (byte :: rest))
    | [] => .error .malformed

end Resharing.Json
