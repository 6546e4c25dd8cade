import Resharing.Http.Form
import Resharing.Http.Message

/-!
# Addresses on the network

An address names a scheme, an authority, a path and a query. Reading one cleans it up: line
breaks and tabs are dropped, a backslash counts as a slash, the steps `.` and `..` of a path are
taken, though none leaves a drive, and bytes that may not stand in a path or a query are
escaped. What follows a number sign belongs to nobody but the reader and is left out.

## Main definitions

* `Url`, `Url.ofText?`: addresses and how they are read
* `Url.withFields`: an address with more fields in its query
* `Url.target`: what is asked for at the authority
-/

namespace Resharing.Http

/-- An address on the network. -/
structure Url where
  scheme : String
  /-- Whom to talk to: a host and perhaps a port. -/
  authority : String
  /-- The segments of the path after its leading slash, escaped. -/
  segments : List Bytes
  /-- The query, escaped, if there is one. -/
  query : Option Bytes
  deriving DecidableEq

namespace Url

/-- The byte of an ASCII character. -/
abbrev ascii (c : Char) : UInt8 := c.toUInt8

/-- Whether a byte is dropped wherever it stands. -/
def isBreak (byte : UInt8) : Bool := byte == 0x09 || byte == 0x0A || byte == 0x0D

/-- Whether a byte is dropped from the ends of an address. -/
def isMargin (byte : UInt8) : Bool := byte ≤ 0x20

/-- Bytes without the margins at their ends. -/
def trimMargins (bytes : Bytes) : Bytes :=
  ((bytes.dropWhile isMargin).reverse.dropWhile isMargin).reverse

/-- Whether a byte separates the steps of a path. -/
def isSlash (byte : UInt8) : Bool := byte == ascii '/' || byte == ascii '\\'

def endsPath (byte : UInt8) : Bool := byte == ascii '?' || byte == ascii '#'

/-- Whether a byte is a visible ASCII character other than the given ones. -/
def isVisibleBut (others : List Char) (byte : UInt8) : Bool :=
  0x20 < byte && byte < 0x7F && !others.any fun c => byte == ascii c

/-- Whether a byte stands for itself in a path. -/
def passesPath : UInt8 → Bool := isVisibleBut ['"', '#', '<', '>', '?', '`', '\x7b', '\x7d']

/-- Whether a byte stands for itself in a query. -/
def passesQuery : UInt8 → Bool := isVisibleBut ['"', '#', '<', '>', '\'']

/-- A step of a path with its escaped dots undone. -/
def dots : Bytes → Bytes
  | first :: second :: third :: rest =>
    if first = ascii '%' ∧ second = ascii '2' ∧ (third = ascii 'e' ∨ third = ascii 'E') then
      ascii '.' :: dots rest
    else first :: dots (second :: third :: rest)
  | bytes => bytes

/-- Whether a step stays where it is. -/
def staysPut (step : Bytes) : Bool := dots step == [ascii '.']

def goesBack (step : Bytes) : Bool := dots step == [ascii '.', ascii '.']

def lower (byte : UInt8) : UInt8 :=
  if ascii 'A' ≤ byte && byte ≤ ascii 'Z' then byte + 0x20 else byte

/-- Whether a segment names a drive: a letter and a colon, or a bar in place of the colon. -/
def isDrive : Bytes → Bool
  | [letter, mark] =>
    ascii 'a' ≤ lower letter && lower letter ≤ ascii 'z' && (mark == ascii ':' || mark == ascii '|')
  | _ => false

/-- The segments without the last one, all given last first. A drive is not left. -/
def leave : List Bytes → List Bytes
  | last :: done => if isDrive last then last :: done else done
  | [] => []

/-- The segments that the steps of a path lead to. Those so far are given last first. A path
that ends by staying or going back ends with a slash. -/
def walk (done : List Bytes) : List Bytes → List Bytes
  | [] => done.reverse
  | step :: rest =>
    if goesBack step then
      if rest = [] then ([] :: leave done).reverse else walk (leave done) rest
    else if staysPut step then
      if rest = [] then ([] :: done).reverse else walk done rest
    else walk (Percent.encode passesPath step :: done) rest

/-- The segments of a path as it is given. -/
def segmentsOf (path : Bytes) : List Bytes :=
  let slashed := path.map fun byte => if isSlash byte then ascii '/' else byte
  let steps := match slashed with
    | byte :: rest => if byte = ascii '/' then rest else byte :: rest
    | [] => []
  walk [] (Form.pieces (ascii '/') steps)

/-- The text of bytes in lower case. -/
def lowerText (bytes : Bytes) : String := (Bytes.text? (bytes.map lower)).getD ""

/-- Whether a byte may stand in an authority. -/
def passesAuthority (byte : UInt8) : Bool :=
  0x7F < byte || isVisibleBut ['"', '<', '>', '^', '|', '`', '\x7b', '\x7d'] byte

/-- The authority from what stands between the slashes: credentials are left out, and a host is
required. -/
def authority? (bytes : Bytes) : Option String :=
  let host := (bytes.reverse.takeWhile (· != ascii '@')).reverse
  if host.takeWhile (· != ascii ':') ≠ [] ∧ host.all passesAuthority then some (lowerText host)
  else none

/-- The schemes that requests are sent with. -/
def schemes : List String := ["http", "https"]

def ofText? (text : String) : Option Url := do
  let bytes := (trimMargins (Bytes.ofText text)).filter fun byte => !isBreak byte
  let scheme := bytes.takeWhile (· != ascii ':')
  let rest := (bytes.drop (scheme.length + 1)).dropWhile isSlash
  let host := rest.takeWhile fun byte => !isSlash byte && !endsPath byte
  let rest := rest.drop host.length
  let path := rest.takeWhile fun byte => !endsPath byte
  let authority ← authority? host
  let query := match rest.drop path.length with
    | byte :: rest =>
      if byte = ascii '?' then
        some (Percent.encode passesQuery (rest.takeWhile (· != ascii '#')))
      else none
    | [] => none
  if lowerText scheme ∈ schemes ∧ scheme.length < bytes.length then
    return ⟨lowerText scheme, authority, segmentsOf path, query⟩
  else none

/-- An address whose query has more fields, behind those it has. -/
def withFields (url : Url) (fields : List (String × String)) : Url :=
  let earlier := ((url.query.getD []) :: []).filter (· ≠ [])
  let written := earlier ++ fields.map fun (name, value) => Form.encodeField name value
  if written = [] then { url with query := none }
  else { url with query := some ((written.intersperse [ascii '&']).flatten) }

/-- What is asked for at the authority. -/
def target (url : Url) : Bytes :=
  (url.segments.flatMap fun segment => ascii '/' :: segment) ++
    match url.query with
    | some query => ascii '?' :: query
    | none => []

/-- How long an address may be at which something is asked for. -/
def maxLength : Nat := 65534

def length (url : Url) : Nat :=
  url.scheme.utf8ByteSize + 3 + url.authority.utf8ByteSize + url.target.length

end Url

end Resharing.Http
