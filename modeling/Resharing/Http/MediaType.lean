/-!
# Media types

The type of a body names a kind and a subtype with a slash between them. A subtype may end in
a plus sign and a suffix, which says what the body is written in. Parameters may follow, each
behind a semicolon; they have to be well formed, but nothing here depends on what they say.

## Main definitions

* `Parameter`, `Parameter.step`, `Parameter.listed`: the grammar of parameters
* `MediaType`, `MediaType.ofText?`: media types and how they are read
* `MediaType.isJson`: the media types of JSON
-/

namespace Resharing.Http

/-- Whether a character may stand in a token. -/
def isTokenChar (c : Char) : Bool := c.isAlphanum || "!#$%&'*+-.^_`|~".toList.contains c

/-- A place in a list of parameters. -/
inductive Parameter where
  /-- Before a parameter, where spaces may stand. -/
  | before
  | name
  | value
  | token
  | opened
  | quoted
  /-- Behind a closing quote, where spaces may stand. -/
  | closed
  deriving DecidableEq, Repr

namespace Parameter

/-- Whether a character may stand in a quoted value. -/
def isQuotable (c : Char) : Bool := ' ' ≤ c && c < '\x7F'

/-- The place behind a character, unless it may not stand there. A quoted value is not empty:
its first character is part of it, even if that is a quote. -/
def step (place : Parameter) (c : Char) : Option Parameter :=
  match place with
  | before => if c = ' ' then some before else if isTokenChar c then some name else none
  | name => if c = '=' then some value else if isTokenChar c then some name else none
  | value => if c = '"' then some opened else if isTokenChar c then some token else none
  | token => if c = ';' then some before else if isTokenChar c then some token else none
  | opened => if isQuotable c then some quoted else none
  | quoted => if c = '"' then some closed else if isQuotable c then some quoted else none
  | closed => if c = ';' then some before else if c = ' ' then some closed else none

/-- Whether a list of parameters may end at a place. -/
def mayEnd : Parameter → Bool
  | before | value | token | closed => true
  | name | opened | quoted => false

/-- Whether a text is a list of parameters. -/
def listed (text : List Char) : Bool := (text.foldlM step before).any mayEnd

end Parameter

/-- A media type. Case does not matter in it, so all of it is in lower case. -/
structure MediaType where
  kind : String
  /-- What it is in particular, without a suffix. -/
  subtype : String
  suffix : Option String
  deriving DecidableEq, Repr

namespace MediaType

def lowered (text : List Char) : String := String.ofList (text.map Char.toLower)

/-- A subtype and its suffix, which is what follows the last plus sign. A plus sign in front
is part of the subtype. -/
def splitSuffix (text : List Char) : List Char × Option (List Char) :=
  let suffix := (text.reverse.takeWhile (· != '+')).reverse
  let subtype := text.take (text.length - suffix.length - 1)
  if subtype = [] then (text, none) else (subtype, some suffix)

def ofText? (text : String) : Option MediaType :=
  let text := text.toList
  let kind := text.takeWhile isTokenChar
  match text.dropWhile isTokenChar with
  | '/' :: rest =>
    let name := rest.takeWhile isTokenChar
    let ended : Bool := match rest.dropWhile isTokenChar with
      | [] => true
      | c :: parameters => c = ';' && name ≠ [] && Parameter.listed parameters
    let (subtype, suffix) := splitSuffix name
    if kind ≠ [] ∧ ended then some ⟨lowered kind, lowered subtype, suffix.map lowered⟩ else none
  | _ => none

/-- Whether a body of the media type is JSON. -/
def isJson (mediaType : MediaType) : Bool :=
  mediaType.kind = "application" && (mediaType.subtype = "json" || mediaType.suffix = some "json")

end MediaType

end Resharing.Http
