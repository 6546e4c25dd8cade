/-!
# Command lines

A command line is a list of words. Options are named by a long name after two dashes or by a
letter after one; an option that takes a value finds it behind an equals sign, behind its letter
or in the next word. Two dashes alone end the options. A value is looked at when the next option
comes or the words are used up.

## Main definitions

* `OptionRule`, `Grammar`: what a command line may hold
* `Grammar.read`: takes the words up to the name of a command
* `Grammar.finish`: the values of options, with those of the environment
* `Stop`: why a command line is not carried out
-/

namespace Resharing.CommandLine

/-- Why a command line is not carried out. -/
inductive Stop where
  /-- Its words do not follow the grammar. -/
  | misused
  | help
  | version
  deriving DecidableEq, Repr

/-- An option, or an argument that goes by its place. -/
structure OptionRule where
  name : String
  letter : Option Char := none
  takesValue : Bool := true
  accepts : String → Bool := fun _ => true
  /-- Whether it may be given several times. -/
  repeats : Bool := false
  required : Bool := false
  /-- The name under which the environment may give it. -/
  inEnvironment : Option String := none

/-- What a command line may hold. -/
structure Grammar where
  options : List OptionRule
  /-- The arguments that go by their place. -/
  arguments : List OptionRule := []
  /-- The names of commands, of which one has to follow if there are any. -/
  commands : List String := []
  /-- Whether there is a version to ask for. -/
  hasVersion : Bool := false

/-- The values given so far, by name. An option without a value is given as the empty text. -/
abbrev Given := List (String × String)

/-- How far a command line has been read. -/
structure Reading where
  given : Given
  /-- The option or argument that is not settled yet, with its value if that has come. -/
  pending : Option (OptionRule × Option String)
  literal : Bool

namespace Reading

def start : Reading := ⟨[], none, false⟩

/-- Whether something has been given under a name. -/
def has (reading : Reading) (name : String) : Bool := (reading.given.lookup name).isSome

/-- Adds a value. What does not repeat is given once only. -/
def add (reading : Reading) (rule : OptionRule) (value : String) : Except Stop Reading :=
  if rule.accepts value ∧ (rule.repeats ∨ ¬reading.has rule.name) then
    .ok { reading with given := reading.given ++ [(rule.name, value)] }
  else .error .misused

def settle (reading : Reading) : Except Stop Reading :=
  match reading.pending with
  | none => .ok reading
  | some (_, none) => .error .misused
  | some (rule, some value) => { reading with pending := none }.add rule value

/-- Whether the next word is the value of an option. -/
def awaits (reading : Reading) : Bool :=
  match reading.pending with
  | some (_, none) => !reading.literal
  | _ => false

/-- Starts an option whose value may have come with it. -/
def begin (reading : Reading) (rule : OptionRule) (value : Option String) :
    Except Stop Reading := do
  let reading ← reading.settle
  match value with
  | some value => reading.add rule value
  | none => return { reading with pending := some (rule, none) }

end Reading

namespace Grammar

variable (grammar : Grammar)

/-- Takes a word that is an argument. -/
def takeArgument (reading : Reading) (word : String) : Except Stop Reading := do
  let reading ← reading.settle
  match grammar.arguments.find? fun rule => !reading.has rule.name with
  | some rule => return { reading with pending := some (rule, some word) }
  | none => throw .misused

/-- Takes an option that is given by its long name, perhaps with a value. -/
def takeLong (reading : Reading) (name : String) (value : Option String) :
    Except Stop Reading := do
  if name = "help" ∧ value = none then
    discard reading.settle
    throw .help
  if name = "version" ∧ value = none ∧ grammar.hasVersion then
    discard reading.settle
    throw .version
  match grammar.options.find? fun rule => rule.name == name with
  | none => throw .misused
  | some rule =>
    if rule.takesValue then reading.begin rule value
    else if value = none then (← reading.settle).add rule ""
    else throw .misused

/-- The value behind the letter of an option: an equals sign before it is left out. -/
def behindLetter : List Char → Option String
  | [] => none
  | '=' :: value => some (String.ofList value)
  | value => some (String.ofList value)

/-- Takes options that are given by their letters. The first that takes a value takes the rest
of the word. -/
def takeLetters (reading : Reading) : List Char → Except Stop Reading
  | [] => .ok reading
  | letter :: rest => do
    if letter = 'h' then
      discard reading.settle
      throw .help
    if letter = 'V' ∧ grammar.hasVersion then
      discard reading.settle
      throw .version
    match grammar.options.find? fun rule => rule.letter == some letter with
    | none => throw .misused
    | some rule =>
      if rule.takesValue then reading.begin rule (behindLetter rest)
      else takeLetters (← (← reading.settle).add rule "") rest

def take (reading : Reading) (word : String) : Except Stop Reading :=
  if reading.literal then grammar.takeArgument reading word
  else
    match word.toList with
    | ['-', '-'] => .ok { reading with literal := true }
    | '-' :: '-' :: long =>
      let name := long.takeWhile (· != '=')
      let value := (long.drop name.length).tail?.map String.ofList
      grammar.takeLong reading (String.ofList name) value
    | '-' :: letter :: letters => grammar.takeLetters reading (letter :: letters)
    | _ =>
      match reading.pending with
      | some (rule, none) => .ok { reading with pending := some (rule, some word) }
      | _ => grammar.takeArgument reading word

/-- Takes words up to the name of a command, which is returned with the words behind it. -/
def read (reading : Reading) : List String →
    Except Stop (Reading × Option (String × List String))
  | [] => .ok (reading, none)
  | word :: rest =>
    if !reading.literal && !reading.awaits && grammar.commands.contains word then
      .ok (reading, some (word, rest))
    else do read (← grammar.take reading word) rest

/-- Adds what the environment gives, where nothing else is given. -/
def consult (environment : Given) (reading : Reading) (rule : OptionRule) :
    Except Stop Reading :=
  match rule.inEnvironment.bind fun name => environment.lookup name with
  | some value => if reading.has rule.name then .ok reading else reading.add rule value
  | none => .ok reading

/-- What is given when all words have been read. -/
def finish (environment : Given) (reading : Reading) : Except Stop Given := do
  let rules := grammar.options ++ grammar.arguments
  let reading ← rules.foldlM (consult environment) (← reading.settle)
  if rules.all fun rule => !rule.required || reading.has rule.name then return reading.given
  else throw .misused

end Grammar

/-- The values given under a name, in order. -/
def Given.all (given : Given) (name : String) : List String :=
  (given.filter fun entry => entry.1 == name).map Prod.snd

/-- The value given under a name, or else a default. -/
def Given.valueOr (given : Given) (name default : String) : String :=
  (given.lookup name).getD default

end Resharing.CommandLine
