/-!
# Options on a command line

An option has a long name, which follows two dashes, and may have a letter, which follows one. Its
value is the next argument, or stands behind the long name and `=`, or right behind the letter, with
or without `=`. Letters may share a dash up to the first that takes a value. An argument that looks
like an option is never taken as the value of another.

## Main definitions

* `Switch`: an option that a command line may have.
* `scan`: reads options up to the first argument that is none.
-/

namespace SourcePatch.Command

/-- What an option does. -/
inductive SwitchKind
  /-- It takes no value, and may be given once. -/
  | flag
  /-- It takes a value, and may be given once. -/
  | single (accepts : String → Bool)
  /-- It takes a value each time it is given. -/
  | repeated (accepts : String → Bool)
  /-- It ends the reading of arguments. -/
  | final

structure Switch where
  name : String
  letter : Option Char
  kind : SwitchKind

/-- Why a command line is refused. -/
inductive UsageError
  | unknownOption (argument : String)
  | unexpectedArgument (argument : String)
  | missingValue (name : String)
  | unneededValue (name : String)
  | invalidValue (name value : String)
  | repeatedOption (name : String)
  | missingCommand
  deriving DecidableEq, Repr

def UsageError.message : UsageError → String
  | unknownOption a => "unknown option '" ++ a ++ "'"
  | unexpectedArgument a => "unexpected argument '" ++ a ++ "'"
  | missingValue name => "option '--" ++ name ++ "' needs a value"
  | unneededValue name => "option '--" ++ name ++ "' takes no value"
  | invalidValue name value => "invalid value '" ++ value ++ "' for option '--" ++ name ++ "'"
  | repeatedOption name => "option '--" ++ name ++ "' may be given only once"
  | missingCommand => "a command is needed"

/-- The options that were given, in order, with their values; that of a flag is empty. -/
abbrev Given := List (String × String)

namespace Given

def has (g : Given) (name : String) : Bool := g.any (·.1 == name)

def values (g : Given) (name : String) : List String := (g.filter (·.1 == name)).map Prod.snd

def value? (g : Given) (name : String) : Option String := g.lookup name

/-- Adds an option and its value. -/
def add (g : Given) (s : Switch) (value : String) : Except UsageError Given :=
  let once : Except UsageError Given :=
    if g.has s.name then .error (.repeatedOption s.name) else .ok (g ++ [(s.name, value)])
  let checked (accepts : String → Bool) (r : Except UsageError Given) : Except UsageError Given :=
    if accepts value then r else .error (.invalidValue s.name value)
  match s.kind with
  | .flag | .final => once
  | .single accepts => checked accepts once
  | .repeated accepts => checked accepts (.ok (g ++ [(s.name, value)]))

end Given

/-- Whether an argument is or looks like an option. -/
def looksLikeOption (argument : String) : Bool :=
  match argument.toList with
  | '-' :: _ :: _ => true
  | _ => false

/-- How the reading of options ends. -/
inductive Ending
  /-- There are no more arguments. -/
  | done
  /-- An argument that is no option, and those behind it. -/
  | word (argument : String) (rest : List String)
  /-- Two dashes, behind which nothing is an option. -/
  | dashes (rest : List String)
  /-- An option that ends the reading. -/
  | final (name : String)

/-- How the reading of letters behind one dash ends. -/
inductive LettersEnd
  | done
  | needsValue (s : Switch)
  | final (name : String)

/-- Reads the letters behind one dash. -/
def scanLetters (switches : List Switch) (argument : String) (given : Given) :
    List Char → Except UsageError (Given × LettersEnd)
  | [] => .ok (given, .done)
  | c :: rest =>
    match switches.find? (·.letter == some c) with
    | none => .error (.unknownOption argument)
    | some s =>
      match s.kind with
      | .final => .ok (given, .final s.name)
      | .flag =>
        match given.add s "" with
        | .error e => .error e
        | .ok given => scanLetters switches argument given rest
      | .single _ | .repeated _ =>
        match rest with
        | [] => .ok (given, .needsValue s)
        | '=' :: value | value => do return (← given.add s (.ofList value), .done)

/-- Reads what stands behind two dashes: a name, or a name and a value. -/
def scanLong (switches : List Switch) (argument : String) (given : Given) (body : List Char) :
    Except UsageError (Given × LettersEnd) :=
  let name := String.ofList (body.takeWhile (· != '='))
  let value? := match body.dropWhile (· != '=') with
    | _ :: value => some (String.ofList value)
    | [] => none
  match switches.find? (·.name == name), value? with
  | none, _ => .error (.unknownOption argument)
  | some s, none =>
    match s.kind with
    | .final => .ok (given, .final s.name)
    | .flag => do return (← given.add s "", .done)
    | .single _ | .repeated _ => .ok (given, .needsValue s)
  | some s, some value =>
    match s.kind with
    | .final | .flag => .error (.unneededValue s.name)
    | .single _ | .repeated _ => do return (← given.add s value, .done)

/-- Reads one argument that looks like an option. -/
def scanOption (switches : List Switch) (argument : String) (given : Given) :
    Except UsageError (Given × LettersEnd) :=
  match argument.toList with
  | '-' :: '-' :: body => scanLong switches argument given body
  | body => scanLetters switches argument given body.tail

/-- Reads options up to the first argument that is none. -/
def scan (switches : List Switch) (given : Given) : List String → Except UsageError (Given × Ending)
  | [] => .ok (given, .done)
  | argument :: rest =>
    if argument = "--" then .ok (given, .dashes rest)
    else if !looksLikeOption argument then .ok (given, .word argument rest)
    else match scanOption switches argument given with
      | .error e => .error e
      | .ok (given, .done) => scan switches given rest
      | .ok (given, .final name) => .ok (given, .final name)
      | .ok (given, .needsValue s) =>
        match rest with
        | [] => .error (.missingValue s.name)
        | value :: rest =>
          if looksLikeOption value then .error (.missingValue s.name)
          else match given.add s value with
            | .error e => .error e
            | .ok given => scan switches given rest

end SourcePatch.Command
