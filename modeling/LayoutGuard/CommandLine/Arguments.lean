import LayoutGuard.CommandLine.Options

/-!
# Arguments

The arguments of the command line: options that belong to every command, then the command, then its
options. A value follows its option as the next argument or behind an equals sign, and letters of
switches may share one hyphen. Behind two hyphens alone nothing may follow.

- `readOptions`: the options in front of a command, or behind it.
- `Invocation.ofArguments`: what the arguments ask for.
-/

namespace LayoutGuard

/-- What an argument looks like. -/
inductive Argument where
  /-- Two hyphens alone. -/
  | divider
  /-- A name behind two hyphens, and the value behind an equals sign, if there is one. -/
  | long (name : String) (value : Option String)
  /-- Letters behind a single hyphen. -/
  | letters (letters : List Char)
  /-- Anything else. -/
  | word
  deriving DecidableEq, Repr, Inhabited

/-- A name and the value behind the first equals sign. -/
def splitValue (letters : List Char) : String × Option String :=
  let name := letters.takeWhile (· ≠ '=')
  match letters.dropWhile (· ≠ '=') with
  | [] => (String.ofList name, none)
  | _ :: value => (String.ofList name, some (String.ofList value))

/-- What an argument looks like. -/
def Argument.of (s : String) : Argument :=
  match s.toList with
  | ['-', '-'] => divider
  | '-' :: '-' :: rest =>
    let (name, value) := splitValue rest
    long name value
  | ['-'] => word
  | '-' :: rest => letters rest
  | _ => word

namespace Options

/-- Read an argument with two hyphens. -/
def readLong (verb : Option Verb) (o : Options) (name : String) (value : Option String) :
    Except UsageError Options :=
  match (Switch.known verb).find? (·.name = name) with
  | some switch =>
    match value with
    | none => o.turnOn switch
    | some _ => .error .unexpectedValue
  | none =>
    match (ValueOption.known verb).find? (·.name = name) with
    | some option => o.start option value
    | none => .error .unknownArgument

/-- Read a letter behind a single hyphen. -/
def readLetter (verb : Option Verb) (o : Options) (letter : Char) : Except UsageError Options :=
  match (Switch.known verb).find? (·.letter? = some letter) with
  | some switch => o.turnOn switch
  | none => .error .unknownArgument

end Options

/-- What `help` and the arguments behind it ask for: there is help on each command and on help
itself. -/
def helpOn (words : List String) : UsageError :=
  match words with
  | [] => .helpRequested
  | [word] =>
    if word = "help" ∨ (Verb.ofName? word).isSome then .helpRequested else .unknownCommand
  | _ => .unknownCommand

/-- Why a word cannot stand where it is. Only a word in front of the command is taken for one,
unless it is one and stands behind the divider. -/
def strayWord (verb : Option Verb) (isDivided : Bool) (word : String) : UsageError :=
  match verb with
  | some _ => .unknownArgument
  | none =>
    if isDivided ∧ (word = "help" ∨ (Verb.ofName? word).isSome) then .unknownArgument
    else .unknownCommand

/-- Read the options of a command, or those in front of one up to the command. -/
def readOptions (verb : Option Verb) (isDivided : Bool) (o : Options) :
    List String → Except UsageError (Options × Option (Verb × List String))
  | [] => .ok (o, none)
  | argument :: rest =>
    -- Nothing may stand behind the divider, because no command takes plain words.
    if isDivided then .error (strayWord verb true argument)
    -- A word that an option waits for is its value, even if it is the name of a command.
    else if verb = none ∧ ¬o.isAwaiting ∧ argument = "help" then .error (helpOn rest)
    else
      match if verb = none ∧ ¬o.isAwaiting then Verb.ofName? argument else none with
      | some command => .ok (o, some (command, rest))
      | none =>
        match Argument.of argument with
        | .divider => readOptions verb true o rest
        | .long name value => do
          let o ← o.readLong verb name value
          readOptions verb false o rest
        | .letters letters => do
          -- The letters are read one by one, so those in front of an unknown one still count.
          let o ← letters.foldlM (Options.readLetter verb) o
          readOptions verb false o rest
        | .word =>
          match o.supply? argument with
          | some o => readOptions verb false o rest
          | none => .error (strayWord verb false argument)

/-- What the command line asks for. -/
structure Invocation where
  /-- The command. -/
  verb : Verb
  /-- More is to be logged. -/
  verbose : Bool
  /-- The form of the output. -/
  format : OutputFormat
  /-- The settings file, if it is not the usual one. -/
  config : Option Path
  /-- Settings for this run. -/
  overrides : Overrides
  deriving DecidableEq, Repr, Inhabited

namespace Invocation

/-- What the options in front of a command and behind it ask for; of an option that is in both
places the one behind the command counts. -/
def of (verb : Verb) (outer inner : Options) : Invocation where
  verb := verb
  verbose := outer.verbose || inner.verbose
  format := (inner.format <|> outer.format).getD .text
  config := inner.config <|> outer.config
  overrides := inner.overrides

/-- What the arguments ask for. The last option in front of the command is stored when the whole
command has been read. -/
def ofArguments (arguments : List String) : Except UsageError Invocation := do
  let (outer, command) ← readOptions none false .empty arguments
  match command with
  | none =>
    let outer ← outer.settle
    throw (if outer.isEmpty then .nothingRequested else .missingCommand)
  | some (verb, rest) =>
    let (inner, _) ← readOptions (some verb) false .empty rest
    -- Of two faults the one behind the command is told.
    let inner ← inner.settle
    let outer ← outer.settle
    return of verb outer inner

end Invocation

end LayoutGuard
