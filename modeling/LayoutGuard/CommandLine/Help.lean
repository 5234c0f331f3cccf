import LayoutGuard.CommandLine.Options

/-!
# Help

What is said about the use of the program when the arguments do not lead to a command.
-/

namespace LayoutGuard

namespace Verb

/-- What a command does. -/
def summary : Verb → String
  | save => "Snapshot the current build and save it"
  | compare => "Compare the current build against a saved snapshot"
  | impact => "Show which contracts inherit from which"

end Verb

/-- The option as it is written, with what stands for its value. -/
def ValueOption.usage (o : ValueOption) : String := "[--" ++ o.name ++ " <VALUE>]"

/-- The switch as it is written. -/
def Switch.usage (s : Switch) : String := "[--" ++ s.name ++ "]"

/-- How a command is used. -/
def Verb.usage (v : Verb) : String :=
  " ".intercalate <|
    ["  sld", v.name] ++ (ValueOption.known (some v)).map ValueOption.usage ++
      ((Switch.known (some v)).filter (· ≠ .help)).map Switch.usage

/-- The use of all commands. -/
def helpText : String :=
  "\n".intercalate <|
    ["Storage layout diff: catch unsafe storage changes before upgrading contracts", ""] ++
      ["Usage:"] ++ Verb.all.flatMap fun v => [v.usage, "      " ++ v.summary]

/-- The name and the version of the program. -/
def versionText : String := "sld 0.1.0"

/-- What is wrong with the arguments. -/
def UsageError.message : UsageError → String
  | helpRequested => helpText
  | versionRequested => versionText
  | nothingRequested => helpText
  | missingCommand => "error: a command is missing"
  | unknownCommand => "error: there is no such command"
  | unknownArgument => "error: there is no such argument"
  | invalidValue => "error: the value of an option is missing or invalid"
  | repeatedArgument => "error: an argument is given more than once"
  | unexpectedValue => "error: a switch is given a value"

end LayoutGuard
