import Rulebook.Text.Quoted

/-!
Commands: their options and arguments, and what can be wrong with the words given to one.
-/

namespace Rulebook

/-- What an option takes. -/
inductive Command.Parameter where
  | nothing
  | text
  | directory
  /-- One of some names, in letters of either case. -/
  | choice (names : List String)
  deriving DecidableEq, Repr

/-- An option of a command. -/
structure Command.Switch where
  /-- Its name after two dashes. -/
  long : String
  /-- Its name after one dash. -/
  short : Option Char := none
  parameter : Command.Parameter := .nothing
  help : String := ""
  /-- The value that stands for none, as the help tells it. -/
  fallback : Option String := none
  deriving DecidableEq, Repr

structure Command where
  /-- The words that call it. -/
  path : List String
  help : String
  options : List Command.Switch := []
  /-- The name of the text that it takes. -/
  argument : Option String := none
  /-- For a group its commands, by their last words, with their help. -/
  group : Option (List (String × String)) := none

namespace Command

namespace Switch

def longName (switch : Switch) : String := "--" ++ switch.long

def shortName? (switch : Switch) : Option String := switch.short.map fun c => s!"-{c}"

/-- The names of an option as messages list them. -/
def names (switch : Switch) : List String := switch.longName :: switch.shortName?.toList

end Switch

/-- The option that every command has. -/
def helpOption : Switch :=
  { long := "help", short := some 'h', help := "Show this message and exit." }

def allOptions (command : Command) : List Switch := command.options ++ [helpOption]

/-- What is wrong with the words given to a command. -/
inductive Problem where
  | noSuchOption (name : String) (similar : List String)
  | noSuchCommand (name : String) (similar : List String)
  | missingParameter (name : String)
  | unexpectedParameter (name : String)
  | missingArgument (name : String)
  | missingCommand
  | extraArguments (words : List String)
  | badValue (names : List String) (reason : String)
  | nulInPath
  deriving DecidableEq, Repr

namespace Problem

/-- Names that may have been meant. -/
def suggestion : List String → String
  | [] => ""
  | [name] => s!" Did you mean {Text.quoted name}?"
  | names =>
      let listed := ", ".intercalate (names.map Text.quoted)
      s!" (Did you mean one of: {listed}?)"

def message : Problem → String
  | noSuchOption name similar => s!"No such option {Text.quoted name}." ++ suggestion similar
  | noSuchCommand name similar => s!"No such command {Text.quoted name}." ++ suggestion similar
  | missingParameter name => s!"Option {Text.quoted name} requires an argument."
  | unexpectedParameter name => s!"Option {Text.quoted name} does not take a value."
  | missingArgument name => s!"Missing argument '{name}'."
  | missingCommand => "Missing command."
  | extraArguments words =>
      let plural := if words.length = 1 then "" else "s"
      let listed := " ".intercalate words
      s!"Got unexpected extra argument{plural} ({listed})"
  | badValue names reason =>
      let listed := " / ".intercalate (names.map Text.quoted)
      s!"Invalid value for {listed}: {reason}"
  | nulInPath => "embedded null byte"

/-- The message is shown after the usage of the command. -/
def showsUsage : Problem → Bool
  | missingParameter _ | unexpectedParameter _ => false
  | _ => true

end Problem

end Command

end Rulebook
