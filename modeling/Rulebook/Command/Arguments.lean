import Rulebook.Command.Basic
import Rulebook.Text.Similarity

/-!
Reading the words given to a command: options, long or short, and other words. Two dashes alone
end the options; for a group the first other word does so, too.
-/

namespace Rulebook.Command

/-- The options given, in order, with the texts they take, and the other words. -/
structure Arguments where
  given : List (Switch × String) := []
  words : List String := []

namespace Arguments

/-- The text last given with an option. -/
def value? (arguments : Arguments) (long : String) : Option String :=
  (arguments.given.reverse.find? fun (switch, _) => switch.long == long).map (·.2)

def has (arguments : Arguments) (long : String) : Bool := (arguments.value? long).isSome

/-- Reads the letters after a single dash. A letter whose option takes a text gets the letters
after it, or else the next word; the result tells if that was needed. -/
def readLetters (options : List Switch) (next : Option String) :
    List Char → Except Problem (List (Switch × String) × Bool)
  | [] => .ok ([], false)
  | letter :: rest =>
      match options.find? fun switch => switch.short == some letter with
      | none => .error (.noSuchOption s!"-{letter}" [])
      | some switch =>
          if switch.parameter = .nothing then do
            let (more, taken) ← readLetters options next rest
            return ((switch, "") :: more, taken)
          else if rest ≠ [] then .ok ([(switch, String.ofList rest)], false)
          else match next with
            | some word => .ok ([(switch, word)], true)
            | none => .error (.missingParameter s!"-{letter}")

/-- Splits a word at its first equals sign. -/
def splitValue (word : List Char) : String × Option String :=
  let name := word.takeWhile (· ≠ '=')
  (String.ofList name,
    if name.length < word.length then some (String.ofList (word.drop (name.length + 1))) else none)

/-- Reads a word that starts with a dash; the result tells if it takes the next word. -/
def readOption (options : List Switch) (next : Option String) (word : List Char) :
    Except Problem (List (Switch × String) × Bool) :=
  let (name, value) := splitValue word
  match options.find? fun switch => switch.longName == name with
  | some switch =>
      if switch.parameter = .nothing then
        if value.isSome then .error (.unexpectedParameter name) else .ok ([(switch, "")], false)
      else match value, next with
        | some text, _ => .ok ([(switch, text)], false)
        | none, some text => .ok ([(switch, text)], true)
        | none, none => .error (.missingParameter name)
  | none =>
      if word.take 2 = ['-', '-'] then
        .error (.noSuchOption name (Text.suggestions name (options.map Switch.longName)))
      else readLetters options next (word.drop 1)

/-- Reads words; with `mixed` options may also stand behind other words. -/
def readWords (options : List Switch) (mixed : Bool) : List String → Except Problem Arguments
  | [] => .ok {}
  | word :: rest =>
      match word.toList with
      | ['-', '-'] => .ok { words := rest }
      | '-' :: c :: letters => do
          let (given, taken) ← readOption options rest.head? ('-' :: c :: letters)
          let more ← readWords options mixed (rest.drop (if taken then 1 else 0))
          return { more with given := given ++ more.given }
      | _ =>
          if mixed then do
            let more ← readWords options mixed rest
            return { more with words := word :: more.words }
          else .ok { words := word :: rest }
  termination_by words => words.length

end Arguments

/-- Reads the words given to a command. -/
def read (command : Command) (words : List String) : Except Problem Arguments :=
  Arguments.readWords command.allOptions command.group.isNone words

/-- Checks a text given with an option; `isFile` tells which texts are paths of files. -/
def Switch.check (isFile : String → Bool) (switch : Switch) (text : String) :
    Except Problem Unit :=
  match switch.parameter with
  | .directory =>
      if text.contains '\x00' then .error .nulInPath
      else if isFile text then
        .error (.badValue switch.names s!"Directory {Text.quoted text} is a file.")
      else .ok ()
  | .choice names =>
      if names.contains (text.map Char.toLower) then .ok ()
      else
        let known := ", ".intercalate (names.map Text.quoted)
        .error (.badValue switch.names s!"{Text.quoted text} is not one of {known}.")
  | _ => .ok ()

/-- Checks what a command has been given: the options in the order in which they first occur, each
by the text last given with it, then the number of other words. -/
def check (isFile : String → Bool) (command : Command) (arguments : Arguments) :
    Except Problem Unit := do
  for (switch, text) in arguments.given do
    switch.check isFile ((arguments.value? switch.long).getD text)
  match command.argument, arguments.words with
  | some name, [] => throw (.missingArgument name)
  | some _, [_] | none, [] => return ()
  | some _, _ :: extra | none, extra => throw (.extraArguments extra)

end Rulebook.Command
