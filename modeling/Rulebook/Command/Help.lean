import Rulebook.Command.Basic
import Rulebook.Sum
import Rulebook.Text.Blank

/-!
The help and the usage of a command, laid out for the columns of a terminal.
-/

namespace Rulebook.Command.Help

/-- The width of help on a terminal: from 50 to 78, two less than the terminal has. -/
def width (columns : Nat) : Nat := max (min columns 80 - 2) 50

/-- Words and the gaps between them. -/
def chunks (text : List Char) : List (List Char) :=
  text.splitBy fun a b => Text.isBlank a == Text.isBlank b

def finished (line : List Char) : List Char := Text.trimEnd Text.isBlank line

/-- Fills lines of the given width with chunks, behind what the line begun holds already. A word
longer than a line is cut; gaps at the ends of lines are dropped. -/
def fillAfter (limit : Nat) (line : List Char) : List (List Char) → List (List Char)
  | [] => [finished line]
  | chunk :: rest =>
      if line.length + chunk.length ≤ limit then fillAfter limit (line ++ chunk) rest
      else if _long : limit < chunk.length then
        let room := max (limit - line.length) 1
        finished (line ++ chunk.take room) :: fillAfter limit [] (chunk.drop room :: rest)
      else if chunk.all Text.isBlank then finished line :: fillAfter limit [] rest
      else finished line :: fillAfter limit chunk rest
  termination_by chunks => sumOf (chunks.map fun chunk => chunk.length + 1)
  decreasing_by
    all_goals simp only [List.map_cons, sumOf_cons, List.length_drop]
    all_goals omega

/-- The lines of a text in the given width. -/
def fill (limit : Nat) (text : String) : List String :=
  ((fillAfter limit [] (chunks text.toList)).filter (· ≠ [])).map String.ofList

def spaces (count : Nat) : String := String.ofList (List.replicate count ' ')

/-- What a command takes, as its usage tells it. -/
def pattern (command : Command) : String :=
  let options := "[OPTIONS]"
  match command.group, command.argument with
  | some _, _ => options ++ " COMMAND [ARGS]..."
  | none, some name => options ++ " " ++ name
  | none, none => options

/-- The usage of a command: how it is called and what it takes, on one line if at least 20 columns
are left for the latter. -/
def usage (columns : Nat) (command : Command) : List String :=
  let start := "Usage: " ++ " ".intercalate command.path ++ " "
  if start.length + 20 ≤ width columns then
    match fill (width columns - start.length) (pattern command) with
    | [] => [start]
    | first :: rest => (start ++ first) :: rest.map (spaces start.length ++ ·)
  else
    let indent := "Usage: ".length + 4
    start :: (fill (width columns - indent) (pattern command)).map (spaces indent ++ ·)

/-- Terms with their meanings beside them. A term too long for the first column stands alone. -/
def definitions (columns : Nat) (rows : List (String × String)) : List String :=
  let indent := 2
  let first := min ((rows.map fun (term, _) => term.length).foldl max 0) 30 + 2
  rows.flatMap fun (term, meaning) =>
    let lines := fill (max (width columns - first - 2) 10) meaning
    let besides := fun (text : String) => spaces (first + indent) ++ text
    match lines with
    | [] => [spaces indent ++ term]
    | head :: rest =>
        (if term.length + 2 ≤ first then
          [spaces indent ++ term ++ spaces (first - term.length) ++ head]
        else [spaces indent ++ term, besides head]) ++ rest.map besides

def parameterText : Parameter → String
  | .nothing => ""
  | .text => " TEXT"
  | .directory => " DIRECTORY"
  | .choice names => " [" ++ "|".intercalate names ++ "]"

def optionRow (switch : Switch) : String × String :=
  let names := ", ".intercalate (switch.shortName?.toList ++ [switch.longName])
  let fallback := (switch.fallback.map fun value => s!"[default: {value}]").toList
  let help := if switch.help = "" then [] else [switch.help]
  (names ++ parameterText switch.parameter, "  ".intercalate (help ++ fallback))

/-- The help of a command in at most `limit` characters; words that do not fit give way to dots. -/
def shortened (limit : Nat) (help : String) : String :=
  if help.length ≤ limit then help
  else
    let words := Text.splitAt ' ' help.toList
    let fits := fun count : Nat => sumOf ((words.take count).map fun word => word.length + 1) + 2
    let count := (List.range words.length).filter fun count => fits count ≤ limit
    let kept := (words.take (count.foldl max 0)).map String.ofList
    " ".intercalate kept ++ "..."

/-- The help of a command. -/
def text (columns : Nat) (command : Command) : List String :=
  let about := (fill (width columns - 2) command.help).map (spaces 2 ++ ·)
  let options := definitions columns (command.allOptions.map optionRow)
  let members := match command.group with
    | none => []
    | some members =>
        let longest := (members.map fun (name, _) => name.length).foldl max 0
        ["", "Commands:"] ++ definitions columns (members.map fun (name, help) =>
          (name, shortened (width columns - 6 - longest) help))
  usage columns command ++ [""] ++ about ++ ["", "Options:"] ++ options ++ members

/-- What is told about a problem with the words given to a command. -/
def complaint (columns : Nat) (command : Command) (problem : Problem) : List String :=
  let path := " ".intercalate command.path
  (if problem.showsUsage then
    usage columns command ++ [s!"Try '{path} --help' for help.", ""]
  else []) ++ [s!"Error: {problem.message}"]

end Rulebook.Command.Help
