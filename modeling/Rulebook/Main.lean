import Rulebook.Program

/-!
The program as a command. It looks up the files that its words may mean and works without a
network.
-/

namespace Rulebook.Main

/-- The names of the environment variables that the program knows. -/
def variableNames : List String := ["HOME", "COLUMNS", "LINES", "RULEKIT_CACHE_DB",
  "RULEKIT_RULES_URL", "RULEKIT_TAGS_URL", "RULEKIT_CACHE_TTL_SECONDS", "RULEKIT_FETCH_TIMEOUT",
  "RULEKIT_CLASSIFY_THRESHOLD"]

def readEnvironment : IO (List (String × String)) :=
  variableNames.filterMapM fun name => do
    return (← IO.getEnv name).map fun value => (name, value)

/-- What words may mean as paths: each whole, behind an equals sign, or behind two characters. -/
def pathTexts (words : List String) : List String :=
  words.flatMap fun word =>
    let chars := word.toList
    [word, String.ofList ((chars.dropWhile (· ≠ '=')).drop 1), String.ofList (chars.drop 2)]

/-- The error of a link that leads back to itself. -/
def endlessLinks : UInt32 := 40

/-- What a path denotes, if it can be read. -/
def look (path : String) : IO (Option FileEntry) := do
  let place := (← IO.currentDir) / path
  if ← place.isDir then return some .directory
  try
    return some (.file (← IO.FS.readBinFile place).toList)
  catch
    | .invalidArgument _ code _ => return if code = endlessLinks then some .loop else none
    | _ => return none

/-- Adds what a path denotes to the files, and what the directories on the way to it are. -/
def addPath (files : Files) (path : Path) : IO Files :=
  let segments := (files.named path).segments
  (List.range segments.length).foldlM (fun files count => do
    let place := segments.take (count + 1)
    match ← look (Path.mk "/" place).toText with
    | some entry => return files.put place entry
    | none => return files) files

/-- The files that the words of a call may mean: the paths themselves and the rules of projects. -/
def readFiles (homes : Path.Homes) (current : Path) (words : List String) : IO Files := do
  let files ← addPath (Builtin.addTo { current := current.segments }) current
  (pathTexts words).foldlM (fun files text => do
    let path := Path.parse text
    let files ← addPath files path
    match path.expandHome homes with
    | some path => addPath files (Loader.projectFile path)
    | none => return files) files

def noNetwork : Network := fun url => .failure "OSError" s!"no route to {url}"

end Rulebook.Main

open Rulebook in
def main (words : List String) : IO UInt32 := do
  let environment ← Main.readEnvironment
  let homes : Path.Homes := ⟨(environment.lookup "HOME").getD "", []⟩
  let files ← Main.readFiles homes (Path.parse (← IO.currentDir).toString) words
  let invocation : Program.Invocation := { words, environment, homes, around := ⟨Main.noNetwork, 0⟩ }
  let outcome := Program.run invocation { files }
  for line in outcome.log do
    IO.eprintln s!"{line.severity.name} {line.message}"
  IO.print outcome.output
  IO.eprint outcome.complaint
  match outcome.ending with
  | .ok code => return code.toUInt32
  | .error crash => do
      IO.eprintln crash.message
      return 1
