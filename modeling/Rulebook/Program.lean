import Rulebook.Builtin
import Rulebook.Cache.Database
import Rulebook.Command.Arguments
import Rulebook.Command.Help
import Rulebook.Manager
import Rulebook.Report
import Rulebook.Settings

/-!
The program: its commands, and what a run of it shows and leaves.
-/

namespace Rulebook

namespace Program

variable [Pattern.Edition]

/-! ## Commands -/

def verboseOption : Command.Switch :=
  { long := "verbose", short := some 'v', help := "Enable debug logging." }

/-- The options that tell which rules are meant. -/
def ruleOptions : List Command.Switch := [
  { long := "language", short := some 'l', parameter := .text, help := "Rule language."
    fallback := some generalLanguage },
  { long := "framework", short := some 'f', parameter := .text, help := "Project framework." },
  { long := "project", short := some 'p', parameter := .directory
    help := "Project root holding .rulekit/rules/custom.yml." },
  { long := "no-update", help := "Use cached remote rules only." }]

/-- What can be done with rules, in the order of the commands' names. -/
inductive Task where
  | checkUpdate
  | classify
  | list
  deriving DecidableEq, Repr

namespace Task

def all : List Task := [checkUpdate, classify, list]

def name : Task → String
  | checkUpdate => "check-update"
  | classify => "classify"
  | list => "list"

def command (task : Task) : Command :=
  let path := ["rulekit", "rules", task.name]
  match task with
  | checkUpdate => {
      path, help := "Check whether newer published rules exist."
      argument := some "CURRENT_VERSION" }
  | classify => {
      path, help := "Classify TEXT against the merged rules."
      options := ruleOptions, argument := some "TEXT" }
  | list => {
      path, help := "List the merged rules for a language/framework context."
      options := ruleOptions ++ [
        { long := "all", help := "Skip framework filtering." },
        { long := "format", parameter := .choice ["table", "yaml"], fallback := some "table" }] }

end Task

def rulesCommand : Command where
  path := ["rulekit", "rules"]
  help := "Resolve and inspect classification rules."
  group := some (Task.all.map fun task => (task.name, task.command.help))

def command : Command where
  path := ["rulekit"]
  help := "Tiered classification rule resolution."
  options := [verboseOption]
  group := some [("rules", rulesCommand.help)]

/-! ## Runs -/

/-- What a run of the program is given. -/
structure Invocation where
  words : List String
  environment : List (String × String)
  homes : Path.Homes
  around : Surroundings

/-- An error that no part of the program expects. -/
inductive Crash where
  | unknownHome
  | badProject (error : Files.ResolveError)
  | badMarkup (error : Terminal.Markup.Error)
  | badPattern (failure : Pattern.Failure)
  | updateCheck (failure : UpdateCheck.Failure)
  /-- The environment tells a size of the terminal in digits that make no number. -/
  | badSize (text : String) (error : Decimal.IntegerError)
  | nulInPath

def Crash.message : Crash → String
  | unknownHome => Path.unknownHomeMessage
  | badProject error => error.message
  | badMarkup error => error.message
  | badPattern failure => failure.message
  | updateCheck failure => failure.message
  | badSize text error => error.message text
  | nulInPath => Command.Problem.nulInPath.message

/-- Why a run ends early. -/
inductive Stop where
  | misused (command : Command) (problem : Command.Problem)
  /-- The help is shown, because it was asked for or for want of words. -/
  | help (command : Command) (asked : Bool)
  | failed (message : String)
  | crashed (crash : Crash)

/-- What is shown, and the error that has cut it short. -/
abbrev Shown := String × Option Terminal.Markup.Error

/-- What a run of the program shows and leaves. -/
structure Outcome where
  output : String := ""
  complaint : String := ""
  /-- The exit code, or the error that ended the run. -/
  ending : Except Crash Nat := .ok 0
  disk : Disk
  log : List LogLine := []
  requests : List Request := []

abbrev Step := Running Disk Stop

namespace Invocation

/-- A size of the terminal that the environment tells in digits. -/
def screenSize? (invocation : Invocation) (variableName : String) : Except Crash (Option Nat) :=
  match invocation.environment.lookup variableName with
  | none => .ok none
  | some text =>
      if text = "" ∨ !text.toList.all (Text.isAnyDigitCode ·.toNat) then .ok none
      else match Decimal.readInteger text with
        | .ok size => .ok (some size.toNat)
        | .error error => .error (.badSize text error)

/-- The sizes that the environment tells have to be numbers. -/
def checkScreen (invocation : Invocation) : Except Stop Unit := do
  let _ ← (invocation.screenSize? "COLUMNS").mapError Stop.crashed
  let _ ← (invocation.screenSize? "LINES").mapError Stop.crashed

def screenWidth (invocation : Invocation) : Nat :=
  match invocation.screenSize? "COLUMNS" with
  | .ok (some columns) => columns
  | _ => 80

/-- The columns for help, which may be told as any integer. A terminal without columns counts as
one whose columns are unknown. -/
def helpColumns (invocation : Invocation) : Nat :=
  match (invocation.environment.lookup "COLUMNS").map Decimal.readInteger with
  | some (.ok columns) => if 0 < columns then columns.toNat else 80
  | _ => 80

end Invocation

/-- Reads the words given to a command, which may ask for its help. -/
def readWords (command : Command) (words : List String) : Except Stop Command.Arguments :=
  match command.read words with
  | .error problem => .error (.misused command problem)
  | .ok arguments =>
      if arguments.has "help" then .error (.help command true) else .ok arguments

/-- The command of a group that words call for, and the words behind its name. A name that starts
with a sign is taken for options once more before it counts as unknown. -/
def enter (group : Command) (words : List String) : Except Stop (String × List String) := do
  if words.isEmpty then throw (.help group false)
  match (← readWords group words).words with
  | [] => throw (.misused group .missingCommand)
  | name :: rest =>
      let known := (group.group.getD []).map (·.1)
      if known.contains name then return (name, rest)
      let isSign := name.toList.head?.any fun c => !Text.isAlphanumericCode c.toNat
      if isSign then
        let _ ← readWords group (name :: rest)
      throw (.misused group (.noSuchCommand name (Text.suggestions name known)))

/-- What is given to a command that is no group. -/
def accept (command : Command) (files : Files) (words : List String) :
    Except Stop Command.Arguments := do
  let arguments ← readWords command words
  match command.check files.isFileText arguments with
  | .ok () => return arguments
  | .error .nulInPath => throw (.crashed .nulInPath)
  | .error problem => throw (.misused command problem)

/-- The rules that arguments ask for. -/
def query (invocation : Invocation) (files : Files) (arguments : Command.Arguments) :
    Except Stop RuleQuery := do
  let project ← match arguments.value? "project" with
    | none => pure none
    | some text => match (Path.parse text).expandHome invocation.homes with
        | none => throw (.crashed .unknownHome)
        | some path => match files.absolute path with
            | .error error => throw (.crashed (.badProject error))
            | .ok path => pure (some path)
  return {
    project
    language := some ((arguments.value? "language").getD generalLanguage)
    framework := arguments.value? "framework"
    noUpdate := arguments.has "no-update" }

def loader (settings : Settings) : Loader Disk where
  catalog := ⟨Builtin.folder, settings.rulesUrl⟩
  remote := ⟨settings.rulesUrl, settings.cacheTtl.toFloat, settings.fetchTimeout⟩
  store := CacheStore.database settings.cacheDatabase
  files := Disk.files

def resolve (invocation : Invocation) (settings : Settings) (query : RuleQuery) : Step Resolved := do
  match ← Running.outcome (Manager.resolve (loader settings) invocation.around query {}) with
  | .ok (resolved, _) => return resolved
  | .error breakdown => throw (.failed s!"Fatal: {breakdown.message}")

/-- Shows panels and what is to be said about the sources of the rules. -/
def present (invocation : Invocation) (panels : List Terminal.Panel) (resolved : Resolved) :
    Step Shown := do
  let some home := Path.home invocation.homes | throw (.crashed .unknownHome)
  let degradation := Report.degradation home.toText (resolved.errors.map LoadError.text)
    resolved.staleSources
  return Report.print invocation.screenWidth (panels ++ degradation)

def listRules (invocation : Invocation) (settings : Settings) (arguments : Command.Arguments) :
    Step Shown := do
  let query ← query invocation (← get).state.files arguments
  let resolved ← resolve invocation settings query
  let selected := if arguments.has "all" then resolved.rules
    else Rule.filterByFramework resolved.rules query.framework
  let language := query.language.getD ""
  if ((arguments.value? "format").getD "table").map Char.toLower = "yaml" then
    let document : Document :=
      { origin := "resolved", language, framework := query.framework, rules := selected }
    return (document.toText, none)
  match (({} : Compiler).withStatuses selected).1 with
  | .error failure => throw (.crashed (.badPattern failure))
  | .ok rules => present invocation (Report.rules language query.framework rules) resolved

def classifyText (invocation : Invocation) (settings : Settings) (arguments : Command.Arguments) :
    Step Shown := do
  let query ← query invocation (← get).state.files arguments
  let resolved ← resolve invocation settings query
  let rules := Rule.filterByFramework resolved.rules query.framework
  let text := arguments.words.headD ""
  let threshold := settings.threshold.toFloat
  match (Classification.classify Scoring.density {} text rules).1 with
  | .error failure => throw (.crashed (.badPattern failure))
  | .ok results =>
      let outcome := Classification.decide Scoring.density.less threshold results
      present invocation (Report.classification results outcome threshold) resolved

def checkUpdate (invocation : Invocation) (settings : Settings) (arguments : Command.Arguments) :
    Step Shown := do
  let current := arguments.words.headD ""
  if (Version.parse? current).isNone then
    throw (.failed s!"Invalid version (expected major.minor.patch): {current}")
  let versions : VersionList := ⟨settings.tagsUrl, settings.fetchTimeout⟩
  match ← Running.outcome (UpdateCheck.run versions invocation.around.network current) with
  | .ok check =>
      return Report.print invocation.screenWidth [Report.updateCheck current check]
  | .error failure => throw (.crashed (.updateCheck failure))

def Task.run (invocation : Invocation) (settings : Settings) (arguments : Command.Arguments) :
    Task → Step Shown
  | list => listRules invocation settings arguments
  | classify => classifyText invocation settings arguments
  | checkUpdate => Program.checkUpdate invocation settings arguments

/-- Finds out what the words ask for, and does it. The size of the terminal and the settings are
read before the words behind the first command. -/
def perform (invocation : Invocation) : Step Shown := do
  let (_, words) ← enter command invocation.words
  invocation.checkScreen
  let some (settings, log) := Settings.fromEnvironment invocation.homes invocation.environment
    | throw (.crashed .unknownHome)
  modify fun run => { run with log := run.log ++ log }
  let (name, words) ← enter rulesCommand words
  match Task.all.find? fun task => task.name == name with
  | none => throw (.misused rulesCommand (.noSuchCommand name []))
  | some task => do
      let arguments ← accept task.command (← get).state.files words
      task.run invocation settings arguments

/-- The lines of the log that a run shows: warnings and errors, or all if that was asked for. -/
def shownLog (words : List String) (log : List LogLine) : List LogLine :=
  match command.read words with
  | .ok arguments =>
      if arguments.has "verbose" then log
      else log.filter fun line => line.severity = .warning ∨ line.severity = .error
  | .error _ => []

def lines (texts : List String) : String := String.join (texts.map (· ++ "\n"))

/-- Runs the program. -/
def run (invocation : Invocation) (disk : Disk) : Outcome :=
  let (result, after) := (perform invocation).run.run { state := disk }
  let outcome : Outcome :=
    { disk := after.state, log := shownLog invocation.words after.log
      requests := after.requests }
  let columns := invocation.helpColumns
  match result with
  | .ok (text, none) => { outcome with output := text }
  | .ok (text, some error) => { outcome with output := text, ending := .error (.badMarkup error) }
  | .error (.help command true) => { outcome with output := lines (Command.Help.text columns command) }
  | .error (.help command false) =>
      { outcome with complaint := lines (Command.Help.text columns command), ending := .ok 2 }
  | .error (.misused command problem) =>
      let complaint := lines (Command.Help.complaint columns command problem)
      { outcome with complaint, ending := .ok 2 }
  | .error (.failed message) =>
      { outcome with complaint := lines ["Error: " ++ message], ending := .ok 2 }
  | .error (.crashed crash) => { outcome with ending := .error crash }

end Program

end Rulebook
