import Rulebook.Classification
import Rulebook.Rule.Describe
import Rulebook.Terminal.Panel
import Rulebook.UpdateCheck

/-!
What the program shows on a terminal: panels about rules, about sources that failed, about a
classification and about published versions.
-/

namespace Rulebook.Report

open Terminal

/-- Text as markup that shows it as it is. -/
def escaped (text : String) : String := String.ofList (Markup.escape text.toList)

/-- How many rules have each status, those statuses only that occur. -/
def statusCounts (statuses : List Rule.Status) : List (Rule.Status × Nat) :=
  [Rule.Status.active, .incomplete, .invalid].filterMap fun status =>
    let count := (statuses.filter (· = status)).length
    if count = 0 then none else some (status, count)

def statusSummary (statuses : List Rule.Status) : String :=
  match statusCounts statuses with
  | [] => "none"
  | counts => "  ".intercalate <| counts.map fun (status, count) => s!"{status.name}={count}"

def overview (context : String) (framework : Option String) (statuses : List Rule.Status) :
    Panel where
  title := "rules overview"
  content := .table {
    columns := [{}, {}]
    framed := false
    rows := [
      ["Context", escaped context],
      ["Framework", escaped ((framework.filter (· ≠ "")).getD "none")],
      ["Rules", toString statuses.length],
      ["Statuses", statusSummary statuses]] }

def ruleColumns : List Column := [
  { header := "Id", maxWidth := some 28 },
  { header := "Category", width := some 24 },
  { header := "Weight", width := some 7, alignment := .right },
  { header := "Frameworks", maxWidth := some 20 },
  { header := "Status", width := some 11 },
  { header := "Pattern" }]

def ruleRow (rule : Rule) (status : Rule.Status) : List String := [
  escaped rule.id,
  escaped (rule.category.getD ""),
  Rule.weightText rule.weight,
  escaped (Rule.frameworksText rule.frameworks),
  status.name,
  escaped (rule.pattern.getD "")]

/-- The rules with their statuses, after an overview of them. -/
def rules (context : String) (framework : Option String) (rules : List (Rule × Rule.Status)) :
    List Panel :=
  let list := if rules.isEmpty then .markup "No rules resolved."
    else .table { columns := ruleColumns, rows := rules.map fun (rule, status) => ruleRow rule status }
  [overview context framework (rules.map (·.2)), ⟨"rules", list⟩]

/-- A list of items; paths below the home directory are shortened. -/
def bullets (home title : String) (items : List String) : Panel where
  title := title
  content := .markup <| "\n".intercalate <|
    items.map fun item => "- " ++ escaped (compactHomeText home item)

/-- The sources that failed and those whose rules are out of date, if there are any. -/
def degradation (home : String) (errors staleSources : List String) : List Panel :=
  (if errors.isEmpty then [] else [bullets home "errors" errors]) ++
    if staleSources.isEmpty then [] else [bullets home "stale cache" staleSources]

def resultColumns : List Column := [
  { header := "Category", width := some 24 },
  { header := "Confidence", width := some 11, alignment := .right },
  { header := "Rule" }]

/-- The results of a classification and the verdict drawn from them. -/
def classification (results : List (Classification Float)) (outcome : Classification.Outcome Float)
    (threshold : Float) : List Panel :=
  if results.isEmpty then [⟨"classification", .markup "No rules matched."⟩]
  else
    let rows := results.map fun result =>
      [escaped result.category, Decimal.fixedText 2 result.confidence, escaped result.ruleId]
    let verdict := if outcome.ambiguous then "ambiguous" else "confident"
    let best := match outcome.result with
      | some result => escaped result.category
      | none => "none"
    let limit := Decimal.compactText threshold
    [⟨"classification", .table { columns := resultColumns, rows }⟩,
      ⟨"verdict", .markup s!"Best: [bold]{best}[/bold] ({verdict}, threshold {limit})"⟩]

/-- Whether a newer version of the rules has been published. -/
def updateCheck (current : String) (check : UpdateCheck) : Panel where
  title := "rules version"
  content := .markup <|
    let current := escaped current
    match check.newVersion with
    | none => s!"Current: {current}\nLatest version unavailable."
    | some version =>
        let version := escaped version
        if check.hasUpdate then s!"Update available: {current} -> [bold]{version}[/bold]"
        else s!"Rules are up to date ({current}, latest {version})."

/-- The text of panels on a terminal of the given width, up to one that cannot be shown. -/
def print (width : Nat) : List Panel → String × Option Markup.Error
  | [] => ("", none)
  | panel :: rest =>
      match panel.text width with
      | .error error => ("", some error)
      | .ok text =>
          let (more, error) := print width rest
          (text ++ more, error)

end Rulebook.Report
