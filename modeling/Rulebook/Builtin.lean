import Rulebook.Source

/-!
The rules that come with the program, and the folder in which they are found.
-/

namespace Rulebook.Builtin

/-- The lines of the document with the rules for all languages. -/
def generalLines : List String := [
  "version: \"1.0.0\"",
  "language: general",
  "rules:",
  "  # bug",
  "  - id: bug-report",
  "    pattern: '\\b(bug|error|crash|exception|traceback|stack\\s*trace|segfault)\\b'",
  "    category: bug/report",
  "    weight: 0.8",
  "  - id: bug-fix",
  "    pattern: '\\b(fix(ed|ing)?|patch(ed|ing)?|resolve[ds]?|hotfix)\\b'",
  "    category: bug/fix",
  "    weight: 0.7",
  "  - id: bug-investigation",
  "    pattern: '\\b(debug(ging)?|investigat(e|ing)|diagnos(e|ing)|root\\s*cause)\\b'",
  "    category: bug/investigation",
  "    weight: 0.7",
  "",
  "  # code",
  "  - id: code-pattern",
  "    pattern: '\\b(refactor(ing)?|clean\\s*up|pattern|idiom|best\\s*practice)\\b'",
  "    category: code/pattern",
  "    weight: 0.7",
  "  - id: code-implementation",
  "    pattern: '\\b(implement(ation|ed|ing)?|code|function|class|method|module)\\b'",
  "    category: code/implementation",
  "    weight: 0.5",
  "  - id: code-review",
  "    pattern: '\\b(review|pr|pull\\s*request|code\\s*review|feedback)\\b'",
  "    category: code/review",
  "    weight: 0.6",
  "  - id: code-snippet",
  "    pattern: '\\b(snippet|example|sample|boilerplate|template)\\b'",
  "    category: code/snippet",
  "    weight: 0.6",
  "",
  "  # architecture",
  "  - id: architecture-design",
  "    pattern: '\\b(architect(ure)?|system\\s*design|high[\\s-]?level|diagram|component)\\b'",
  "    category: architecture/design",
  "    weight: 0.7",
  "  - id: architecture-tradeoff",
  "    pattern: '\\b(trade[\\s-]?off|pro(s)?\\s*(and|&|vs)\\s*con(s)?|alternative|comparison)\\b'",
  "    category: architecture/tradeoff",
  "    weight: 0.7",
  "  - id: architecture-decision",
  "    pattern: '\\b(ADR|architecture\\s*decision|decided\\s*to\\s*use|chose|went\\s*with)\\b'",
  "    category: architecture/decision",
  "    weight: 0.7",
  "",
  "  # feature",
  "  - id: feature-requirement",
  "    pattern: '\\b(requirement|spec(ification)?|user\\s*story|acceptance\\s*criteria)\\b'",
  "    category: feature/requirement",
  "    weight: 0.7",
  "  - id: feature-implementation",
  "    pattern: '\\b(feature|add(ing)?|new\\s+functionality|enhancement)\\b'",
  "    category: feature/implementation",
  "    weight: 0.5",
  "  - id: feature-design",
  "    pattern: '\\b(design|wireframe|mockup|ux|ui\\s*design)\\b'",
  "    category: feature/design",
  "    weight: 0.6",
  "",
  "  # project",
  "  - id: project-setup",
  "    pattern: '\\b(setup|scaffold|bootstrap|init(ialize)?|getting\\s*started)\\b'",
  "    category: project/setup",
  "    weight: 0.7",
  "  - id: project-config",
  "    pattern: '\\b(config(uration)?|\\.env|settings|yaml|toml|\\.json)\\b'",
  "    category: project/config",
  "    weight: 0.6",
  "  - id: project-dependency",
  "    pattern: '\\b(depend(ency|encies)|package|npm|bun\\s*install|yarn|pnpm|version)\\b'",
  "    category: project/dependency",
  "    weight: 0.7",
  "",
  "  # decision",
  "  - id: decision-technical",
  "    pattern: '\\b(should\\s*we|decision|decided|let''?s\\s*(go|use)|approach)\\b'",
  "    category: decision/technical",
  "    weight: 0.6",
  "  - id: decision-process",
  "    pattern: '\\b(process|workflow|methodology|agile|sprint|convention)\\b'",
  "    category: decision/process",
  "    weight: 0.6",
  "  - id: decision-tooling",
  "    pattern: '\\b(tool(ing)?|ide|editor|framework|library\\s*choice)\\b'",
  "    category: decision/tooling",
  "    weight: 0.6",
  "",
  "  # topic",
  "  - id: topic-learning",
  "    pattern: '\\b(learn(ing)?|tutorial|guide|how\\s*to|explain|what\\s*is)\\b'",
  "    category: topic/learning",
  "    weight: 0.5",
  "  - id: topic-explanation",
  "    pattern: '\\b(explain(ation)?|deep\\s*dive|understand(ing)?|concept)\\b'",
  "    category: topic/explanation",
  "    weight: 0.6",
  "  - id: topic-comparison",
  "    pattern: '\\b(compar(e|ing|ison)|vs\\.?|versus|benchmark|which\\s*is\\s*better)\\b'",
  "    category: topic/comparison",
  "    weight: 0.7"]

def generalText : String := String.join (generalLines.map fun line => line ++ "\n")

def folderNames : List String := ["rulekit", "builtin"]

def folder : Path := ⟨"/", folderNames⟩

/-- Adds the built-in rules to the files. -/
def addTo (files : Files) : Files :=
  let places := (List.range folderNames.length).map fun count => folderNames.take (count + 1)
  let files := places.foldl (fun files place => files.put place .directory) files
  files.put (folderNames ++ [generalLanguage ++ ".yml"]) (.file generalText.toUTF8.toList)

end Rulebook.Builtin
