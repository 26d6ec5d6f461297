import Rulebook.Cache.Fetch
import Rulebook.Files

/-!
Sources of rules: for each name a built-in file or a published document. The rules for a language
and a framework come from a chain of sources, the general ones first.
-/

namespace Rulebook

/-- The language whose rules belong to all languages. -/
def generalLanguage : String := "general"

structure Source where
  name : String
  /-- The path of the document below the address of the rules. -/
  remotePath : String
  url : String
  /-- The built-in file, if there is one. -/
  localPath : Option Path
  deriving DecidableEq, Repr

/-- Where sources are looked for. -/
structure Catalog where
  builtinFolder : Path
  baseUrl : String

namespace Source

/-- Where the rules come from, as messages show it. -/
def location (source : Source) : String :=
  match source.localPath with
  | some path => path.toText
  | none => source.url

/-- The source with a name. -/
def find (catalog : Catalog) (files : Files) (name : String) : Except FileError Source := do
  let remotePath := name ++ ".yml"
  let path := catalog.builtinFolder / remotePath
  let isBuiltin ← files.isFile path
  return {
    name, remotePath
    url := Address.withoutEndSlashes catalog.baseUrl ++ "/" ++ remotePath
    localPath := if isBuiltin then some path else none }

/-- The names of the sources for a language and a framework. An empty framework is none. -/
def chainNames (language : String) (framework : Option String) : List String :=
  (if language = generalLanguage then [] else [generalLanguage]) ++ [language] ++
  match framework with
  | none | some "" => []
  | some framework => [frameworksFolder ++ "/" ++ framework]

/-- The sources for a language and a framework. -/
def chain (catalog : Catalog) (files : Files) (language : String) (framework : Option String) :
    Except FileError (List Source) :=
  (chainNames language framework).mapM (find catalog files)

end Source

end Rulebook
