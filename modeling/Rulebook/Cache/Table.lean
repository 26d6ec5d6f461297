import Rulebook.Path

/-!
Cached documents by key. Keys are derived from the paths of documents.
-/

namespace Rulebook

/-- What a cached document is found by. -/
structure CacheKey where
  topic : String
  version : String := "latest"
  framework : String := ""
  deriving DecidableEq, Repr, Inhabited

/-- A cached document: its text, and when it was downloaded. -/
structure CacheEntry where
  content : String
  fetchedAt : Float
  deriving Inhabited

def CacheEntry.age (entry : CacheEntry) (now : Float) : Float := now - entry.fetchedAt

/-- The folder of the documents of frameworks. -/
def frameworksFolder : String := "frameworks"

/-- The key for a path below the address of the rules: the file's name without its ending, and
the same as the framework where a folder of frameworks is above it. -/
def CacheKey.ofPath (path : String) (version : String := "latest") : CacheKey :=
  let segments := (Path.parse (String.ofList (Text.trim (· == '/') path.toList))).segments
  match segments.getLast? with
  | none => { topic := "general", version }
  | some name =>
      let topic := Path.stem name
      let framework := if segments.dropLast.contains frameworksFolder then topic else ""
      { topic, version, framework }

/-- Cached documents, with distinct keys. -/
abbrev CacheTable (κ : Type := CacheKey) (ν : Type := CacheEntry) := List (κ × ν)

namespace CacheTable

variable {κ ν : Type} [DecidableEq κ]

def find? (table : CacheTable κ ν) (key : κ) : Option ν := table.lookup key

/-- Stores an entry in place of the one with the same key. -/
def insert (table : CacheTable κ ν) (key : κ) (entry : ν) : CacheTable κ ν :=
  (key, entry) :: table.filter (·.1 != key)

end CacheTable

end Rulebook
