import Rulebook.Address
import Rulebook.Decimal.Amount
import Rulebook.Log
import Rulebook.Path
import Rulebook.Text.Quoted

/-!
Settings of the program and how environment variables change them.
-/

namespace Rulebook

def defaultRulesUrl : String := "https://raw.githubusercontent.com/zero8dotdev/smriti-rules/main"

def defaultTagsUrl : String :=
  "https://api.github.com/repos/zero8dotdev/smriti-rules/tags?per_page=1"

/-- A week. -/
def defaultCacheTtl : Decimal.Amount := .whole (7 * 24 * 60 * 60)

def defaultFetchTimeout : Decimal.Amount := .decimal 20.0

def defaultThreshold : Float := 0.5

structure Settings where
  cacheDatabase : Path
  rulesUrl : String := defaultRulesUrl
  tagsUrl : String := defaultTagsUrl
  cacheTtl : Decimal.Amount := defaultCacheTtl
  fetchTimeout : Decimal.Amount := defaultFetchTimeout
  threshold : Decimal.Amount := .decimal defaultThreshold

namespace Settings

def cacheDatabaseBelow (home : Path) : Path :=
  ⟨home.root, home.segments ++ [".cache", "rulekit", "rules.sqlite"]⟩

/-- The number in a variable, or the fallback where the variable is unset, blank or no number. -/
def number (environment : List (String × String)) (name : String) (fallback : Decimal.Amount) :
    Decimal.Amount × List LogLine :=
  match environment.lookup name with
  | none => (fallback, [])
  | some raw =>
      if Text.stripped raw = "" then (fallback, [])
      else match Decimal.readFloat? raw with
        | some value => (.decimal value, [])
        | none =>
            let message := s!"Ignoring invalid {name}={Text.quoted raw}, using {fallback.text}"
            (fallback, [⟨.warning, message⟩])

/-- A variable that is set and not empty. -/
def nonempty (environment : List (String × String)) (name : String) : Option String :=
  (environment.lookup name).filter (· ≠ "")

/-- The settings for an environment, with the warnings about variables that were ignored; `none`
if the path of the database needs a home directory that is unknown. -/
def fromEnvironment (homes : Path.Homes) (environment : List (String × String)) :
    Option (Settings × List LogLine) := do
  let cacheDatabase ← match nonempty environment "RULEKIT_CACHE_DB" with
    | some path => (Path.parse path).expandHome homes
    | none => (Path.home homes).map cacheDatabaseBelow
  let (cacheTtl, ttlLog) := number environment "RULEKIT_CACHE_TTL_SECONDS" defaultCacheTtl
  let (fetchTimeout, timeoutLog) := number environment "RULEKIT_FETCH_TIMEOUT" defaultFetchTimeout
  let (threshold, thresholdLog) :=
    number environment "RULEKIT_CLASSIFY_THRESHOLD" (.decimal defaultThreshold)
  let rulesUrl := Address.withoutEndSlashes ((nonempty environment "RULEKIT_RULES_URL").getD defaultRulesUrl)
  let tagsUrl := (nonempty environment "RULEKIT_TAGS_URL").getD defaultTagsUrl
  return ({ cacheDatabase, rulesUrl, tagsUrl, cacheTtl, fetchTimeout, threshold },
    ttlLog ++ timeoutLog ++ thresholdLog)

end Settings

end Rulebook
