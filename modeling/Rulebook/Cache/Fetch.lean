import Rulebook.Cache.Store
import Rulebook.Run

/-!
Documents from the cache or the network: a cached one as long as it is fresh, else a downloaded
one, else a cached one all the same.
-/

namespace Rulebook

/-- Where documents are published, and how the cache is used. -/
structure Remote where
  baseUrl : String
  /-- The age in seconds up to which a cached document is fresh. -/
  freshFor : Float
  timeout : Decimal.Amount

inductive Origin where
  | cache
  | network
  | stale
  deriving DecidableEq, Repr

def Origin.name : Origin → String
  | cache => "cache"
  | network => "network"
  | stale => "stale"

structure Fetched where
  content : String
  origin : Origin
  deriving DecidableEq, Repr

def Fetched.isStale (fetched : Fetched) : Bool := fetched.origin = .stale

/-- What the program's surroundings answer during an operation. -/
structure Surroundings where
  network : Network
  /-- The time in seconds. -/
  now : Float

namespace Remote

/-- The address of a document. -/
def urlFor (baseUrl path : String) : String :=
  Address.withoutEndSlashes baseUrl ++ "/" ++ String.ofList (Text.trimStart (· == '/') path.toList)

/-- The cached document; a store that is out of order has none. -/
def lookUp (store : CacheStore σ) (key : CacheKey) : Running σ ε (Option CacheEntry) := do
  match ← Running.onState (store.get key) with
  | .ok entry => return entry
  | .error error => do
      Running.note .warning (error.text ++ "; treating as cache miss")
      return none

/-- Caches a document if the store is in order. -/
def save (store : CacheStore σ) (key : CacheKey) (entry : CacheEntry) : Running σ ε Unit := do
  match ← Running.onState (store.upsert key entry) with
  | .ok () => return
  | .error error =>
      Running.note .warning s!"Failed to cache rules for {key.topic}: {error.text}"

/-- Brings the document at a path. -/
def fetch (remote : Remote) (store : CacheStore σ) (around : Surroundings) (allowNetwork : Bool)
    (path : String) : Running σ Download.Failure Fetched := do
  let key := CacheKey.ofPath path
  let entry ← lookUp store key
  let fresh := entry.filter fun entry => entry.age around.now ≤ remote.freshFor
  if let some entry := fresh then
    Running.note .debug s!"Rule cache hit for {path}"
    return ⟨entry.content, .cache⟩
  let url := urlFor remote.baseUrl path
  if !allowNetwork then
    match entry with
    | some entry => do
        Running.note .warning s!"Updates disabled, using stale cached rules for {path}"
        return ⟨entry.content, .stale⟩
    | none => throw (.failed ⟨url, "updates disabled and nothing cached"⟩)
  Running.note .debug s!"Fetching rules from {url}"
  match ← Running.download around.network remote.timeout url with
  | .ok content => do
      save store key ⟨content, around.now⟩
      return ⟨content, .network⟩
  | .error (.failed error) => do
      Running.note .error error.text
      match entry with
      | some entry => do
          Running.note .warning s!"Using stale cached rules for {key.topic}"
          return ⟨entry.content, .stale⟩
      | none => throw (.failed error)
  | .error crash => throw crash

end Remote

end Rulebook
