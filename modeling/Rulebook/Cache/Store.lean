import Rulebook.Cache.Table

/-!
Where cached documents are kept. A store acts on a state of its own and may be out of order, which
is an error and not the lack of an entry.
-/

namespace Rulebook

/-- Why a store cannot be used. -/
structure StoreError where
  detail : String
  deriving DecidableEq, Repr

def StoreError.text (error : StoreError) : String :=
  s!"Rule cache store unavailable ({error.detail})"

/-- A store with a state of type `σ`: entries of type `ν` under keys of type `κ`. -/
structure CacheStore (σ : Type) (κ : Type := CacheKey) (ν : Type := CacheEntry)
    (ε : Type := StoreError) where
  get : κ → σ → Except ε (Option ν) × σ
  upsert : κ → ν → σ → Except ε Unit × σ

namespace CacheStore

/-- Keeps documents for as long as the program runs. -/
def memory {κ ν : Type} [DecidableEq κ] : CacheStore (CacheTable κ ν) κ ν where
  get key table := (.ok (table.find? key), table)
  upsert key entry table := (.ok (), table.insert key entry)

/-- Never works. -/
def failing (detail : String) : CacheStore σ where
  get _ state := (.error ⟨detail⟩, state)
  upsert _ _ state := (.error ⟨detail⟩, state)

/-- A store whose state is a part of a larger one. -/
def within (part : τ → σ) (replace : σ → τ → τ) (store : CacheStore σ) : CacheStore τ where
  get key state :=
    let (result, inner) := store.get key (part state)
    (result, replace inner state)
  upsert key entry state :=
    let (result, inner) := store.upsert key entry (part state)
    (result, replace inner state)

end CacheStore

end Rulebook
