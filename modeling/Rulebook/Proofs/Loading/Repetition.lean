import Rulebook.Proofs.Loading.Source

namespace Rulebook

variable {σ : Type}

namespace Remote

variable {remote : Remote} {around : Surroundings} {allowNetwork : Bool} {path : String}
  {found : Option CacheEntry}

/-- Only what has been downloaded is to be cached. -/
theorem deliver_saved {entry : CacheEntry}
    (saved : (remote.deliver around allowNetwork path found).saved = some entry) :
    allowNetwork = true ∧ entry.fetchedAt = around.now ∧
      (Download.run around.network remote.timeout (urlFor remote.baseUrl path)).1 =
        .ok entry.content ∧
      (remote.deliver around allowNetwork path found).result = .ok ⟨entry.content, .network⟩ := by
  simp only [deliver] at saved ⊢
  cases fresh : found.filter fun entry => entry.age around.now ≤ remote.freshFor with
  | some held => simp [fresh] at saved
  | none =>
      simp only [fresh] at saved
      cases allowNetwork with
      | false => cases found <;> simp at saved
      | true =>
          simp only [if_true] at saved ⊢
          cases downloaded : (Download.run around.network remote.timeout
              (urlFor remote.baseUrl path)).1 with
          | error failure => simp [downloaded] at saved
          | ok content =>
              simp only [downloaded, Option.some.injEq] at saved
              subst saved
              exact ⟨trivial, rfl, rfl, rfl⟩

/-- A document that can be downloaded comes from the network or, with the same text, from the cache,
but is no stale one. -/
theorem deliver_of_downloadable {held : CacheEntry}
    (downloaded : (Download.run around.network remote.timeout (urlFor remote.baseUrl path)).1 =
      .ok held.content) :
    ∃ origin, origin ≠ .stale ∧
      (remote.deliver around true path (some held)).result = .ok ⟨held.content, origin⟩ := by
  by_cases fresh : held.age around.now ≤ remote.freshFor
  · exact ⟨.cache, by decide, by simp [deliver, Option.filter, fresh]⟩
  · exact ⟨.network, by decide, by simp [deliver, Option.filter, fresh, downloaded]⟩

/-- With updates disabled an entry at hand is delivered, and nothing is asked for. -/
theorem deliver_offline (remote : Remote) (later : Surroundings) (path : String)
    (held : CacheEntry) :
    ∃ origin, remote.deliver later false path (some held) =
      { result := .ok ⟨held.content, origin⟩ } := by
  by_cases fresh : held.age later.now ≤ remote.freshFor
  · exact ⟨.cache, by simp [deliver, Option.filter, fresh]⟩
  · exact ⟨.stale, by simp [deliver, Option.filter, fresh]⟩

theorem deliver_text {fetched : Fetched}
    (delivered : (remote.deliver around allowNetwork path found).result = .ok fetched) :
    (remote.deliver around allowNetwork path found).saved = none ∧
        found.map CacheEntry.content = some fetched.content ∨
      (remote.deliver around allowNetwork path found).saved =
        some ⟨fetched.content, around.now⟩ := by
  rcases remote.deliver_cases around allowNetwork path found with
    ⟨entry, origin, held, -, result, saved⟩ | ⟨content, result, saved⟩ |
    ⟨error, -, result, -⟩ | ⟨message, -, -, result, -⟩
  · cases delivered.symm.trans result
    exact .inl ⟨saved, congrArg (Option.map CacheEntry.content) held⟩
  · cases delivered.symm.trans result
    exact .inr saved
  · cases delivered.symm.trans result
  · cases delivered.symm.trans result

end Remote

namespace Loader

/-- What comes of a source when bringing its document ends in some way. -/
def ofDelivery (source : Source) :
    Except Download.Failure Fetched → Except SourceFailure (Document × Bool)
  | .ok fetched => (parseDocument fetched.content source.url).map fun document =>
      (document, fetched.isStale)
  | .error (.failed error) => .error (.reported ⟨source.url, .failedFetch error⟩)
  | .error (.crashed message) => .error (.breakdown (.crashed message))

namespace Confined

variable {loader : Loader σ} {around later : Surroundings} {noUpdate : Bool}
  {entries : σ → CacheKey → Option CacheEntry} {source : Source} {paths : List Path}
  {world : σ → Prop} {moment state : σ}

theorem loaded_local (confined : loader.Confined entries paths world)
    (around later : Surroundings) (noUpdate otherwise : Bool)
    (consulted : ∀ path ∈ source.localPath, path ∈ paths) (inside : world moment)
    (again : world state) {path : Path} (place : source.localPath = some path) :
    (loader.loaded later otherwise source state).result =
        (loader.loaded around noUpdate source moment).result ∧
      (loader.loaded later otherwise source state).requests = [] := by
  have text := confined.readText again inside (consulted path place)
  simp only [loaded, place, readFile, text, and_self]

/-- The loading of a published document, told from the entry that is seen under its key. -/
theorem loaded_published (confined : loader.Confined entries paths world)
    (around : Surroundings) (noUpdate : Bool) (inside : world state)
    (published : source.localPath = none) :
    let delivery := loader.remote.deliver around (!noUpdate) source.remotePath
      (entries state source.key)
    (loader.loaded around noUpdate source state).result = ofDelivery source delivery.result ∧
      (loader.loaded around noUpdate source state).requests = delivery.requests ∧
      ∃ after, world after ∧ entries after = entries state ∧
        (loader.loaded around noUpdate source state).state =
          loader.store.kept source.key delivery.saved after := by
  have answered := confined.found_result source.key state inside
  refine ⟨?_, ?_, _, confined.found_world source.key state inside,
    confined.found_entries source.key state inside, ?_⟩
  · simp only [loaded, published, answered]
    unfold ofDelivery
    rfl
  · simp only [loaded, published, answered]
  · simp only [loaded, published, answered]

/-- A source that is loaded once more, from what it has left, comes to the same. -/
theorem loaded_again (confined : loader.Confined entries paths world)
    (records : loader.store.RecordsOrRefuses entries world around.now)
    (consulted : ∀ path ∈ source.localPath, path ∈ paths) (inside : world moment)
    (again : world state)
    (left : entries state source.key =
      entries (loader.loaded around noUpdate source moment).state source.key) :
    (loader.loaded around noUpdate source state).result =
      (loader.loaded around noUpdate source moment).result := by
  cases place : source.localPath with
  | some path =>
      exact (confined.loaded_local around around noUpdate noUpdate consulted inside again place).1
  | none =>
      obtain ⟨first, -, kept, within, same, after⟩ :=
        confined.loaded_published around noUpdate inside place
      obtain ⟨second, -⟩ := confined.loaded_published around noUpdate again place
      rw [second, first, left, after]
      cases saved : (loader.remote.deliver around (!noUpdate) source.remotePath
          (entries moment source.key)).saved with
      | none => rw [CacheStore.kept, same]
      | some entry =>
          obtain ⟨allowed, fetchedAt, downloaded, delivered⟩ := Remote.deliver_saved saved
          obtain ⟨content, time⟩ := entry
          simp only at fetchedAt downloaded delivered
          subst fetchedAt
          rcases records source.key content kept within with recorded | refused
          · obtain ⟨held, found, text⟩ := Option.map_eq_some_iff.mp recorded
            subst text
            obtain ⟨origin, unstale, repeated⟩ := Remote.deliver_of_downloadable downloaded
            rw [found, delivered, allowed, repeated]
            have fresh : (⟨held.content, origin⟩ : Fetched).isStale = false := by
              simpa [Fetched.isStale] using unstale
            simp only [ofDelivery, fresh]
            rfl
          · rw [refused, same]

/-- A source whose document was obtained yields it once more without a network. -/
theorem loaded_offline (confined : loader.Confined entries paths world)
    (records : loader.store.Records entries world around.now)
    (consulted : ∀ path ∈ source.localPath, path ∈ paths) (inside : world moment)
    (again : world state)
    (left : entries state source.key =
      entries (loader.loaded around noUpdate source moment).state source.key)
    (obtained : ∀ error, (loader.loaded around noUpdate source moment).result ≠
      .error (.reported ⟨source.url, .failedFetch error⟩))
    (reported : ∀ cause, (loader.loaded around noUpdate source moment).result ≠
      .error (.breakdown cause)) :
    (loader.loaded later true source state).result.map Prod.fst =
        (loader.loaded around noUpdate source moment).result.map Prod.fst ∧
      (loader.loaded later true source state).requests = [] := by
  cases place : source.localPath with
  | some path =>
      obtain ⟨result, requests⟩ := confined.loaded_local around later noUpdate true consulted
        inside again place
      exact ⟨congrArg _ result, requests⟩
  | none =>
      obtain ⟨first, -, kept, within, same, after⟩ :=
        confined.loaded_published around noUpdate inside place
      obtain ⟨second, requests, -⟩ := confined.loaded_published later true again place
      rw [first] at obtained reported
      rw [second, requests, first, left, after]
      match delivered : (loader.remote.deliver around (!noUpdate) source.remotePath
          (entries moment source.key)).result with
      | .error (.failed error) => exact absurd (by rw [delivered]; rfl) (obtained error)
      | .error (.crashed message) => exact absurd (by rw [delivered]; rfl) (reported _)
      | .ok fetched =>
          -- Whichever way the document came, its text is at hand by now.
          have found : (entries (loader.store.kept source.key (loader.remote.deliver around
              (!noUpdate) source.remotePath (entries moment source.key)).saved kept)
              source.key).map CacheEntry.content = some fetched.content := by
            rcases Remote.deliver_text delivered with ⟨saved, held⟩ | saved
            · rw [saved, CacheStore.kept, same, held]
            · rw [saved, records source.key fetched.content kept within]
          obtain ⟨held, found, text⟩ := Option.map_eq_some_iff.mp found
          obtain ⟨origin, offline⟩ := loader.remote.deliver_offline later source.remotePath held
          rw [found, Bool.not_true, offline]
          simp only [ofDelivery, text, and_true]
          cases parseDocument fetched.content source.url <;> rfl

end Confined

end Loader

end Rulebook
