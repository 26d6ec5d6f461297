import Rulebook.Proofs.Cache.History
import Rulebook.Proofs.Cache.Key
import Rulebook.Proofs.Path

namespace Rulebook

namespace CacheKey

/-- The segments that are above a document, as they stand in its name. -/
def folders (name : String) : List (List Char) := (Text.splitAt '/' name.toList).dropLast

/-- The segment of a document's name that is below all others. -/
def lastSegment (name : String) : List Char := (Text.splitAt '/' name.toList).getLastD []

/-- What the key of a document is told from: the last segment of its name. Where that is empty, the
ending of the document's file stands alone. -/
def title (name : String) : String :=
  if lastSegment name = [] then ".yml" else String.ofList (lastSegment name)

/-- A folder of frameworks is above the document with the name. -/
def isBelowFrameworks (name : String) : Bool := (folders name).contains frameworksFolder.toList

theorem splitAt_document (name : String) :
    Text.splitAt '/' (name ++ ".yml").toList =
      folders name ++ [lastSegment name ++ ".yml".toList] := by
  rw [String.toList_append, Text.splitAt_append_ending name.toList (by decide)]
  rfl

theorem segments_trimmed (name : String) :
    (Path.parse (String.ofList (Text.trim (· == '/') (name ++ ".yml").toList))).segments =
      (Path.parse (name ++ ".yml")).segments := by
  let slashes := (name ++ ".yml").toList.takeWhile (· == '/')
  have front : slashes = List.replicate slashes.length '/' :=
    List.eq_replicate_of_mem fun c member => by simpa using List.mem_takeWhile_imp member
  have trimmed : slashes ++ Text.trim (· == '/') (name ++ ".yml").toList =
      (name ++ ".yml").toList :=
    Text.takeWhile_append_trim _ (by simp)
  have split := Path.split_slashes slashes.length (Text.trim (· == '/') (name ++ ".yml").toList)
  rw [← front, trimmed] at split
  simp only [Path.parse, String.toList_ofList, split]

theorem segments_document (name : String) :
    (Path.parse (String.ofList (Text.trim (· == '/') (name ++ ".yml").toList))).segments =
      ((folders name).filter Path.isSegment).map String.ofList ++
        [String.ofList (lastSegment name) ++ ".yml"] := by
  have last : Path.isSegment (lastSegment name ++ ".yml".toList) := by
    have long : (lastSegment name ++ ".yml".toList).length ≠ ['.'].length := by simp
    simp only [Path.isSegment, Bool.and_eq_true, decide_eq_true_eq]
    exact ⟨by simp, fun dot => long (congrArg List.length dot)⟩
  rw [segments_trimmed, Path.parse, splitAt_document]
  simp only [List.filter_append, List.filter_singleton, last, cond_true, List.map_append,
    List.map_singleton, String.ofList_append, String.ofList_toList]

theorem stem_document (name : String) :
    Path.stem (String.ofList (lastSegment name) ++ ".yml") = title name := by
  by_cases empty : lastSegment name = []
  · rw [title, if_pos empty, empty]
    decide
  · rw [title, if_neg empty, Path.stem_document]
    simpa using empty

theorem title_ne_empty (name : String) : title name ≠ "" := by
  by_cases empty : lastSegment name = []
  · simp [title, empty]
  · simp [title, empty]

theorem ofPath_named (name : String) :
    ofPath (name ++ ".yml") =
      { topic := title name, framework := if isBelowFrameworks name then title name else "" } := by
  have folder : Path.isSegment frameworksFolder.toList := by decide
  have below : (((folders name).filter Path.isSegment).map String.ofList).contains
      frameworksFolder = isBelowFrameworks name := by
    rw [Bool.eq_iff_iff, isBelowFrameworks, List.contains_iff_mem, List.contains_iff_mem]
    constructor
    · intro member
      obtain ⟨chars, kept, same⟩ := List.mem_map.mp member
      rw [← same, String.toList_ofList]
      exact (List.mem_filter.mp kept).1
    · intro member
      exact List.mem_map.mpr ⟨_, List.mem_filter.mpr ⟨member, folder⟩, String.ofList_toList⟩
  simp only [ofPath, segments_document, List.getLast?_concat, List.dropLast_concat, stem_document,
    below]

theorem ofPath_named_eq_iff (first second : String) :
    ofPath (first ++ ".yml") = ofPath (second ++ ".yml") ↔
      title first = title second ∧ isBelowFrameworks first = isBelowFrameworks second := by
  rw [ofPath_named, ofPath_named]
  have named := title_ne_empty second
  cases isBelowFrameworks first <;> cases isBelowFrameworks second <;>
    simp +contextual [named, named.symm]

end CacheKey

/-- The name of the document of a plain language, or of a plain framework. -/
inductive IsPlainDocument : String → Prop where
  | language {name : String} (plain : IsPlainName name) : IsPlainDocument name
  | framework {name : String} (plain : IsPlainName name) :
      IsPlainDocument (frameworksFolder ++ "/" ++ name)

section PlainNames

variable {name : String}

theorem CacheKey.title_language (plain : IsPlainName name) :
    title name = name ∧ isBelowFrameworks name = false := by
  have single : Text.splitAt '/' name.toList = [name.toList] := Text.splitAt_of_notMem plain.2
  simp [title, lastSegment, isBelowFrameworks, folders, single, plain.1]

theorem CacheKey.title_framework (plain : IsPlainName name) :
    title (frameworksFolder ++ "/" ++ name) = name ∧
      isBelowFrameworks (frameworksFolder ++ "/" ++ name) = true := by
  have chars : (frameworksFolder ++ "/" ++ name).toList =
      frameworksFolder.toList ++ '/' :: name.toList := by simp
  have split : Text.splitAt '/' (frameworksFolder ++ "/" ++ name).toList =
      [frameworksFolder.toList, name.toList] := by
    rw [chars, Text.splitAt_append (by decide), Text.splitAt_of_notMem plain.2]
  simp only [title, lastSegment, isBelowFrameworks, folders, split]
  simp [plain.1]

theorem IsPlainDocument.ofPath_injective {first second : String}
    (firstPlain : IsPlainDocument first) (secondPlain : IsPlainDocument second)
    (same : CacheKey.ofPath (first ++ ".yml") = CacheKey.ofPath (second ++ ".yml")) :
    first = second := by
  obtain ⟨titles, below⟩ := (CacheKey.ofPath_named_eq_iff first second).mp same
  cases firstPlain with
  | language one =>
      obtain ⟨title, notBelow⟩ := CacheKey.title_language one
      cases secondPlain with
      | language two => rw [← title, titles, (CacheKey.title_language two).1]
      | framework two => simp [notBelow, (CacheKey.title_framework two).2] at below
  | framework one =>
      obtain ⟨title, isBelow⟩ := CacheKey.title_framework one
      cases secondPlain with
      | language two => simp [isBelow, (CacheKey.title_language two).2] at below
      | framework two =>
          have names := title.symm.trans (titles.trans (CacheKey.title_framework two).1)
          rw [names]

end PlainNames

namespace Source

/-- The source is in the chain for some language and framework whose names are admitted. -/
def InChain (admitted : String → Prop) (source : Source) : Prop :=
  ∃ catalog files language framework sources,
    admitted language ∧ (∀ name ∈ framework, admitted name) ∧
    chain catalog files language framework = .ok sources ∧ source ∈ sources

variable {source : Source} {admitted : String → Prop}

theorem exists_name_of_mem {catalog : Catalog} {files : Files} {names : List String}
    {sources : List Source} (found : names.mapM (find catalog files) = .ok sources)
    (member : source ∈ sources) : ∃ name ∈ names, find catalog files name = .ok source := by
  induction names generalizing sources with
  | nil =>
      cases found
      cases member
  | cons name rest ih =>
      rw [List.mapM_cons, except_bind_eq_ok] at found
      obtain ⟨first, isFirst, found⟩ := found
      obtain ⟨others, following, made⟩ := except_bind_eq_ok.mp found
      cases made
      rcases List.mem_cons.mp member with rfl | later
      · exact ⟨name, List.mem_cons_self, isFirst⟩
      · obtain ⟨other, inRest, isOther⟩ := ih following later
        exact ⟨other, List.mem_cons_of_mem name inRest, isOther⟩

theorem find_name {catalog : Catalog} {files : Files} {name : String}
    (found : find catalog files name = .ok source) : source.name = name := by
  obtain ⟨isBuiltin, -, made⟩ := except_bind_eq_ok.mp found
  cases made
  rfl

theorem InChain.remotePath_eq (inChain : source.InChain admitted) :
    source.remotePath = source.name ++ ".yml" := by
  obtain ⟨catalog, files, language, framework, sources, -, -, resolved, member⟩ := inChain
  obtain ⟨name, -, found⟩ := exists_name_of_mem resolved member
  rw [find_remotePath found, find_name found]

theorem InChain.isPlainDocument (inChain : source.InChain IsPlainName) :
    IsPlainDocument source.name := by
  obtain ⟨catalog, files, language, framework, sources, languagePlain, frameworkPlain, resolved,
    member⟩ := inChain
  obtain ⟨name, inNames, found⟩ := exists_name_of_mem resolved member
  rw [find_name found]
  have general : IsPlainDocument generalLanguage := .language (by decide)
  unfold chainNames at inNames
  rw [List.mem_append, List.mem_append] at inNames
  rcases inNames with (inGeneral | own) | inFramework
  · split at inGeneral
    · cases inGeneral
    · exact List.mem_singleton.mp inGeneral ▸ general
  · exact List.mem_singleton.mp own ▸ .language languagePlain
  · split at inFramework
    · cases inFramework
    · cases inFramework
    · exact List.mem_singleton.mp inFramework ▸ .framework (frameworkPlain _ rfl)

end Source

namespace Remote

open Running

variable {remote : Remote} {table : CacheTable} {events : List Event} {key : CacheKey}
  {entry : CacheEntry}

/-- The document at a path, as the network has it when the fetch is made. -/
def Call.published (remote : Remote) (call : Call) : Except Download.Failure String :=
  (Download.run call.around.network remote.timeout (urlFor remote.baseUrl call.path)).1

theorem mem_of_lastSaved (saved : lastSaved events key = some entry) :
    ∃ event ∈ events, event.call.key = key ∧ event.result = .ok ⟨entry.content, .network⟩ := by
  obtain ⟨event, member, saving⟩ := saved_of_lastSaved saved
  obtain ⟨-, sameKey, ended, -⟩ := Event.saved?_eq_some_iff.mp saving
  exact ⟨event, member, sameKey, ended⟩

theorem deliver_network {around : Surroundings} {allowNetwork : Bool} {path content : String}
    {found : Option CacheEntry}
    (ended : (remote.deliver around allowNetwork path found).result = .ok ⟨content, .network⟩) :
    (Download.run around.network remote.timeout (urlFor remote.baseUrl path)).1 = .ok content := by
  simp only [deliver] at ended
  split at ended
  · cases ended
  · split at ended
    · split at ended
      · rename_i downloaded
        cases ended
        exact downloaded
      · rename_i failure _
        cases failure <;> cases found <;> cases ended
    · split at ended <;> cases ended

theorem published_of_make {call : Call} {content : String}
    (ended : (call.make remote table).1 = .ok ⟨content, .network⟩) :
    call.published remote = .ok content := by
  rw [make_eq] at ended
  exact deliver_network ended

theorem make_of_mem_replay {calls : List Call} {event : Event}
    (member : event ∈ (remote.replay table calls).1) :
    ∃ before, event.result = (event.call.make remote before).1 := by
  induction calls generalizing table with
  | nil => cases member
  | cons call rest ih =>
      rcases List.mem_cons.mp member with rfl | later
      · exact ⟨table, rfl⟩
      · exact ih later

/-- The sources of chains share a key exactly if their names end in the same segment and a folder
of frameworks is above both or neither; so those of plain languages and frameworks never do. In any
run of fetches from an empty table, a text that is not downloaded was downloaded by an earlier fetch
with the same key, and with the same path if both paths are those of plain names. -/
theorem documents_shared_by_last_segment :
    (∀ first second : Source, first.InChain (· ≠ "") → second.InChain (· ≠ "") →
      (first.key = second.key ↔
        CacheKey.title first.name = CacheKey.title second.name ∧
        CacheKey.isBelowFrameworks first.name = CacheKey.isBelowFrameworks second.name)) ∧
    (∀ first second : Source, first.InChain IsPlainName → second.InChain IsPlainName →
      first.remotePath ≠ second.remotePath → first.key ≠ second.key) ∧
    ∀ (remote : Remote) (calls : List Call) (call : Call) (fetched : Fetched),
      let past := remote.replay [] calls
      (call.make remote past.2).1 = .ok fetched → fetched.origin ≠ .network →
      ∃ event ∈ past.1, event.call.key = call.key ∧
        event.call.published remote = .ok fetched.content ∧
        ∀ asked downloaded : Source, asked.InChain IsPlainName →
          downloaded.InChain IsPlainName → call.path = asked.remotePath →
          event.call.path = downloaded.remotePath → event.call.path = call.path := by
  have apart : ∀ first second : Source, first.InChain IsPlainName → second.InChain IsPlainName →
      first.key = second.key → first.remotePath = second.remotePath := by
    intro first second inFirst inSecond same
    rw [Source.key, Source.key, inFirst.remotePath_eq, inSecond.remotePath_eq] at same
    have names := inFirst.isPlainDocument.ofPath_injective inSecond.isPlainDocument same
    rw [inFirst.remotePath_eq, inSecond.remotePath_eq, names]
  refine ⟨?_, fun first second inFirst inSecond => mt (apart first second inFirst inSecond), ?_⟩
  · intro first second inFirst inSecond
    rw [Source.key, Source.key, inFirst.remotePath_eq, inSecond.remotePath_eq]
    exact CacheKey.ofPath_named_eq_iff first.name second.name
  · intro remote calls call fetched past ended cached
    have empty : Reflects [] [] := ⟨List.nodup_nil, fun _ => rfl⟩
    have reflects : Reflects past.2 past.1 := replay_reflects remote calls empty
    obtain ⟨entry, held, content⟩ := make_cached ended cached
    obtain ⟨event, inPast, sameKey, result⟩ := mem_of_lastSaved ((reflects.find? _).symm.trans held)
    obtain ⟨before, made⟩ := make_of_mem_replay inPast
    refine ⟨event, inPast, sameKey, ?_, fun asked downloaded inAsked inDownloaded path other => ?_⟩
    · rw [content]
      exact published_of_make (made.symm.trans result)
    · rw [path, other]
      refine apart downloaded asked inDownloaded inAsked ?_
      rw [Source.key, Source.key, ← path, ← other]
      exact sameKey

end Remote

-- Rules for a language, and for one whose name has a folder in it.

namespace Remote.Sample

def remote : Remote := ⟨"http://rules", 10, .whole 1⟩

def call (path : String) : Call where
  path
  allowNetwork := true
  around := {
    network address := .response 200
      (if address = "http://rules/python.yml" then "plain" else "nested").toUTF8.toList
    now := 0 }

/-- The source of a document that is not built in. -/
def published (name : String) : Source :=
  ⟨name, name ++ ".yml", "http://rules/" ++ name ++ ".yml", none⟩

theorem published_inChain (language : String) (named : language ≠ "")
    (resolved : Source.chain ⟨⟨"/", ["rules"]⟩, remote.baseUrl⟩ {} language none =
      .ok [published "general", published language]) :
    (published language).InChain (· ≠ "") :=
  ⟨_, {}, language, none, _, named, nofun, resolved, by simp⟩

/-- The document of one language is served for another one. -/
theorem nested_document_served :
    let nested := published "nested/python"
    let plain := published "python"
    (nested.InChain (· ≠ "") ∧ plain.InChain (· ≠ "") ∧ nested.remotePath ≠ plain.remotePath ∧
      nested.key = plain.key) ∧
    (call nested.remotePath).published remote = .ok "nested" ∧
    (call plain.remotePath).published remote = .ok "plain" ∧
    ((call plain.remotePath).make remote (remote.replay [] [call nested.remotePath]).2).1 =
      .ok ⟨"nested", .cache⟩ := by
  refine ⟨⟨?_, ?_, by decide, by decide⟩, ?_, ?_, ?_⟩
  · exact published_inChain "nested/python" (by decide) (by decide +kernel)
  · exact published_inChain "python" (by decide) (by decide +kernel)
  · decide +kernel
  · decide +kernel
  · decide +kernel

end Remote.Sample

end Rulebook
