import Mathlib.Data.List.Nodup
import Rulebook.Proofs.Running
import Rulebook.Proofs.Text
import Rulebook.Source

namespace Rulebook

/-- A name that is a single segment of a path. -/
def IsPlainName (name : String) : Prop := name ≠ "" ∧ '/' ∉ name.toList

instance (name : String) : Decidable (IsPlainName name) := inferInstanceAs (Decidable (_ ∧ _))

variable {name language : String} {framework : Option String}

theorem Path.stem_document (named : name ≠ "") : Path.stem (name ++ ".yml") = name := by
  have nonempty : 0 < name.toList.length := List.length_pos_iff.mpr (by simpa using named)
  have reversed : (name ++ ".yml").toList.reverse =
      'l' :: 'm' :: 'y' :: '.' :: name.toList.reverse := by
    simp
  have ending : ((name ++ ".yml").toList.reverse.takeWhile (· ≠ '.')).length = 3 := by
    rw [reversed]
    simp
  have chars : (name ++ ".yml").toList.length = name.toList.length + 4 := by simp
  simp only [Path.stem, ending, chars]
  rw [if_pos (by omega), show name.toList.length + 4 - 3 - 1 = name.toList.length by omega]
  simp

theorem IsPlainName.document (plain : IsPlainName name) :
    '/' ∉ (name ++ ".yml").toList ∧ Path.isSegment (name ++ ".yml").toList := by
  refine ⟨by simpa using plain.2, ?_⟩
  have long : (name ++ ".yml").toList.length ≠ ['.'].length := by simp
  have other : (name ++ ".yml").toList ≠ ['.'] := fun same => long (congrArg List.length same)
  simp only [Path.isSegment, Bool.and_eq_true, decide_eq_true_eq]
  exact ⟨by simp, other⟩

theorem Path.parse_document (plain : IsPlainName name) :
    (Path.parse (name ++ ".yml")).segments = [name ++ ".yml"] := by
  obtain ⟨single, segment⟩ := plain.document
  rw [Path.parse, Text.splitAt_of_notMem single, List.filter_singleton, segment]
  simp only [cond_true, List.map_singleton, String.ofList_toList]

theorem Path.parse_frameworkDocument (plain : IsPlainName name) :
    (Path.parse (frameworksFolder ++ "/" ++ name ++ ".yml")).segments =
      [frameworksFolder, name ++ ".yml"] := by
  obtain ⟨single, segment⟩ := plain.document
  have chars : (frameworksFolder ++ "/" ++ name ++ ".yml").toList =
      frameworksFolder.toList ++ '/' :: (name ++ ".yml").toList := by simp
  have split : Text.splitAt '/' (frameworksFolder ++ "/" ++ name ++ ".yml").toList =
      [frameworksFolder.toList, (name ++ ".yml").toList] := by
    rw [chars, Text.splitAt_append (by decide), Text.splitAt_of_notMem single]
  have folder : Path.isSegment frameworksFolder.toList := by decide
  simp only [Path.parse, split, List.filter_cons_of_pos folder, List.filter_singleton, segment,
    cond_true, List.map_cons, List.map_nil, String.ofList_toList]

theorem CacheKey.trimmed {path : String} (head : '/' ∉ path.toList.head?)
    (last : '/' ∉ path.toList.getLast?) :
    String.ofList (Text.trim (· == '/') path.toList) = path := by
  rw [Text.trim_eq_self, String.ofList_toList]
  · intro c member
    exact beq_eq_false_iff_ne.mpr fun same => head (same ▸ member)
  · intro c member
    exact beq_eq_false_iff_ne.mpr fun same => last (same ▸ member)

theorem CacheKey.ofPath_document (plain : IsPlainName name) :
    CacheKey.ofPath (name ++ ".yml") = { topic := name } := by
  have trimmed : String.ofList (Text.trim (· == '/') (name ++ ".yml").toList) = name ++ ".yml" :=
    trimmed (fun member => plain.document.1 (List.mem_of_mem_head? member))
      (fun member => plain.document.1 (List.mem_of_mem_getLast? member))
  simp only [CacheKey.ofPath, trimmed, Path.parse_document plain]
  simp [Path.stem_document plain.1]

theorem CacheKey.ofPath_frameworkDocument (plain : IsPlainName name) :
    CacheKey.ofPath (frameworksFolder ++ "/" ++ name ++ ".yml") =
      { topic := name, framework := name } := by
  have trimmed : String.ofList (Text.trim (· == '/')
      (frameworksFolder ++ "/" ++ name ++ ".yml").toList) =
      frameworksFolder ++ "/" ++ name ++ ".yml" :=
    trimmed (by simp [frameworksFolder])
      (by rw [String.toList_append, List.getLast?_append]; simp)
  simp only [CacheKey.ofPath, trimmed, Path.parse_frameworkDocument plain]
  simp [Path.stem_document plain.1]

/-- The keys of the documents that a chain names are distinct. -/
theorem Source.chainNames_keys_nodup (languagePlain : IsPlainName language)
    (frameworkPlain : ∀ name ∈ framework, IsPlainName name) :
    ((chainNames language framework).map fun name => CacheKey.ofPath (name ++ ".yml")).Nodup := by
  have general : CacheKey.ofPath (generalLanguage ++ ".yml") = { topic := generalLanguage } :=
    CacheKey.ofPath_document (by decide)
  have own : CacheKey.ofPath (language ++ ".yml") = { topic := language } :=
    CacheKey.ofPath_document languagePlain
  by_cases same : language = generalLanguage
  · subst same
    cases framework with
    | none => simp [chainNames]
    | some name =>
        have plain := frameworkPlain name rfl
        have below := CacheKey.ofPath_frameworkDocument plain
        simp [chainNames, plain.1, general, below, plain.1.symm]
  · cases framework with
    | none => simp [chainNames, same, general, own, Ne.symm same]
    | some name =>
        have plain := frameworkPlain name rfl
        have below := CacheKey.ofPath_frameworkDocument plain
        simp [chainNames, same, plain.1, general, own, below, Ne.symm same, plain.1.symm]

theorem Source.find_remotePath {catalog : Catalog} {files : Files} {source : Source}
    (found : find catalog files name = .ok source) : source.remotePath = name ++ ".yml" := by
  obtain ⟨isBuiltin, -, made⟩ := except_bind_eq_ok.mp found
  cases made
  rfl

/-- The key of the source's document. -/
def Source.key (source : Source) : CacheKey := CacheKey.ofPath source.remotePath

theorem Source.keys_of_names {catalog : Catalog} {files : Files} {names : List String}
    {sources : List Source} (found : names.mapM (find catalog files) = .ok sources) :
    sources.map Source.key = names.map fun name => CacheKey.ofPath (name ++ ".yml") := by
  induction names generalizing sources with
  | nil =>
      cases found
      rfl
  | cons name rest ih =>
      rw [List.mapM_cons, except_bind_eq_ok] at found
      obtain ⟨source, first, found⟩ := found
      obtain ⟨others, following, made⟩ := except_bind_eq_ok.mp found
      cases made
      simp only [List.map_cons, ih following, Source.key, find_remotePath first]

theorem Source.chain_keys_nodup {catalog : Catalog} {files : Files} {sources : List Source}
    (languagePlain : IsPlainName language) (frameworkPlain : ∀ name ∈ framework, IsPlainName name)
    (resolved : chain catalog files language framework = .ok sources) :
    (sources.map Source.key).Nodup := by
  rw [keys_of_names resolved]
  exact chainNames_keys_nodup languagePlain frameworkPlain

end Rulebook
