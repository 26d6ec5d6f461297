import Rulebook.Proofs.Classification.Candidates
import Rulebook.Proofs.Classification.Density
import Rulebook.Proofs.Running
import Rulebook.Proofs.Sorting.Stable

namespace Rulebook

namespace Classification

section

variable [Pattern.Edition] {α β : Type} [LinearOrder β] {scoring : Scoring α} {rank : α → β}
  {isRanked : α → Prop} {text : String} {rules : List Rule}

/-- Rules come to a category before they come to another. -/
def MatchesFirst (text : String) (rules : List Rule) (category other : String) : Prop :=
  ∃ before rule after, rules = before ++ rule :: after ∧
    (∃ weight hits, rule.Matches text category weight hits) ∧
    ∀ earlier ∈ before, ¬∃ weight hits, earlier.Matches text other weight hits

/-- What a rule gives for a text is stronger than all that the rules before it give for its category,
and no weaker than what those behind it do. -/
def IsStrongest (scoring : Scoring α) (rank : α → β) (text : String) (rules : List Rule)
    (result : Classification α) : Prop :=
  ∃ before rule after, rules = before ++ rule :: after ∧ Gives scoring text rule result ∧
    (∀ other ∈ before, ∀ found, Gives scoring text other found →
      found.category = result.category → rank found.confidence < rank result.confidence) ∧
    ∀ other ∈ after, ∀ found, Gives scoring text other found →
      found.category = result.category → rank found.confidence ≤ rank result.confidence

/-- The results for a text: one for each category that has a match, the strongest first. -/
structure Ranks (scoring : Scoring α) (rank : α → β) (text : String) (rules : List Rule)
    (results : List (Classification α)) : Prop where
  distinct : (results.map (·.category)).Nodup
  complete : ∀ category, category ∈ results.map (·.category) ↔
    ∃ rule ∈ rules, ∃ weight hits, rule.Matches text category weight hits
  strongest : ∀ result ∈ results, IsStrongest scoring rank text rules result
  descends : results.Pairwise fun first second =>
    rank second.confidence < rank first.confidence ∨
      rank second.confidence = rank first.confidence ∧
        MatchesFirst text rules first.category second.category

theorem mem_given_iff {found : Classification α} :
    found ∈ rules.filterMap (given scoring text) ↔
      ∃ rule ∈ rules, Gives scoring text rule found := by
  simp only [List.mem_filterMap, given_eq_some_iff]

theorem given_split {before after : List (Classification α)} {found : Classification α}
    (split : rules.filterMap (given scoring text) = before ++ found :: after) :
    ∃ earlier rule later, rules = earlier ++ rule :: later ∧
      earlier.filterMap (given scoring text) = before ∧ Gives scoring text rule found ∧
      later.filterMap (given scoring text) = after := by
  obtain ⟨first, second, rfl, firstGives, secondGives⟩ := List.filterMap_eq_append_iff.mp split
  obtain ⟨idle, rule, later, rfl, giveNone, gives, laterGives⟩ :=
    List.filterMap_eq_cons_iff.mp secondGives
  refine ⟨first ++ idle, rule, later, by simp, ?_, given_eq_some_iff.mp gives, laterGives⟩
  rw [List.filterMap_append, firstGives, List.filterMap_eq_nil_iff.mpr giveNone, List.append_nil]

theorem IsFirstBest.isStrongest {result : Classification α}
    (isBest : IsFirstBest rank (rules.filterMap (given scoring text)) result) :
    IsStrongest scoring rank text rules result := by
  obtain ⟨before, after, split, earlier, later⟩ := isBest
  obtain ⟨above, rule, below, rfl, rfl, gives, rfl⟩ := given_split split
  exact ⟨above, rule, below, rfl, gives,
    fun other member found given => earlier found (mem_given_iff.mpr ⟨other, member, given⟩),
    fun other member found given => later found (mem_given_iff.mpr ⟨other, member, given⟩)⟩

theorem ComesFirst.matchesFirst {category other : String}
    (first : ComesFirst (rules.filterMap (given scoring text)) category other) :
    MatchesFirst text rules category other := by
  obtain ⟨before, found, after, split, same, unseen⟩ := first
  obtain ⟨above, rule, below, rfl, rfl, gives, rfl⟩ := given_split split
  refine ⟨above, rule, below, rfl, (exists_gives_iff scoring).mp ⟨found, gives, same⟩, ?_⟩
  intro earlier member matched
  obtain ⟨known, given, isOther⟩ := (exists_gives_iff scoring).mpr matched
  exact unseen known (mem_given_iff.mpr ⟨earlier, member, given⟩) isOther

theorem Keeps.ranks {best results : List (Classification α)}
    (keeps : Keeps rank (rules.filterMap (given scoring text)) best)
    (sorts : Sorting.Sorts (OrderDual.toDual ∘ rank ∘ Classification.confidence)
      (isRanked ∘ Classification.confidence) best results) :
    Ranks scoring rank text rules results := by
  have perm := sorts.rearranges.perm
  refine ⟨(perm.map _).nodup_iff.mpr keeps.distinct, fun category => ?_, fun result member => ?_, ?_⟩
  · rw [(perm.map _).mem_iff]
    constructor
    · intro member
      obtain ⟨held, isHeld, rfl⟩ := List.mem_map.mp member
      obtain ⟨rule, isRule, gives⟩ := mem_given_iff.mp (keeps.mem_founds isHeld)
      exact ⟨rule, isRule, (exists_gives_iff scoring).mp ⟨held, gives, rfl⟩⟩
    · rintro ⟨rule, isRule, matched⟩
      obtain ⟨found, gives, rfl⟩ := (exists_gives_iff scoring).mpr matched
      exact keeps.complete found (mem_given_iff.mpr ⟨rule, isRule, gives⟩)
  · exact (keeps.strongest result (perm.mem_iff.mp member)).isStrongest
  · refine (sorts.pairwise (List.pairwise_map.mp keeps.inOrder)).imp ?_
    rintro first second (less | ⟨same, isFirst⟩)
    · exact .inl less
    · exact .inr ⟨same.symm, isFirst.matchesFirst⟩

/-- What is returned is put together from all rules, if the matches of each can be counted. -/
theorem classify_eq_ok_iff (distinct : (rules.map Rule.id).Nodup)
    (results : List (Classification α)) :
    (classify scoring {} text rules).1 = .ok results ↔
      (∀ rule ∈ rules, isScored rule → rule.CanCount text) ∧
        Sorting.descend (fun first second => scoring.less first.confidence second.confidence)
          (keepAll scoring.less [] (rules.filterMap (given scoring text))) = results := by
  have scored (best : List (Classification α)) :
      (scoreAll scoring text (Text.wordCount text) {} [] rules).1 = .ok best ↔ _ :=
    scoreAll_eq_ok_iff distinct (Compiler.answersOwn_empty rules)
  rw [classify_eq]
  refine except_map_eq_ok.trans ⟨?_, ?_⟩
  · rintro ⟨best, ended, rfl⟩
    obtain ⟨all, rfl⟩ := (scored best).mp ended
    exact ⟨all, rfl⟩
  · rintro ⟨all, rfl⟩
    exact ⟨_, (scored _).mpr ⟨all, rfl⟩, rfl⟩

theorem classify_returns_iff (distinct : (rules.map Rule.id).Nodup) :
    (∃ results, (classify scoring {} text rules).1 = .ok results) ↔
      ∀ rule ∈ rules, isScored rule → rule.CanCount text := by
  simp only [classify_eq_ok_iff distinct, exists_and_left, exists_eq', and_true]

theorem ranks_of_classified (compares : Sorting.Compares scoring.less rank isRanked)
    (distinct : (rules.map Rule.id).Nodup)
    (ranked : ∀ rule ∈ rules, ∀ found, Gives scoring text rule found → isRanked found.confidence)
    {results : List (Classification α)}
    (ended : (classify scoring {} text rules).1 = .ok results) :
    Ranks scoring rank text rules results := by
  obtain ⟨-, rfl⟩ := (classify_eq_ok_iff distinct results).mp ended
  have allRanked : ∀ found ∈ rules.filterMap (given scoring text), isRanked found.confidence := by
    intro found member
    obtain ⟨rule, isRule, gives⟩ := mem_given_iff.mp member
    exact ranked rule isRule found gives
  have keeps := (keeps_nil rank).keepAll compares allRanked
  have comparesHeld : Sorting.Compares
      (fun first second => scoring.less first.confidence second.confidence)
      (rank ∘ Classification.confidence) (isRanked ∘ Classification.confidence) :=
    fun first second => compares first.confidence second.confidence
  exact keeps.ranks (Sorting.descend_sorts comparesHeld _ fun held member =>
    allRanked held (keeps.mem_founds member))

theorem classify_large_count (scoring : Scoring α) (text : String) {rule : Rule}
    {category : String} {weight : Float} (filed : rule.category = some category)
    (weighed : rule.weight = some weight)
    (large : rule.pattern = some "a\x7b4294967295\x7d") :
    (classify scoring {} text [rule]).1 = .error .repeatTooLarge := by
  rw [classify_singleton scoring text {} filed weighed, hits_large_count text large]
  rfl

/-- A text is classified exactly if the matches of all rules with category and weight can be counted,
and then the results are its ranking. -/
theorem classify_ranks (ranksBy : scoring.RanksBy rank isRanked) (text : String)
    (distinct : (rules.map Rule.id).Nodup)
    (weighed : ∀ rule ∈ rules, ∀ weight ∈ rule.weight, weight.isNaN = false) :
    ((∃ results, (classify scoring {} text rules).1 = .ok results) ↔
      ∀ rule ∈ rules, isScored rule → rule.CanCount text) ∧
    ∀ results, (classify scoring {} text rules).1 = .ok results →
      Ranks scoring rank text rules results := by
  refine ⟨classify_returns_iff distinct, fun results ended => ?_⟩
  refine ranks_of_classified ranksBy.compares distinct (fun rule isRule found gives => ?_) ended
  obtain ⟨weight, hits, matched, confident, -⟩ := gives
  exact confident ▸ ranksBy.ranked _ _ _ (weighed rule isRule weight matched.weighed)

end

theorem classify_ranks_alpha :
    let rule : Rule :=
      { id := "one", pattern := some "alpha", category := some "letters", weight := some 1.0 }
    ∃ results, (classify .density {} "alpha" [rule]).1 = .ok results ∧
      Ranks .density Decimal.rank "alpha" [rule] results := by
  intro rule
  have distinct : ([rule].map Rule.id).Nodup := List.nodup_singleton _
  have weighed : ∀ other ∈ [rule], ∀ weight ∈ other.weight, weight.isNaN = false :=
    List.forall_mem_singleton.mpr fun weight isWeight => by
      obtain rfl := Option.some.inj isWeight
      decide +kernel
  have ranked := classify_ranks Scoring.density_ranksBy "alpha" distinct weighed
  obtain ⟨results, classified⟩ := ranked.1.mpr <| List.forall_mem_singleton.mpr fun _ =>
    (canCount_iff "alpha").mpr ⟨1, hits_alpha rfl⟩
  exact ⟨results, classified, ranked.2 results classified⟩

/-- A rule with a count that is too large leaves a text without results. -/
theorem large_count_not_classified :
    let rule : Rule :=
      { id := "r", pattern := some "a\x7b4294967295\x7d", category := some "c", weight := some 1.0 }
    (classify .density {} "a" [rule]).1 = .error .repeatTooLarge :=
  classify_large_count .density "a" rfl rfl rfl

end Classification

end Rulebook
