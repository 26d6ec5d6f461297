import Rulebook.Proofs.Classification.Ranking

namespace Rulebook.Classification

section

variable [Pattern.Edition] {α β : Type} [LinearOrder β] {scoring : Scoring α} {rank : α → β}
  {isRanked : α → Prop} {text : String} {rules : List Rule} {threshold : α}

theorem gives_unique {rule : Rule} {found other : Classification α}
    (gives : Gives scoring text rule found) (alsoGives : Gives scoring text rule other) :
    found = other :=
  Option.some.inj ((given_eq_some_iff.mpr gives).symm.trans (given_eq_some_iff.mpr alsoGives))

theorem IsStrongest.le {result : Classification α}
    (strongest : IsStrongest scoring rank text rules result) :
    ∀ rule ∈ rules, ∀ found, Gives scoring text rule found → found.category = result.category →
      rank found.confidence ≤ rank result.confidence := by
  obtain ⟨before, chosen, after, rfl, gives, earlier, later⟩ := strongest
  intro rule member found given same
  rcases List.mem_append.mp member with isBefore | isBehind
  · exact (earlier rule isBefore found given same).le
  · rcases List.mem_cons.mp isBehind with rfl | isAfter
    · exact (congrArg (rank ·.confidence) (gives_unique given gives)).le
    · exact later rule isAfter found given same

/-- The first result is as strong as whatever a rule gives. -/
theorem Ranks.le_first {first : Classification α} {rest : List (Classification α)}
    (ranks : Ranks scoring rank text rules (first :: rest)) :
    ∀ rule ∈ rules, ∀ found, Gives scoring text rule found →
      rank found.confidence ≤ rank first.confidence := by
  intro rule member found gives
  have isIn := (ranks.complete found.category).mpr
    ⟨rule, member, (exists_gives_iff scoring).mp ⟨found, gives, rfl⟩⟩
  -- The result of its own category is no weaker, and the first one no weaker than that.
  obtain ⟨result, isResult, same⟩ := List.mem_map.mp isIn
  have notAbove := (ranks.strongest result isResult).le rule member found gives same.symm
  rcases List.mem_cons.mp isResult with rfl | isBehind
  · exact notAbove
  · rcases (List.pairwise_cons.mp ranks.descends).1 result isBehind with less | ⟨equal, -⟩
    · exact notAbove.trans less.le
    · exact notAbove.trans equal.le

theorem Ranks.eq_nil_iff {results : List (Classification α)}
    (ranks : Ranks scoring rank text rules results) :
    results = [] ↔ ∀ rule ∈ rules, ∀ found, ¬Gives scoring text rule found := by
  constructor
  · rintro rfl rule member found gives
    have isIn := (ranks.complete found.category).mpr
      ⟨rule, member, (exists_gives_iff scoring).mp ⟨found, gives, rfl⟩⟩
    exact List.not_mem_nil isIn
  · intro none
    refine List.eq_nil_iff_forall_not_mem.mpr fun result member => ?_
    obtain ⟨before, rule, after, rfl, gives, -⟩ := ranks.strongest result member
    exact none rule (by simp) result gives

/-- The verdict on a text: as sure as the strongest of all rules. -/
structure Settles (scoring : Scoring α) (rank : α → β) (text : String) (rules : List Rule)
    (threshold : α) (outcome : Outcome α) : Prop where
  absent : outcome.result = none ↔ ∀ rule ∈ rules, ∀ found, ¬Gives scoring text rule found
  given : ∀ top ∈ outcome.result, ∃ rule ∈ rules, Gives scoring text rule top
  strongest : ∀ top ∈ outcome.result, ∀ rule ∈ rules, ∀ found, Gives scoring text rule found →
    rank found.confidence ≤ rank top.confidence
  ambiguous : outcome.ambiguous = true ↔ ∀ rule ∈ rules, ∀ found,
    Gives scoring text rule found → rank found.confidence < rank threshold

theorem Ranks.settles {results : List (Classification α)}
    (ranks : Ranks scoring rank text rules results)
    (compares : Sorting.Compares scoring.less rank isRanked) (isRankedThreshold : isRanked threshold)
    (ranked : ∀ rule ∈ rules, ∀ found, Gives scoring text rule found → isRanked found.confidence) :
    Settles scoring rank text rules threshold (decide scoring.less threshold results) := by
  cases results with
  | nil =>
      have none := ranks.eq_nil_iff.mp rfl
      exact ⟨iff_of_true rfl none, nofun, nofun,
        iff_of_true rfl fun rule member found gives => absurd gives (none rule member found)⟩
  | cons top rest =>
      obtain ⟨before, rule, after, split, gives, -⟩ :=
        ranks.strongest top List.mem_cons_self
      have isRule : rule ∈ rules := by simp [split]
      refine ⟨iff_of_false nofun fun none => none rule isRule top gives, ?_, ?_, ?_⟩
      · rintro _ ⟨⟩
        exact ⟨rule, isRule, gives⟩
      · rintro _ ⟨⟩
        exact ranks.le_first
      · refine (compares.less_iff (ranked rule isRule top gives) isRankedThreshold).trans ?_
        constructor
        · exact fun below rule member found gives =>
            (ranks.le_first rule member found gives).trans_lt below
        · exact fun all => all rule isRule top gives

theorem best_eq_ok_iff (outcome : Outcome α) :
    (best scoring {} threshold text rules).1 = .ok outcome ↔
      ∃ results, (classify scoring {} text rules).1 = .ok results ∧
        decide scoring.less threshold results = outcome :=
  except_map_eq_ok

theorem best_returns_iff (distinct : (rules.map Rule.id).Nodup) :
    (∃ outcome, (best scoring {} threshold text rules).1 = .ok outcome) ↔
      ∀ rule ∈ rules, isScored rule → rule.CanCount text := by
  have classified : (∃ results, (classify scoring {} text rules).1 = .ok results) ↔ _ :=
    classify_returns_iff distinct
  rw [← classified]
  simp only [best_eq_ok_iff]
  constructor
  · rintro ⟨-, results, ended, -⟩
    exact ⟨results, ended⟩
  · rintro ⟨results, ended⟩
    exact ⟨_, results, ended, rfl⟩

theorem settles_of_best (compares : Sorting.Compares scoring.less rank isRanked)
    (distinct : (rules.map Rule.id).Nodup) (isRankedThreshold : isRanked threshold)
    (ranked : ∀ rule ∈ rules, ∀ found, Gives scoring text rule found → isRanked found.confidence)
    {outcome : Outcome α} (ended : (best scoring {} threshold text rules).1 = .ok outcome) :
    Settles scoring rank text rules threshold outcome := by
  obtain ⟨results, classified, rfl⟩ := (best_eq_ok_iff outcome).mp ended
  exact (ranks_of_classified compares distinct ranked classified).settles compares
    isRankedThreshold ranked

theorem best_large_count (scoring : Scoring α) (threshold : α) (text : String) {rule : Rule}
    {category : String} {weight : Float} (filed : rule.category = some category)
    (weighed : rule.weight = some weight)
    (large : rule.pattern = some "a\x7b4294967295\x7d") :
    (best scoring {} threshold text [rule]).1 = .error .repeatTooLarge :=
  except_map_eq_error.mpr (classify_large_count scoring text filed weighed large)

/-- There is a verdict exactly if the matches of all rules with category and weight can be counted.
It has a result exactly if a rule matches, and that is as confident as any rule is. It is open exactly
if the confidence of every rule that matches is below the threshold. -/
theorem best_settles (text : String) {rules : List Rule} (distinct : (rules.map Rule.id).Nodup)
    (weighed : ∀ rule ∈ rules, ∀ weight ∈ rule.weight, weight.isNaN = false) {threshold : Float}
    (isNumber : threshold.isNaN = false) :
    ((∃ outcome, (best .density {} threshold text rules).1 = .ok outcome) ↔
      ∀ rule ∈ rules, isScored rule → rule.CanCount text) ∧
    ∀ outcome, (best .density {} threshold text rules).1 = .ok outcome →
      (outcome.result = none ↔
        ∀ rule ∈ rules, ∀ category weight hits, ¬rule.Matches text category weight hits) ∧
      (∀ top ∈ outcome.result, (∃ rule ∈ rules, Gives .density text rule top) ∧
        ∀ rule ∈ rules, ∀ found, Gives .density text rule found →
          found.confidence ≤ top.confidence) ∧
      (outcome.ambiguous = true ↔ ∀ rule ∈ rules, ∀ found, Gives .density text rule found →
        found.confidence < threshold) := by
  have ranked : ∀ rule ∈ rules, ∀ found, Gives .density text rule found →
      found.confidence.isNaN = false := by
    rintro rule isRule found ⟨weight, hits, matched, confident, -⟩
    exact confident ▸ Scoring.density_ranksBy.ranked _ _ _ (weighed rule isRule weight matched.weighed)
  refine ⟨best_returns_iff distinct, fun outcome ended => ?_⟩
  obtain ⟨absent, given, strongest, ambiguous⟩ :=
    settles_of_best Scoring.density_ranksBy.compares distinct isNumber ranked ended
  refine ⟨absent.trans ?_, fun top isTop => ⟨given top isTop, ?_⟩, ambiguous.trans ?_⟩
  · refine forall₂_congr fun rule isRule => ⟨fun none category weight hits matched => ?_, ?_⟩
    · obtain ⟨found, gives, -⟩ := (exists_gives_iff Scoring.density).mpr ⟨weight, hits, matched⟩
      exact none found gives
    · rintro none found ⟨weight, hits, matched, -⟩
      exact none found.category weight hits matched
  · intro rule isRule found gives
    obtain ⟨own, isOwn, givesTop⟩ := given top isTop
    exact (Decimal.le_iff_rank_le (ranked rule isRule found gives)
      (ranked own isOwn top givesTop)).mpr (strongest top isTop rule isRule found gives)
  · refine forall₄_congr fun rule isRule found gives => ?_
    exact (Decimal.lt_iff_rank_lt (ranked rule isRule found gives) isNumber).symm

end

theorem best_settles_alpha :
    let rule : Rule :=
      { id := "one", pattern := some "alpha", category := some "letters", weight := some 1.0 }
    ∃ outcome, (best .density {} 0.5 "alpha" [rule]).1 = .ok outcome ∧ outcome.result ≠ none := by
  intro rule
  have distinct : ([rule].map Rule.id).Nodup := List.nodup_singleton _
  have weighed : ∀ other ∈ [rule], ∀ weight ∈ other.weight, weight.isNaN = false :=
    List.forall_mem_singleton.mpr fun weight isWeight => by
      obtain rfl := Option.some.inj isWeight
      decide +kernel
  have isNumber : (0.5 : Float).isNaN = false := by decide +kernel
  have settled := best_settles "alpha" distinct weighed isNumber
  have counted : hits "alpha" {} rule = .ok 1 := hits_alpha rfl
  have matched : rule.Matches "alpha" "letters" 1.0 1 :=
    ⟨rfl, rfl, (hits_eq_succ_iff "alpha" 0).mp counted, Nat.one_pos⟩
  obtain ⟨outcome, ended⟩ := settled.1.mpr <| List.forall_mem_singleton.mpr fun _ =>
    (canCount_iff "alpha").mpr ⟨1, counted⟩
  refine ⟨outcome, ended, fun none => ?_⟩
  exact (settled.2 outcome ended).1.mp none rule (List.mem_singleton_self rule) _ _ _ matched

/-- A rule with a count that is too large leaves a text without verdict. -/
theorem large_count_without_verdict :
    let rule : Rule :=
      { id := "r", pattern := some "a\x7b4294967295\x7d", category := some "c", weight := some 1.0 }
    (best .density {} 0.5 "a" [rule]).1 = .error .repeatTooLarge :=
  best_large_count .density 0.5 "a" rfl rfl rfl

end Rulebook.Classification
