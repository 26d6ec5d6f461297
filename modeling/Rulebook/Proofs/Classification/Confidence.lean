import Rulebook.Proofs.Classification.Verdict

namespace Rulebook

/-- The measure in use, with rational numbers in place of doubles. -/
def Scoring.exact (weigh : Float → ℚ) : Scoring ℚ := .proportional Nat.cast weigh

/-- The number of matches from which on a text is full of them, as a rational number. -/
def exactFullMatches (words : Nat) : ℚ := fullMatches Nat.cast words

/-- The share of matches among the words, as a rational number. -/
def exactDensity (hits words : Nat) : ℚ := matchDensity Nat.cast hits words

section Density

variable {hits more words : Nat}

theorem exactFullMatches_eq (words : Nat) : exactFullMatches words = max 1 ((words : ℚ) / 10) := by
  have units : (1.0 : ℚ) = 1 ∧ (10.0 : ℚ) = 10 := by norm_num
  rw [exactFullMatches, fullMatches, units.1, units.2, max_def_lt]
  split <;> split <;> first | rfl | order

/-- Nothing is divided by zero, whatever the number of words is. -/
theorem one_le_exactFullMatches (words : Nat) : 1 ≤ exactFullMatches words := by
  rw [exactFullMatches_eq]
  exact le_max_left 1 _

theorem exactFullMatches_pos (words : Nat) : 0 < exactFullMatches words :=
  one_pos.trans_le (one_le_exactFullMatches words)

theorem exactFullMatches_mono (fewer : words ≤ more) :
    exactFullMatches words ≤ exactFullMatches more := by
  rw [exactFullMatches_eq, exactFullMatches_eq]
  gcongr

theorem exactDensity_eq (hits words : Nat) :
    exactDensity hits words = min (hits / exactFullMatches words) 1 := by
  have unit : (1.0 : ℚ) = 1 := by norm_num
  rw [exactDensity, matchDensity, unit, min_def_lt]
  rfl

theorem exactDensity_pos (words : Nat) (some : 0 < hits) : 0 < exactDensity hits words := by
  rw [exactDensity_eq]
  exact lt_min (div_pos (Nat.cast_pos.mpr some) (exactFullMatches_pos words)) one_pos

theorem exactDensity_le_one (hits words : Nat) : exactDensity hits words ≤ 1 := by
  rw [exactDensity_eq]
  exact min_le_right _ _

/-- A text is full of matches from one match in ten words on, and of few words from one on. -/
theorem exactDensity_eq_one_iff (hits words : Nat) :
    exactDensity hits words = 1 ↔ max words 10 ≤ 10 * hits := by
  rw [exactDensity_eq, min_eq_right_iff, one_le_div (exactFullMatches_pos words),
    exactFullMatches_eq, max_le_iff, max_le_iff, div_le_iff₀ (by norm_num)]
  norm_cast
  omega

theorem exactDensity_mono (words : Nat) (fewer : hits ≤ more) :
    exactDensity hits words ≤ exactDensity more words := by
  have full := exactFullMatches_pos words
  rw [exactDensity_eq, exactDensity_eq]
  gcongr

theorem exactDensity_anti (hits : Nat) (fewer : words ≤ more) :
    exactDensity hits more ≤ exactDensity hits words := by
  have full := exactFullMatches_pos words
  have fuller := exactFullMatches_mono fewer
  rw [exactDensity_eq, exactDensity_eq]
  gcongr

end Density

namespace Scoring

variable {weigh : Float → ℚ} {weight : Float} {hits more words : Nat}

theorem exact_confidence (weigh : Float → ℚ) (weight : Float) (hits words : Nat) :
    (exact weigh).confidence weight hits words =
      weigh weight * (1 / 2 + 1 / 2 * exactDensity hits words) := by
  have half : (0.5 : ℚ) = 1 / 2 := by norm_num
  change weigh weight * (0.5 + 0.5 * exactDensity hits words) = _
  rw [half]

/-- How a confidence depends on the weight, the matches and the words. -/
structure HalfToWhole (scoring : Scoring ℚ) (weigh : Float → ℚ) : Prop where
  moreThanHalf : ∀ weight hits words, 0 < weigh weight → 0 < hits →
    weigh weight / 2 < scoring.confidence weight hits words
  atMostWhole : ∀ weight hits words, 0 < weigh weight →
    scoring.confidence weight hits words ≤ weigh weight
  whole_iff : ∀ weight hits words, 0 < weigh weight →
    (scoring.confidence weight hits words = weigh weight ↔ max words 10 ≤ 10 * hits)
  mono : ∀ weight hits more words, 0 < weigh weight → hits ≤ more →
    scoring.confidence weight hits words ≤ scoring.confidence weight more words
  anti : ∀ weight hits words more, 0 < weigh weight → words ≤ more →
    scoring.confidence weight hits more ≤ scoring.confidence weight hits words

theorem exact_halfToWhole (weigh : Float → ℚ) : (exact weigh).HalfToWhole weigh := by
  constructor
  · intro weight hits words positive some
    have share := mul_pos positive (exactDensity_pos words some)
    rw [exact_confidence]
    linarith
  · intro weight hits words positive
    have share := mul_le_mul_of_nonneg_left (exactDensity_le_one hits words) positive.le
    rw [exact_confidence]
    linarith
  · intro weight hits words positive
    rw [← exactDensity_eq_one_iff, exact_confidence, mul_eq_left₀ positive.ne']
    constructor <;> intro <;> linarith
  · intro weight hits more words positive fewer
    have share := mul_le_mul_of_nonneg_left (exactDensity_mono words fewer) positive.le
    rw [exact_confidence, exact_confidence]
    linarith
  · intro weight hits words more positive fewer
    have share := mul_le_mul_of_nonneg_left (exactDensity_anti hits fewer) positive.le
    rw [exact_confidence, exact_confidence]
    linarith

theorem exact_ranksBy (weigh : Float → ℚ) : (exact weigh).RanksBy id fun _ => True :=
  ranksBy_id (exact weigh).confidence

theorem exact_lt_of_lt {threshold : ℚ} (positive : 0 < threshold) (some : 0 < hits) (words : Nat)
    (below : weigh weight < threshold) :
    (exact weigh).confidence weight hits words < threshold := by
  rcases lt_or_ge 0 (weigh weight) with above | notAbove
  · exact ((exact_halfToWhole weigh).atMostWhole weight hits words above).trans_lt below
  · have share := mul_nonpos_of_nonpos_of_nonneg notAbove (exactDensity_pos words some).le
    rw [exact_confidence]
    linarith

end Scoring

namespace Classification

/-- In exact arithmetic a confidence lies between half of the weight and the weight, with no division
by zero. A verdict is open if all weights are below the threshold, and it is not if a rule matches
whose weight is twice the threshold. -/
theorem exact_settles [Pattern.Edition] (weigh : Float → ℚ) (text : String) {rules : List Rule}
    (distinct : (rules.map Rule.id).Nodup) {threshold : ℚ} (positive : 0 < threshold) :
    (Scoring.exact weigh).HalfToWhole weigh ∧ (∀ words, 1 ≤ exactFullMatches words) ∧
    ((∃ outcome, (best (.exact weigh) {} threshold text rules).1 = .ok outcome) ↔
      ∀ rule ∈ rules, isScored rule → rule.CanCount text) ∧
    ∀ outcome, (best (.exact weigh) {} threshold text rules).1 = .ok outcome →
      ((∀ rule ∈ rules, ∀ weight ∈ rule.weight, weigh weight < threshold) →
        outcome.ambiguous = true) ∧
      ((∃ rule ∈ rules, ∃ category weight hits, rule.Matches text category weight hits ∧
        2 * threshold ≤ weigh weight) → outcome.ambiguous = false) := by
  have halfToWhole := Scoring.exact_halfToWhole weigh
  refine ⟨halfToWhole, one_le_exactFullMatches, best_returns_iff distinct, fun outcome ended => ?_⟩
  have ambiguous := (settles_of_best (Scoring.exact_ranksBy weigh).compares distinct trivial
    (fun _ _ _ _ => trivial) ended).ambiguous
  constructor
  · intro below
    refine ambiguous.mpr ?_
    rintro rule isRule found ⟨weight, hits, matched, confident, -⟩
    rw [confident]
    exact Scoring.exact_lt_of_lt positive matched.occurs _
      (below rule isRule weight matched.weighed)
  · rintro ⟨rule, isRule, category, weight, hits, matched, large⟩
    have gives : Gives (.exact weigh) text rule ⟨category,
        (Scoring.exact weigh).confidence weight hits (Text.wordCount text), rule.id⟩ :=
      ⟨weight, hits, matched, rfl, rfl⟩
    have half := halfToWhole.moreThanHalf weight hits (Text.wordCount text) (by linarith)
      matched.occurs
    refine Bool.eq_false_iff.mpr fun isOpen => ?_
    have below := ambiguous.mp isOpen rule isRule _ gives
    simp only [id_eq] at below
    linarith

theorem exact_settles_alpha :
    let rule : Rule :=
      { id := "one", pattern := some "alpha", category := some "letters", weight := some 1.0 }
    ∃ outcome, (best (.exact Decimal.worth) {} (1 / 2) "alpha" [rule]).1 = .ok outcome ∧
      outcome.ambiguous = false := by
  intro rule
  have distinct : ([rule].map Rule.id).Nodup := List.nodup_singleton _
  have positive : (0 : ℚ) < 1 / 2 := by norm_num
  have settled := exact_settles Decimal.worth "alpha" distinct positive
  have counted : hits "alpha" {} rule = .ok 1 := hits_alpha rfl
  have matched : rule.Matches "alpha" "letters" 1.0 1 :=
    ⟨rfl, rfl, (hits_eq_succ_iff "alpha" 0).mp counted, Nat.one_pos⟩
  have worth : Decimal.worth 1.0 = 1 := by
    rw [Decimal.worth, Decimal.unpack_one, Decimal.worthOf_positive]
    norm_num
  obtain ⟨outcome, ended⟩ := settled.2.2.1.mpr <| List.forall_mem_singleton.mpr fun _ =>
    (canCount_iff "alpha").mpr ⟨1, counted⟩
  refine ⟨outcome, ended, (settled.2.2.2 outcome ended).2 ?_⟩
  exact ⟨rule, List.mem_singleton_self rule, _, _, _, matched, by rw [worth]; norm_num⟩

/-- A rule with a count that is too large, and a weight below the threshold, leaves a text without
verdict. -/
theorem large_count_not_ambiguous :
    let rule : Rule :=
      { id := "r", pattern := some "a\x7b4294967295\x7d", category := some "c", weight := some 0.25 }
    (best (.exact Decimal.worth) {} (1 / 2) "a" [rule]).1 = .error .repeatTooLarge :=
  best_large_count (.exact Decimal.worth) (1 / 2) "a" rfl rfl rfl

end Classification

end Rulebook
