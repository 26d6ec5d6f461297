import Rulebook.Proofs.Classification.Recalling
import Rulebook.Proofs.Rule.Answer
import Rulebook.Proofs.Sorting.Order

namespace Rulebook

variable [Pattern.Edition]

namespace Rule

/-- A rule that has a category and a weight matches a text, by a pattern that can be compiled. -/
structure Matches (rule : Rule) (text category : String) (weight : Float) (hits : Nat) : Prop where
  filed : rule.category = some category
  weighed : rule.weight = some weight
  counted : ∃ source ∈ rule.pattern, ∃ compiled,
    Pattern.compile source = .ok compiled ∧ compiled.count text = .ok hits
  occurs : 0 < hits

/-- The pattern of a rule fails by nothing but an error of the pattern, and its matches in a text can
be counted. -/
def CanCount (rule : Rule) (text : String) : Prop :=
  ∀ source ∈ rule.pattern,
    (∀ failure, Pattern.compile source = .error failure → failure.IsRejection) ∧
    ∀ compiled, Pattern.compile source = .ok compiled → ∃ hits, compiled.count text = .ok hits

end Rule

namespace Classification

variable {α β : Type} (scoring : Scoring α) (text : String) {rule : Rule}

theorem hits_empty (rule : Rule) :
    hits text {} rule = Matcher.ofPattern rule.pattern >>= Matcher.count text := by
  rw [hits, Compiler.answer_of_empty]

theorem hits_own {compiler : Compiler} {rules : List Rule} (own : compiler.AnswersOwn rules)
    (member : rule ∈ rules) : hits text compiler rule = hits text {} rule := by
  rw [hits_empty, hits, own rule member]

theorem canCount_iff : rule.CanCount text ↔ ∃ count, hits text {} rule = .ok count := by
  rw [hits_empty, Rule.CanCount]
  cases rule.pattern with
  | none => simp [Matcher.ofPattern, Matcher.count, bind, Except.bind]
  | some source =>
      cases result : Pattern.compile source with
      | ok compiled => simp [Matcher.ofPattern, result, Matcher.count, bind, Except.bind]
      | error failure =>
          cases failure <;>
            simp [Matcher.ofPattern, result, Matcher.count, bind, Except.bind,
              Pattern.Failure.IsRejection]

/-- Only a pattern that can be compiled has matches. -/
theorem hits_eq_succ_iff (count : Nat) : hits text {} rule = .ok (count + 1) ↔
    ∃ source ∈ rule.pattern, ∃ compiled,
      Pattern.compile source = .ok compiled ∧ compiled.count text = .ok (count + 1) := by
  rw [hits_empty]
  cases rule.pattern with
  | none => simp [Matcher.ofPattern, Matcher.count, bind, Except.bind]
  | some source =>
      cases result : Pattern.compile source with
      | ok compiled => simp [Matcher.ofPattern, result, Matcher.count, bind, Except.bind]
      | error failure =>
          cases failure <;> simp [Matcher.ofPattern, result, Matcher.count, bind, Except.bind]

theorem hits_of_matches {text category : String} {weight : Float} {count : Nat}
    (matched : rule.Matches text category weight count) : hits text {} rule = .ok count := by
  obtain ⟨more, rfl⟩ := Nat.exists_eq_add_one.mpr matched.occurs
  exact (hits_eq_succ_iff text more).mpr matched.counted

theorem hits_alpha (alpha : rule.pattern = some "alpha") : hits "alpha" {} rule = .ok 1 := by
  rw [hits_empty, alpha]
  cases ‹Pattern.Edition› <;> cbv

/-- A count that is too large is no error of the pattern. -/
theorem hits_large_count (large : rule.pattern = some "a\x7b4294967295\x7d") :
    hits text {} rule = .error .repeatTooLarge := by
  have failed : Matcher.ofPattern (some "a\x7b4294967295\x7d") = .error .repeatTooLarge := by cbv
  rw [hits_empty, large, failed]
  rfl

/-- A rule alone gives a classification for a text. -/
def Gives (rule : Rule) (found : Classification α) : Prop :=
  ∃ weight hits, rule.Matches text found.category weight hits ∧
    found.confidence = scoring.confidence weight hits (Text.wordCount text) ∧
    found.ruleId = rule.id

theorem Gives.filed {scoring : Scoring α} {text : String} {found : Classification α}
    (gives : Gives scoring text rule found) : rule.category = some found.category := by
  obtain ⟨weight, hits, matched, -, -⟩ := gives
  exact matched.filed

/-- The classification that a rule alone gives for a text, if any. -/
def given (rule : Rule) : Option (Classification α) :=
  match rule.category, rule.weight, hits text {} rule with
  | some category, some weight, .ok (count + 1) =>
      some ⟨category, scoring.confidence weight (count + 1) (Text.wordCount text), rule.id⟩
  | _, _, _ => none

variable {scoring text}

theorem given_eq_some_iff {found : Classification α} :
    given scoring text rule = some found ↔ Gives scoring text rule found := by
  constructor
  · intro gives
    unfold given at gives
    split at gives
    · rename_i category weight count filed weighed counted
      cases gives
      exact ⟨weight, count + 1,
        ⟨filed, weighed, (hits_eq_succ_iff text count).mp counted, Nat.succ_pos count⟩, rfl, rfl⟩
    · contradiction
  · rintro ⟨weight, hits, matched, confident, named⟩
    have found := hits_of_matches matched
    obtain ⟨count, rfl⟩ := Nat.exists_eq_add_one.mpr matched.occurs
    simp only [given, matched.filed, matched.weighed, found, ← confident, ← named]

theorem exists_gives_iff (scoring : Scoring α) {category : String} :
    (∃ found, Gives scoring text rule found ∧ found.category = category) ↔
      ∃ weight hits, rule.Matches text category weight hits := by
  constructor
  · rintro ⟨found, ⟨weight, hits, matched, -, -⟩, rfl⟩
    exact ⟨weight, hits, matched⟩
  · rintro ⟨weight, hits, matched⟩
    exact ⟨⟨category, scoring.confidence weight hits (Text.wordCount text), rule.id⟩,
      ⟨weight, hits, matched, rfl, rfl⟩, rfl⟩

/-- Classifications of one category give way to stronger ones. -/
def keepAll (less : α → α → Bool) (best founds : List (Classification α)) :
    List (Classification α) :=
  founds.foldl (fun best found => keepBest less found best) best

/-- With ids of their own, rules are scored as if each were alone, if all can be counted. -/
theorem scoreAll_eq_ok_iff {compiler : Compiler} {rules : List Rule}
    {best results : List (Classification α)} (distinct : (rules.map Rule.id).Nodup)
    (own : compiler.AnswersOwn rules) :
    (scoreAll scoring text (Text.wordCount text) compiler best rules).1 = .ok results ↔
      (∀ rule ∈ rules, isScored rule → rule.CanCount text) ∧
        keepAll scoring.less best (rules.filterMap (given scoring text)) = results := by
  induction rules generalizing compiler best with
  | nil => simp [scoreAll, keepAll]
  | cons rule rest ih =>
      obtain ⟨fresh, others⟩ := List.nodup_cons.mp distinct
      have same := hits_own text own List.mem_cons_self
      rw [scoreAll_cons, same, List.filterMap_cons]
      cases filed : rule.category with
      | none => simp [isScored, given, filed, ih others own.tail]
      | some category =>
          cases weighed : rule.weight with
          | none => simp [isScored, given, filed, weighed, ih others own.tail]
          | some weight =>
              have countable : rule.CanCount text ↔ _ := canCount_iff text
              cases counted : hits text {} rule with
              | error failure => simp [isScored, filed, weighed, countable, counted]
              | ok count =>
                  simp only [ih others (own.asked fresh)]
                  cases count with
                  | zero => simp [isScored, given, filed, weighed, countable, counted, afterHits]
                  | succ count =>
                      simp [isScored, given, filed, weighed, countable, counted, afterHits, keepAll]

section Best

omit [Pattern.Edition]

variable {less : α → α → Bool} {found held : Classification α} {best founds : List (Classification α)}

/-- The place of a category is kept, and a new one comes last. -/
theorem keepBest_cases (less : α → α → Bool) (found : Classification α)
    (best : List (Classification α)) :
    ((∀ held ∈ best, held.category ≠ found.category) ∧
      keepBest less found best = best ++ [found]) ∨
    ∃ above held below, best = above ++ held :: below ∧ held.category = found.category ∧
      keepBest less found best =
        above ++ (if less held.confidence found.confidence then found else held) :: below := by
  induction best with
  | nil => exact .inl ⟨fun held member => absurd member List.not_mem_nil, rfl⟩
  | cons held rest ih =>
      rw [keepBest]
      by_cases same : held.category = found.category
      · exact .inr ⟨[], held, rest, rfl, same, if_pos same⟩
      · rw [if_neg same]
        rcases ih with ⟨fresh, kept⟩ | ⟨above, other, below, rfl, sameOther, kept⟩
        · exact .inl ⟨List.forall_mem_cons.mpr ⟨same, fresh⟩, by rw [kept, List.cons_append]⟩
        · exact .inr ⟨held :: above, other, below, rfl, sameOther, by rw [kept, List.cons_append]⟩

variable [LinearOrder β] {rank : α → β} {isRanked : α → Prop}

/-- Of the classifications of its category, one is the first that none exceeds. -/
def IsFirstBest (rank : α → β) (founds : List (Classification α)) (held : Classification α) :
    Prop :=
  ∃ before after, founds = before ++ held :: after ∧
    (∀ other ∈ before, other.category = held.category →
      rank other.confidence < rank held.confidence) ∧
    ∀ other ∈ after, other.category = held.category →
      rank other.confidence ≤ rank held.confidence

/-- A category comes up before there is another. -/
def ComesFirst (founds : List (Classification α)) (category other : String) : Prop :=
  ∃ before found after, founds = before ++ found :: after ∧ found.category = category ∧
    ∀ earlier ∈ before, earlier.category ≠ other

theorem IsFirstBest.le (isBest : IsFirstBest rank founds held) :
    ∀ other ∈ founds, other.category = held.category →
      rank other.confidence ≤ rank held.confidence := by
  obtain ⟨before, after, rfl, earlier, later⟩ := isBest
  intro other member same
  rcases List.mem_append.mp member with isBefore | isBehind
  · exact (earlier other isBefore same).le
  · rcases List.mem_cons.mp isBehind with rfl | isAfter
    · exact le_rfl
    · exact later other isAfter same

theorem IsFirstBest.extend (isBest : IsFirstBest rank founds held)
    (notBetter : found.category = held.category →
      rank found.confidence ≤ rank held.confidence) :
    IsFirstBest rank (founds ++ [found]) held := by
  obtain ⟨before, after, rfl, earlier, later⟩ := isBest
  refine ⟨before, after ++ [found], by simp, earlier, fun other member same => ?_⟩
  rcases List.mem_append.mp member with isAfter | isNew
  · exact later other isAfter same
  · obtain rfl := List.mem_singleton.mp isNew
    exact notBetter same

theorem isFirstBest_concat (better : ∀ other ∈ founds, other.category = found.category →
    rank other.confidence < rank found.confidence) :
    IsFirstBest rank (founds ++ [found]) found :=
  ⟨founds, [], rfl, better, fun _ member => absurd member List.not_mem_nil⟩

theorem ComesFirst.extend {category other : String} (first : ComesFirst founds category other)
    (more : List (Classification α)) : ComesFirst (founds ++ more) category other := by
  obtain ⟨before, found, after, rfl, same, none⟩ := first
  exact ⟨before, found, after ++ more, by simp, same, none⟩

/-- What is kept of the classifications that were found. -/
structure Keeps (rank : α → β) (founds best : List (Classification α)) : Prop where
  distinct : (best.map (·.category)).Nodup
  complete : ∀ found ∈ founds, found.category ∈ best.map (·.category)
  strongest : ∀ held ∈ best, IsFirstBest rank founds held
  inOrder : (best.map (·.category)).Pairwise (ComesFirst founds)

theorem keeps_nil (rank : α → β) : Keeps rank [] ([] : List (Classification α)) :=
  ⟨.nil, fun _ member => absurd member List.not_mem_nil,
    fun _ member => absurd member List.not_mem_nil, .nil⟩

theorem Keeps.mem_founds (keeps : Keeps rank founds best) (member : held ∈ best) :
    held ∈ founds := by
  obtain ⟨before, after, rfl, -, -⟩ := keeps.strongest held member
  simp

theorem Keeps.append (keeps : Keeps rank founds best)
    (fresh : ∀ held ∈ best, held.category ≠ found.category) :
    Keeps rank (founds ++ [found]) (best ++ [found]) := by
  obtain ⟨distinct, complete, strongest, inOrder⟩ := keeps
  have unseen : ∀ other ∈ founds, other.category ≠ found.category := by
    intro other member same
    obtain ⟨held, isHeld, sameHeld⟩ := List.mem_map.mp (complete other member)
    exact fresh held isHeld (sameHeld.trans same)
  refine ⟨?_, fun other member => ?_, fun other member => ?_, ?_⟩
  · rw [List.map_append, List.map_singleton]
    refine List.nodup_append.mpr ⟨distinct, List.nodup_singleton _, fun category isHeld other isNew => ?_⟩
    obtain ⟨held, member, rfl⟩ := List.mem_map.mp isHeld
    exact List.mem_singleton.mp isNew ▸ fresh held member
  · rw [List.map_append]
    rcases List.mem_append.mp member with isOld | isNew
    · exact List.mem_append_left _ (complete other isOld)
    · exact List.mem_append_right _ (List.mem_map_of_mem isNew)
  · rcases List.mem_append.mp member with isOld | isNew
    · exact (strongest other isOld).extend fun same => absurd same.symm (fresh other isOld)
    · obtain rfl := List.mem_singleton.mp isNew
      exact isFirstBest_concat fun earlier isEarlier same => absurd same (unseen earlier isEarlier)
  · rw [List.map_append, List.map_singleton]
    refine List.pairwise_append.mpr
      ⟨inOrder.imp (ComesFirst.extend · _), List.pairwise_singleton _ _, ?_⟩
    intro category isHeld other isNew
    obtain rfl := List.mem_singleton.mp isNew
    obtain ⟨held, member, rfl⟩ := List.mem_map.mp isHeld
    obtain ⟨before, after, rfl, -, -⟩ := strongest held member
    exact ⟨before, held, after ++ [found], by simp, rfl, fun earlier isEarlier =>
      unseen earlier (List.mem_append_left _ isEarlier)⟩

theorem Keeps.replace {above below : List (Classification α)} {winner : Classification α}
    (keeps : Keeps rank founds (above ++ held :: below)) (same : held.category = found.category)
    (alsoSame : winner.category = held.category)
    (isBest : IsFirstBest rank (founds ++ [found]) winner) :
    Keeps rank (founds ++ [found]) (above ++ winner :: below) := by
  obtain ⟨distinct, complete, strongest, inOrder⟩ := keeps
  have categories : (above ++ winner :: below).map (·.category) =
      (above ++ held :: below).map (·.category) := by simp [alsoSame]
  refine ⟨categories ▸ distinct, fun other member => ?_, fun other member => ?_,
    categories ▸ inOrder.imp (ComesFirst.extend · _)⟩
  · rw [categories]
    rcases List.mem_append.mp member with isOld | isNew
    · exact complete other isOld
    · obtain rfl := List.mem_singleton.mp isNew
      exact List.mem_map.mpr ⟨held, by simp, same⟩
  · rcases List.mem_cons.mp (List.perm_middle.mem_iff.mp member) with rfl | isRest
    · exact isBest
    · have own : held.category ∉ (above ++ below).map (·.category) :=
        (List.nodup_cons.mp ((List.perm_middle.map _).nodup_iff.mp distinct)).1
      refine (strongest other (List.perm_middle.mem_iff.mpr (List.mem_cons_of_mem _ isRest))).extend ?_
      exact fun known => absurd (List.mem_map.mpr ⟨other, isRest, known.symm.trans same.symm⟩) own

variable (compares : Sorting.Compares less rank isRanked)
include compares

theorem Keeps.keepBest (keeps : Keeps rank founds best)
    (ranked : ∀ other ∈ founds ++ [found], isRanked other.confidence) :
    Keeps rank (founds ++ [found]) (keepBest less found best) := by
  rcases keepBest_cases less found best with ⟨fresh, kept⟩ | ⟨above, held, below, rfl, same, kept⟩
  · exact kept ▸ keeps.append fresh
  · have isHeld : held ∈ above ++ held :: below := by simp
    have heldRanked := ranked held (List.mem_append_left _ (keeps.mem_founds isHeld))
    have foundRanked := ranked found (by simp)
    have isBest := keeps.strongest held isHeld
    rw [kept]
    split
    · rename_i isLess
      have better := (compares.less_iff heldRanked foundRanked).mp isLess
      refine keeps.replace same same.symm (isFirstBest_concat fun other member sameOther => ?_)
      exact (isBest.le other member (sameOther.trans same.symm)).trans_lt better
    · -- The comparison is strict, so of equal ones the first stays.
      rename_i notLess
      have notBetter := (compares.not_less_iff heldRanked foundRanked).mp (by simpa using notLess)
      exact keeps.replace same rfl (isBest.extend fun _ => notBetter)

theorem Keeps.keepAll {more : List (Classification α)} (keeps : Keeps rank founds best)
    (ranked : ∀ other ∈ founds ++ more, isRanked other.confidence) :
    Keeps rank (founds ++ more) (keepAll less best more) := by
  induction more generalizing founds best with
  | nil => rwa [List.append_nil]
  | cons found rest ih =>
      rw [List.append_cons] at ranked ⊢
      exact ih (keeps.keepBest compares fun other member =>
        ranked other (List.mem_append_left _ member)) ranked

end Best

end Classification

end Rulebook
