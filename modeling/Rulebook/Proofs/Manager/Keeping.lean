import Rulebook.Proofs.Manager.Session

namespace Rulebook

variable {σ α : Type}

/-- The first of the queries with a key that is loaded without failing. -/
def Asking.firstLoaded (loader : Loader σ) (askings : List (Asking σ)) (key : RuleQuery.Key) :
    Option (Asking σ) :=
  askings.find? fun asking => asking.query.key == key && (asking.loaded loader).isOk

namespace Asking

variable {loader : Loader σ} {asking : Asking σ} {askings : List (Asking σ)} {manager : Manager}
  {key : RuleQuery.Key}

theorem firstLoaded_concat (loader : Loader σ) (askings : List (Asking σ)) (asking : Asking σ)
    (key : RuleQuery.Key) :
    firstLoaded loader (askings ++ [asking]) key = (firstLoaded loader askings key).or
      (if asking.query.key = key ∧ (asking.loaded loader).isOk then some asking else none) := by
  simp [firstLoaded, List.find?_append, List.find?_singleton]

theorem left_holds {resolved : Resolved} {after : Manager}
    (answered : asking.answer loader manager = .ok (resolved, after)) :
    (asking.left loader manager).results.lookup asking.query.key = some resolved := by
  rw [left, answered]
  rw [answer_eq] at answered
  cases held : manager.results.lookup asking.query.key with
  | some earlier =>
      simp only [held, Except.ok.injEq, Prod.mk.injEq] at answered
      obtain ⟨rfl, rfl⟩ := answered
      exact held
  | none =>
      cases loaded : asking.loaded loader with
      | error cause => simp [held, loaded, Except.map] at answered
      | ok result =>
          simp only [held, loaded, Except.map, Except.ok.injEq] at answered
          obtain ⟨rfl, rfl⟩ : (manager.keep asking.query.key result).1 = resolved ∧
              (manager.keep asking.query.key result).2 = after :=
            ⟨congrArg Prod.fst answered, congrArg Prod.snd answered⟩
          simp [Manager.keep]

theorem loaded_of_firstLoaded {first : Asking σ}
    (found : firstLoaded loader askings key = some first) :
    ∃ result, first.loaded loader = .ok result := by
  have isLoaded := List.find?_some found
  cases loaded : first.loaded loader with
  | ok result => exact ⟨result, rfl⟩
  | error cause => simp [loaded, Except.isOk, Except.toBool] at isLoaded

theorem unknown_of_error {cause : Breakdown}
    (failed : asking.answer loader manager = .error cause) :
    manager.results.lookup asking.query.key = none := by
  rw [answer_eq] at failed
  cases held : manager.results.lookup asking.query.key with
  | none => rfl
  | some resolved => simp [held] at failed

theorem left_of_error {cause : Breakdown}
    (failed : asking.answer loader manager = .error cause) :
    asking.left loader manager = manager := by
  rw [left, failed]

/-- What a key has is not lost, and nothing that is held changes its number. -/
theorem left_keeps (loader : Loader σ) (asking : Asking σ) {resolved : Resolved}
    (held : manager.results.lookup key = some resolved) :
    (asking.left loader manager).results.lookup key = some resolved := by
  rw [left, answer_eq]
  cases known : manager.results.lookup asking.query.key with
  | some earlier => exact held
  | none =>
      cases asking.loaded loader with
      | error cause => exact held
      | ok result =>
          have other : (key == asking.query.key) = false := by
            refine beq_eq_false_iff_ne.mpr fun same => ?_
            rw [← same, held] at known
            contradiction
          simpa [Except.map, Manager.keep, List.lookup_cons, other] using held

theorem made_le_left (loader : Loader σ) (asking : Asking σ) (manager : Manager) :
    manager.made ≤ (asking.left loader manager).made := by
  rw [left, answer_eq]
  cases manager.results.lookup asking.query.key with
  | some resolved => exact Nat.le_refl _
  | none =>
      cases asking.loaded loader with
      | error cause => exact Nat.le_refl _
      | ok result => exact Nat.le_succ _

/-- What a key has after a query. -/
theorem content_left (loader : Loader σ) (asking : Asking σ) (manager : Manager)
    (key : RuleQuery.Key) :
    ((asking.left loader manager).results.lookup key).map Resolved.content =
      ((manager.results.lookup key).map Resolved.content).or
        (if asking.query.key = key then (asking.loaded loader).toOption else none) := by
  cases held : manager.results.lookup key with
  | some resolved => rw [left_keeps loader asking held]; rfl
  | none =>
      rw [left, answer_eq]
      by_cases same : asking.query.key = key
      · subst same
        rw [held]
        cases asking.loaded loader <;>
          simp [Except.map, Manager.keep, Resolved.content, Except.toOption, held]
      · have other : (key == asking.query.key) = false :=
          beq_eq_false_iff_ne.mpr (Ne.symm same)
        cases manager.results.lookup asking.query.key with
        | some earlier => simp [held, same]
        | none =>
            cases asking.loaded loader <;>
              simp [Except.map, Manager.keep, List.lookup_cons, other, held, same]

end Asking

namespace Manager

/-- The results of a manager have numbers of their own, from a first number on and below that of
the next one. -/
structure Numbered (first : Nat) (manager : Manager) : Prop where
  reached : first ≤ manager.made
  inside : ∀ key resolved, manager.results.lookup key = some resolved →
    first ≤ resolved.number ∧ resolved.number < manager.made
  own : ∀ key resolved other another, manager.results.lookup key = some resolved →
    manager.results.lookup other = some another → resolved.number = another.number → key = other

theorem Numbered.from {first later : Nat} {manager : Manager} (numbered : manager.Numbered later)
    (earlier : first ≤ later) : manager.Numbered first where
  reached := Nat.le_trans earlier numbered.reached
  inside key resolved held := ⟨Nat.le_trans earlier (numbered.inside key resolved held).1,
    (numbered.inside key resolved held).2⟩
  own := numbered.own

theorem numbered_clear (manager : Manager) : manager.clear.Numbered manager.made where
  reached := Nat.le_refl _
  inside _ _ held := by simp [clear] at held
  own _ _ _ _ held := by simp [clear] at held

theorem Numbered.keep {first : Nat} {manager : Manager} (numbered : manager.Numbered first)
    (key : RuleQuery.Key) (result : LoadResult) : (manager.keep key result).2.Numbered first := by
  have cases_lookup : ∀ wanted resolved,
      (manager.keep key result).2.results.lookup wanted = some resolved →
      (wanted = key ∧ resolved.number = manager.made) ∨
        manager.results.lookup wanted = some resolved := by
    intro wanted resolved held
    by_cases same : wanted = key
    · have made : (manager.keep key result).1 = resolved := by
        simpa [Manager.keep, same] using held
      exact .inl ⟨same, made ▸ rfl⟩
    · have other : (wanted == key) = false := beq_eq_false_iff_ne.mpr same
      exact .inr (by simpa [Manager.keep, List.lookup_cons, other] using held)
  refine ⟨Nat.le_succ_of_le numbered.reached, fun wanted resolved held => ?_, ?_⟩
  · change first ≤ resolved.number ∧ resolved.number < manager.made + 1
    have reached := numbered.reached
    rcases cases_lookup wanted resolved held with ⟨-, number⟩ | before
    · omega
    · have inside := numbered.inside wanted resolved before
      omega
  · intro wanted resolved other another held alsoHeld same
    rcases cases_lookup wanted resolved held with ⟨rfl, number⟩ | before <;>
      rcases cases_lookup other another alsoHeld with ⟨rfl, otherNumber⟩ | otherBefore
    · rfl
    · have inside := numbered.inside other another otherBefore
      omega
    · have inside := numbered.inside wanted resolved before
      omega
    · exact numbered.own wanted resolved other another before otherBefore same

end Manager

theorem Asking.left_numbered {loader : Loader σ} {first : Nat} {manager : Manager}
    (numbered : manager.Numbered first) (asking : Asking σ) :
    (asking.left loader manager).Numbered first := by
  rw [left, answer_eq]
  cases manager.results.lookup asking.query.key with
  | some resolved => exact numbered
  | none =>
      cases asking.loaded loader with
      | error cause => exact numbered
      | ok result => exact numbered.keep asking.query.key result

namespace Session

variable [Pattern.Edition] (loader : Loader σ) (scoring : Scoring α) {session : Session σ}

/-- A key has the result of the first query with it that was loaded. -/
def Current (session : Session σ) : Prop :=
  ∀ key, (session.manager.results.lookup key).map Resolved.content =
    (Asking.firstLoaded loader session.asked key).bind fun asking =>
      (asking.loaded loader).toOption

theorem make_current (current : session.Current loader) (move : Move σ) :
    (session.make loader scoring move).Current loader := by
  cases move with
  | resolve asking =>
      intro key
      simp only [make]
      rw [Asking.content_left, current key, Asking.firstLoaded_concat]
      cases found : Asking.firstLoaded loader session.asked key with
      | some first =>
          obtain ⟨result, loaded⟩ := Asking.loaded_of_firstLoaded found
          simp [loaded, Except.toOption]
      | none =>
          by_cases same : asking.query.key = key
          · cases loaded : asking.loaded loader <;>
              simp [same, loaded, Except.toOption, Except.isOk, Except.toBool]
          · simp [same]
  | compile rule => exact current
  | classify text rules => exact current
  | clear => intro key; simp [make, Manager.clear, Asking.firstLoaded]

theorem make_numbered {first : Nat} (numbered : session.manager.Numbered first) (move : Move σ) :
    (session.make loader scoring move).manager.Numbered first := by
  cases move with
  | resolve asking => exact Asking.left_numbered numbered asking
  | compile rule => exact ⟨numbered.reached, numbered.inside, numbered.own⟩
  | classify text rules => exact ⟨numbered.reached, numbered.inside, numbered.own⟩
  | clear => exact (Manager.numbered_clear session.manager).from numbered.reached

theorem made_le_make (session : Session σ) (move : Move σ) :
    session.manager.made ≤ (session.make loader scoring move).manager.made := by
  cases move with
  | resolve asking => exact Asking.made_le_left loader asking session.manager
  | compile rule => exact Nat.le_refl _
  | classify text rules => exact Nat.le_refl _
  | clear => exact Nat.le_refl _

theorem make_keeps {key : RuleQuery.Key} {resolved : Resolved}
    (held : session.manager.results.lookup key = some resolved) {move : Move σ}
    (uncleared : move ≠ .clear) :
    (session.make loader scoring move).manager.results.lookup key = some resolved := by
  cases move with
  | resolve asking => exact Asking.left_keeps loader asking held
  | compile rule => exact held
  | classify text rules => exact held
  | clear => contradiction

theorem make_unknown {key : RuleQuery.Key} (unknown : session.manager.results.lookup key = none)
    {move : Move σ} (other : ∀ asking, move = .resolve asking → asking.query.key ≠ key) :
    (session.make loader scoring move).manager.results.lookup key = none := by
  cases move with
  | resolve asking =>
      have content := Asking.content_left loader asking session.manager key
      rw [unknown, if_neg (other asking rfl)] at content
      exact Option.map_eq_none_iff.mp content
  | compile rule => exact unknown
  | classify text rules => exact unknown
  | clear => rfl

theorem foldl_current (current : session.Current loader) (moves : List (Move σ)) :
    (moves.foldl (make loader scoring) session).Current loader := by
  induction moves generalizing session with
  | nil => exact current
  | cons move rest ih => exact ih (make_current loader scoring current move)

theorem foldl_numbered {first : Nat} (numbered : session.manager.Numbered first)
    (moves : List (Move σ)) :
    (moves.foldl (make loader scoring) session).manager.Numbered first := by
  induction moves generalizing session with
  | nil => exact numbered
  | cons move rest ih => exact ih (make_numbered loader scoring numbered move)

theorem foldl_keeps {key : RuleQuery.Key} {resolved : Resolved}
    (held : session.manager.results.lookup key = some resolved) {moves : List (Move σ)}
    (uncleared : .clear ∉ moves) :
    (moves.foldl (make loader scoring) session).manager.results.lookup key = some resolved := by
  induction moves generalizing session with
  | nil => exact held
  | cons move rest ih =>
      rw [List.mem_cons, not_or] at uncleared
      exact ih (make_keeps loader scoring held (Ne.symm uncleared.1)) uncleared.2

theorem foldl_unknown {key : RuleQuery.Key} (unknown : session.manager.results.lookup key = none)
    {moves : List (Move σ)} (other : ∀ asking, .resolve asking ∈ moves → asking.query.key ≠ key) :
    (moves.foldl (make loader scoring) session).manager.results.lookup key = none := by
  induction moves generalizing session with
  | nil => exact unknown
  | cons move rest ih =>
      refine ih (make_unknown loader scoring unknown fun asking isQuery => ?_)
        fun asking member => other asking (List.mem_cons_of_mem move member)
      exact other asking (isQuery ▸ List.mem_cons_self)

/-- Where a clearing is among the moves, all results that are held after them are new. -/
theorem foldl_renews {first : Nat} (reached : first ≤ session.manager.made)
    {moves : List (Move σ)} (cleared : .clear ∈ moves) :
    (moves.foldl (make loader scoring) session).manager.Numbered first := by
  induction moves generalizing session with
  | nil => exact absurd cleared List.not_mem_nil
  | cons move rest ih =>
      by_cases now : move = .clear
      · subst now
        have numbered := (Manager.numbered_clear session.manager).from reached
        exact foldl_numbered loader scoring numbered rest
      · have later : .clear ∈ rest := (List.mem_cons.mp cleared).resolve_left (Ne.symm now)
        exact ih (Nat.le_trans reached (made_le_make loader scoring session move)) later

omit [Pattern.Edition] in
theorem Current.answer_content {session : Session σ} (current : session.Current loader)
    (asking : Asking σ) :
    (asking.answer loader session.manager).map (fun (resolved, _) => resolved.content) =
      ((Asking.firstLoaded loader session.asked asking.query.key).getD asking).loaded loader := by
  have holds := current asking.query.key
  rw [Asking.answer_eq]
  cases found : Asking.firstLoaded loader session.asked asking.query.key with
  | none =>
      rw [found] at holds
      rw [Option.map_eq_none_iff.mp holds, Option.getD_none]
      cases asking.loaded loader <;> rfl
  | some first =>
      obtain ⟨result, loaded⟩ := Asking.loaded_of_firstLoaded found
      rw [found, Option.bind_some, loaded] at holds
      obtain ⟨resolved, held, content⟩ := Option.map_eq_some_iff.mp holds
      rw [held, Option.getD_some, loaded, ← content]
      rfl

/-- Of two answers the later one is the result of the earlier one if and only if the queries have
one key and no clearing lies between them. -/
theorem number_eq_iff (numbered : session.manager.Numbered 0) {asking next : Asking σ}
    {resolved another : Resolved} {manager later : Manager} {between : List (Move σ)}
    (answered : asking.answer loader session.manager = .ok (resolved, manager))
    (answeredNext : next.answer loader
      (between.foldl (make loader scoring) (session.make loader scoring (.resolve asking))).manager =
        .ok (another, later)) :
    (resolved.number = another.number ↔ asking.query.key = next.query.key ∧ .clear ∉ between) ∧
      (resolved.number = another.number → resolved = another) := by
  let start := session.make loader scoring (.resolve asking)
  let final := between.foldl (make loader scoring) start
  have held : start.manager.results.lookup asking.query.key = some resolved :=
    Asking.left_holds answered
  have startNumbered : start.manager.Numbered 0 := make_numbered loader scoring numbered _
  have heldNext : (next.left loader final.manager).results.lookup next.query.key = some another :=
    Asking.left_holds answeredNext
  by_cases cleared : .clear ∈ between
  · have renewed : final.manager.Numbered start.manager.made :=
      foldl_renews loader scoring (Nat.le_refl _) cleared
    have old := (startNumbered.inside _ _ held).2
    have new := ((Asking.left_numbered renewed next).inside _ _ heldNext).1
    have different : resolved.number ≠ another.number := by omega
    exact ⟨iff_of_false different fun kept => kept.2 cleared, fun same => absurd same different⟩
  · have kept : (next.left loader final.manager).results.lookup asking.query.key = some resolved :=
      Asking.left_keeps loader next (foldl_keeps loader scoring held cleared)
    have finalNumbered : (next.left loader final.manager).Numbered 0 :=
      Asking.left_numbered (foldl_numbered loader scoring startNumbered between) next
    have ofKeys (same : asking.query.key = next.query.key) : resolved = another := by
      rw [same, heldNext] at kept
      exact (Option.some.inj kept).symm
    have keys (same : resolved.number = another.number) : asking.query.key = next.query.key :=
      finalNumbered.own _ _ _ _ kept heldNext same
    exact ⟨⟨fun same => ⟨keys same, cleared⟩, fun same => congrArg Resolved.number (ofKeys same.1)⟩,
      fun same => ofKeys (keys same)⟩

/-- A key has one result until the manager is cleared: that of the first query with it that is
loaded, whatever the queries after it would load. Two answers are the same result if and only if
their queries have one key and the manager is not cleared between them. A query that fails leaves
the manager as it was, and the next one with its key is loaded anew. -/
theorem result_kept_until_cleared (moves : List (Move σ)) (asking : Asking σ) :
    let session := after loader scoring moves
    let answer := asking.answer loader session.manager
    let key := asking.query.key
    answer.map (fun (resolved, _) => resolved.content) =
      ((Asking.firstLoaded loader session.asked key).getD asking).loaded loader ∧
    (∀ resolved manager, answer = .ok (resolved, manager) →
      ∀ (between : List (Move σ)) (next : Asking σ) (another : Resolved) (later : Manager),
        next.answer loader (after loader scoring (moves ++ .resolve asking :: between)).manager =
          .ok (another, later) →
        (resolved.number = another.number ↔ key = next.query.key ∧ .clear ∉ between) ∧
        (resolved.number = another.number → resolved = another)) ∧
    (∀ cause, answer = .error cause →
      (session.make loader scoring (.resolve asking)).manager = session.manager ∧
      ∀ (between : List (Move σ)) (next : Asking σ), next.query.key = key →
        (∀ other, .resolve other ∈ between → other.query.key ≠ key) →
        (next.answer loader
            (after loader scoring (moves ++ .resolve asking :: between)).manager).map
          (fun (resolved, _) => resolved.content) = next.loaded loader) := by
  intro session answer key
  have continued (between : List (Move σ)) :
      after loader scoring (moves ++ .resolve asking :: between) =
        between.foldl (make loader scoring) (session.make loader scoring (.resolve asking)) :=
    List.foldl_append
  have start : ({} : Session σ).manager.Numbered 0 :=
    ⟨Nat.le_refl 0, fun _ _ held => by simp at held, fun _ _ _ _ held => by simp at held⟩
  refine ⟨?_, fun resolved manager answered between next another later answeredNext => ?_,
    fun cause failed => ?_⟩
  · have current : session.Current loader :=
      foldl_current loader scoring (fun key => by simp [Asking.firstLoaded]) moves
    exact current.answer_content loader asking
  · rw [continued] at answeredNext
    exact number_eq_iff loader scoring (foldl_numbered loader scoring start moves) answered
      answeredNext
  · have kept : (session.make loader scoring (.resolve asking)).manager = session.manager :=
      Asking.left_of_error failed
    refine ⟨kept, fun between next same others => ?_⟩
    have unknown : (session.make loader scoring (.resolve asking)).manager.results.lookup key =
        none := by
      rw [kept]
      exact Asking.unknown_of_error failed
    rw [continued, Asking.answer_eq, same, foldl_unknown loader scoring unknown others]
    cases next.loaded loader <;> rfl

end Session

end Rulebook
