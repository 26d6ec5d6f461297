import Mathlib
import Rulebook.Pattern.Search
import Rulebook.Proofs.Pattern.Lookbehind
import Rulebook.Proofs.Pattern.Reading

namespace Rulebook.Pattern

namespace Read

variable {α : Type} {text : List Char} {reader middle : Reader} {told : α → Prop} {act : Read α}

theorem Ends.from
    (ends : Ends text (fun value after => middle.Reaches text after ∧ told value) act middle)
    (reaches : reader.Reaches text middle) :
    Ends text (fun value after => reader.Reaches text after ∧ told value) act middle :=
  ends.mono fun _ _ ⟨more, holds⟩ => ⟨reaches.trans more, holds⟩

theorem Proceeds.from (proceeds : Proceeds text told act) (reaches : reader.Reaches text middle) :
    Ends text (fun value after => reader.Reaches text after ∧ told value) act middle :=
  (proceeds middle reaches.sound).from reaches

/-- Whatever its value is, what proceeds is reached too. -/
theorem Proceeds.reaches (proceeds : Proceeds text (fun _ => True) act)
    (reaches : reader.Reaches text middle) :
    Ends text (fun _ after => reader.Reaches text after) act middle :=
  (proceeds.from reaches).mono fun _ _ => And.left

theorem Proceeds.takeUntil (terminator : Char) (what : String) (fuel : Nat) (found : String) :
    Proceeds text (fun _ => True) (takeUntil terminator what fuel found) := by
  induction fuel generalizing found with
  | zero => exact .fail
  | succ fuel ih =>
      refine .andThen .next fun token => ?_
      cases token with
      | none => exact .ite (fun _ => .fail) fun _ => .fail
      | some token =>
          refine .ite (fun _ => ?_) fun _ => ih _
          exact .stopIf (fun _ => .fail) fun _ => .pure trivial

theorem Proceeds.nameUntil (terminator : Char) (what : String) :
    Proceeds text (fun _ => True) (nameUntil terminator what) :=
  .andThen .get fun _ => .takeUntil _ _ _ _

theorem Proceeds.isClosed (group : Nat) : Proceeds text (fun _ => True) (isClosed group) :=
  .andThen .get fun _ => .pure trivial

theorem Proceeds.checkLookbehind (group : Nat) :
    Proceeds text (fun _ => True) (checkLookbehind group) := by
  refine .andThen .get fun current => ?_
  cases current.lookbehind with
  | none => exact .pure trivial
  | some before =>
      refine .andThen (.isClosed group) fun _ => .stopIf (fun _ => .fail) fun _ => ?_
      exact .ite (fun _ => .fail) fun _ => .pure trivial

theorem Proceeds.openGroup (name : Option String) :
    Proceeds text (fun _ => True) (openGroup name) := by
  intro reader sound
  have opened : reader.Reaches text { reader with groups := reader.groups ++ [none] } :=
    sound.reaches_of_passed rfl List.prefix_rfl rfl rfl
  refine .get_bind (.set_bind ?_)
  cases name with
  | none => exact ⟨opened, trivial⟩
  | some name =>
      dsimp only
      cases reader.names.lookup name with
      | some earlier => exact .fail
      | none =>
          refine Proceeds.from (.andThen ?_ fun _ => .pure trivial) opened
          exact .modify (fun _ => rfl) (fun _ => rfl) (fun _ => rfl) fun _ => rfl

theorem Proceeds.closeGroup (group : Nat) (body : List Item) :
    Proceeds text (fun _ => True) (closeGroup group body) :=
  .modify (fun _ => rfl) (fun _ => rfl) (fun _ => rfl) fun _ => rfl

theorem Proceeds.groupName (terminator : Char) :
    Proceeds text (fun _ => True) (groupName terminator) :=
  .andThen (.nameUntil _ _) fun _ => .stopIf (fun _ => .fail) fun _ => .pure trivial

theorem Proceeds.backReference {group back : Nat} {problem : Problem} :
    Proceeds text (fun item : Item => item.looksBehind = false) (do
      if !(← Read.isClosed group) then Read.fail problem back
      Read.checkLookbehind group
      return .backReference group) :=
  .andThen (.isClosed group) fun _ => .stopIf (fun _ => .fail) fun _ =>
    .andThen (.checkLookbehind group) fun _ => .pure rfl

theorem Proceeds.namedReference :
    Proceeds text (fun item => item.looksBehind = false) namedReference := by
  refine .andThen (.groupName _) fun name => .andThen .get fun current => ?_
  cases current.names.lookup name with
  | none => exact .fail
  | some group => exact .backReference

theorem Proceeds.condition : Proceeds text (fun _ => True) condition := by
  refine .andThen (.nameUntil _ _) fun name => .andThen ?_ fun group =>
    .andThen (.checkLookbehind group) fun _ => .pure trivial
  refine .ite (fun _ => ?_) fun _ => ?_
  · refine .andThen .get fun current => ?_
    cases current.names.lookup name with
    | some group => exact .pure trivial
    | none => exact .stop .fail
  · split
    · refine .stopIf (fun _ => .fail) fun _ => .stopIf (fun _ => .fail) fun _ => ?_
      intro reader sound
      refine .get_bind (.ite (fun _ => .set_bind ⟨?_, trivial⟩) fun _ => ⟨sound.reaches, trivial⟩)
      exact sound.reaches_of_passed rfl List.prefix_rfl rfl rfl
    · exact .fail

theorem hexValue?_lt {c : Char} {value : Nat} (read : Text.hexValue? c = some value) :
    value < 16 := by
  simp only [Text.hexValue?, Bool.and_eq_true, decide_eq_true_eq] at read
  split at read
  case isTrue digit =>
    have upper : c.toNat ≤ 57 := digit.2
    cases read
    omega
  split at read
  case isTrue small =>
    have upper : c.toNat ≤ 102 := small.2
    cases read
    omega
  split at read
  case isTrue capital =>
    have upper : c.toNat ≤ 70 := capital.2
    cases read
    omega
  case isFalse => contradiction

theorem hexValue_lt (digits : List Char) : Text.hexValue digits < 16 ^ digits.length := by
  induction digits using List.reverseRecOn with
  | nil => decide
  | append_singleton digits digit ih =>
      have last : (Text.hexValue? digit).getD 0 < 16 := by
        cases read : Text.hexValue? digit with
        | none => decide
        | some value => exact hexValue?_lt read
      simp only [Text.hexValue, List.foldl_append, List.foldl_cons, List.foldl_nil,
        List.length_append, List.length_singleton, Nat.pow_succ] at ih ⊢
      omega

/-- Of the escapes that give a code, only the longest can give one that is too large. -/
theorem hexEscape_ends (letter : Char) (count : Nat) (sound : reader.Sound text)
    (behind : reader.Behind ['\\', letter])
    (wide : 0x7FFFFFFF < 16 ^ count → letter = 'U' ∧ count = 8) :
    Ends text (fun _ after => reader.Reaches text after) (hexEscape letter count) reader := by
  refine .bind (takeWhile_ends isHexDigit count sound) fun digits after told => ?_
  obtain ⟨reaches, passed, hexadecimal⟩ := told
  refine .stopIf (fun _ => .fail) fun all => .stopIf (fun large => .throw ?_) fun _ => ?_
  · have length : digits.length = count := not_not.mp all
    have bound := hexValue_lt digits
    obtain ⟨rfl, rfl⟩ := wide (by rw [← length]; omega)
    exact ⟨digits, length, hexadecimal, (behind.append passed).isInfix reaches.sound, large⟩
  · exact .stopIf (fun _ => .fail) fun _ => .pure reaches

theorem Proceeds.namedEscape : Proceeds text (fun _ => True) namedEscape := by
  refine .andThen (.accept _) fun _ => .stopIf (fun _ => .fail) fun _ => ?_
  refine .andThen (.nameUntil _ _) fun name => ?_
  cases Text.characterNamed? name with
  | some code => exact .pure trivial
  | none => exact .fail

theorem codeEscape?_ends (c : Char) (sound : reader.Sound text)
    (behind : reader.Behind ['\\', c]) :
    Ends text (fun _ after => reader.Reaches text after) (codeEscape? c) reader := by
  unfold codeEscape?
  split
  · exact .bind (hexEscape_ends 'x' 2 sound behind (by decide)) fun _ _ reaches => .pure reaches
  · exact .bind (hexEscape_ends 'u' 4 sound behind (by decide)) fun _ _ reaches => .pure reaches
  · exact .bind (hexEscape_ends 'U' 8 sound behind (by decide)) fun _ _ reaches => .pure reaches
  · exact .bind (Proceeds.namedEscape.reaches sound.reaches) fun _ _ reaches => .pure reaches
  · exact .pure sound.reaches

theorem Proceeds.selfEscape (c : Char) : Proceeds text (fun _ => True) (selfEscape c) :=
  .stopIf (fun _ => .fail) fun _ => .pure trivial

theorem Proceeds.takeWhile (set : Char → Bool) (count : Nat) :
    Proceeds text (fun _ => True) (takeWhile set count) :=
  fun _ sound => (takeWhile_ends set count sound).mono fun _ _ ⟨reaches, _⟩ => ⟨reaches, trivial⟩

theorem setEscape_ends (c : Char) (sound : reader.Sound text)
    (behind : reader.Behind ['\\', c]) :
    Ends text (fun _ after => reader.Reaches text after) (setEscape c) reader := by
  unfold setEscape
  cases controlEscape? c with
  | some code => exact .pure sound.reaches
  | none =>
      cases categoryEscape? c with
      | some item => exact .pure sound.reaches
      | none =>
          refine .bind (codeEscape?_ends c sound behind) fun code after reaches => ?_
          cases code with
          | some code => exact .pure reaches
          | none =>
              have octal : Proceeds text (fun _ => True) (Read.takeWhile isOctalDigit 2) :=
                .takeWhile _ _
              refine Proceeds.reaches (.ite (fun _ => ?_) fun _ => ?_) reaches
              · exact octal.andThen fun _ => .stopIf (fun _ => .fail) fun _ => .pure trivial
              · exact (Proceeds.selfEscape c).andThen fun _ => .pure trivial

theorem Proceeds.digitEscape (c : Char) :
    Proceeds text (fun item => item.looksBehind = false) (digitEscape c) := by
  refine .andThen (.andThen .peek fun ahead => ?_) fun second => ?_
  · split
    · exact .ite (fun _ => .andThen .next fun _ => .pure trivial) fun _ => .pure trivial
    · exact .pure trivial
  · dsimp only
    split
    · refine .ite (fun _ => .andThen (.takeWhile _ _) fun third => ?_) fun _ => ?_
      · split
        · exact .stopIf (fun _ => .fail) fun _ => .pure rfl
        · exact .andThen .get fun _ => .ite (fun _ => .backReference) fun _ => .fail
      · exact .andThen .get fun _ => .ite (fun _ => .backReference) fun _ => .fail
    · exact .andThen .get fun _ => .ite (fun _ => .backReference) fun _ => .fail

theorem itemEscape_ends (c : Char) (sound : reader.Sound text)
    (behind : reader.Behind ['\\', c]) :
    Ends text (fun item after => reader.Reaches text after ∧ item.looksBehind = false)
      (itemEscape c) reader := by
  unfold itemEscape
  cases anchorEscape? c with
  | some anchor => exact .pure ⟨sound.reaches, rfl⟩
  | none =>
      cases categoryEscape? c with
      | some item => exact .pure ⟨sound.reaches, rfl⟩
      | none =>
          cases controlEscape? c with
          | some code => exact .pure ⟨sound.reaches, rfl⟩
          | none =>
              refine .bind (codeEscape?_ends c sound behind) fun code after reaches => ?_
              cases code with
              | some code => exact .pure ⟨reaches, rfl⟩
              | none =>
                  refine Proceeds.from ?_ reaches
                  refine .ite (fun _ => ?_) fun _ => .ite (fun _ => ?_) fun _ => ?_
                  · exact .andThen (.takeWhile _ _) fun _ => .pure rfl
                  · exact .digitEscape c
                  · exact .andThen (.selfEscape c) fun _ => .pure rfl

theorem setMember_ends {rest : SetItem → Read α} (reaches : reader.Reaches text middle)
    (goes : ∀ item, Proceeds text told (rest item)) (token : Token) : middle.Behind token.chars →
      Ends text (fun value after => reader.Reaches text after ∧ told value)
        (match token with
          | .escaped c => Read.setEscape c >>= rest
          | .plain c => pure (.char c.toNat) >>= rest) middle := by
  intro behind
  cases token with
  | escaped c =>
      refine .bind (setEscape_ends c reaches.sound behind) fun item after more => ?_
      exact (goes item).from (reaches.trans more)
  | plain c => exact (goes _).from reaches

theorem Proceeds.setMembers (start fuel : Nat) (read : List SetItem) :
    Proceeds text (fun _ => True) (setMembers start fuel read) := by
  induction fuel generalizing read with
  | zero => exact .failAt
  | succ fuel ih =>
      intro reader sound
      refine .bind (next_ends sound) fun token middle ⟨_, reaches, passed⟩ => ?_
      cases token with
      | none => exact .failAt
      | some this =>
          refine .ite (fun _ => .pure ⟨reaches, trivial⟩) fun _ => ?_
          refine setMember_ends reaches (fun low => ?_) this ⟨_, passed.symm⟩
          refine .andThen (.accept '-') fun _ => .ite (fun _ => ?_) fun _ => ih _
          intro reader sound
          refine .bind (next_ends sound) fun token middle ⟨_, reaches, passed⟩ => ?_
          cases token with
          | none => exact .failAt
          | some that =>
              refine .ite (fun _ => .pure ⟨reaches, trivial⟩) fun _ => ?_
              refine setMember_ends reaches (fun high => ?_) that ⟨_, passed.symm⟩
              dsimp only
              split
              · exact .stopIf (fun _ => .fail) fun _ => ih _
              · exact .fail

theorem Proceeds.setItem : Proceeds text (fun item => item.looksBehind = false) setItem := by
  refine .andThen .tell fun _ => .andThen (.accept _) fun negated => ?_
  refine .andThen .get fun _ => .andThen (.setMembers _ _ _) fun members => ?_
  dsimp only
  split
  · cases negated <;> exact .pure rfl
  · exact .pure rfl

theorem goto_back_ends (sound : reader.Sound text)
    (reaches : reader.Reaches text middle) :
    Ends text (fun _ after => reader.Reaches text after) (goto reader.position) middle := by
  have passed : Reader.passed { middle with position := reader.position } = reader.passed := by
    simp only [Reader.passed, reaches.sound.written, sound.written]
  refine .get_bind (.stopIf (fun _ => .failAt) fun _ => ?_)
  refine ⟨⟨reaches.sound.written, ?_, reaches.sound.ascii, reaches.sound.unicode⟩,
    passed ▸ List.prefix_rfl, reaches.depth⟩
  rw [passed, reaches.depth]
  exact sound.depth

/-- The value of a bound, which is told where it is too large. -/
theorem proceeds_boundValue {digits : List Char} (bound : IsBound text digits) :
    Proceeds text (fun _ => True) (do
      if digits.isEmpty then return none
      if Decimal.digitLimit < digits.length then throw (.tooManyDigits digits.length)
      let value := Decimal.valueOf digits
      if repeatLimit ≤ value then throw .repeatTooLarge
      return some value) := by
  refine .ite (fun _ => .pure trivial) fun _ => ?_
  refine .stopIf (fun long => .throw ⟨digits, bound, rfl, long⟩) fun _ => ?_
  exact .stopIf (fun large => .throw ⟨digits, bound, large⟩) fun _ => .pure trivial

theorem bounds_ends (sound : reader.Sound text) (behind : reader.Behind ['\x7b']) :
    Ends text (fun _ after => reader.Reaches text after) bounds reader := by
  refine .tell_bind (.peek_bind (.ite (fun _ => .pure sound.reaches) fun _ => .get_bind ?_))
  refine .bind (takeWhile_ends Decimal.isDigit _ sound) fun low first ⟨toLow, passed, digits⟩ => ?_
  have lowBound : IsBound text low :=
    ⟨digits, _, by simp, (behind.append passed).isInfix toLow.sound⟩
  refine .bind (accept_ends ',' toLow.sound) fun isComma second ⟨toComma, comma⟩ => ?_
  refine .ite (fun holds => .get_bind (.bind (takeWhile_ends Decimal.isDigit _ toComma.sound)
    fun high third ⟨toHigh, highPassed, highDigits⟩ => ?two)) fun _ => .pure_bind ?one
  -- The greatest number of turns is written behind the comma, or else it is the least.
  case' two =>
    have commaBehind : second.Behind [','] := ⟨first.passed, by rw [comma, if_pos holds]⟩
    have highBound : IsBound text high :=
      ⟨highDigits, _, by simp, (commaBehind.append highPassed).isInfix toHigh.sound⟩
    have reaches := toLow.trans (toComma.trans toHigh)
  case' one =>
    have highBound := lowBound
    have reaches := toLow.trans toComma
  all_goals
    refine .bind (accept_ends '\x7d' reaches.sound) fun _ last ⟨toEnd, _⟩ => .ite (fun _ => ?_)
      fun _ => ?_
    · exact .bind (goto_back_ends sound (reaches.trans toEnd)) fun _ _ back => .pure back
    · refine Proceeds.reaches (.andThen (proceeds_boundValue lowBound) fun _ => ?_)
        (reaches.trans toEnd)
      refine .andThen (proceeds_boundValue highBound) fun _ => ?_
      exact .stopIf (fun _ => .failAt) fun _ => .pure trivial

/-- The flags for classes of characters are told from letters. -/
def FlagsFrom (letters : List Char) (flags : Flags) : Prop :=
  (flags.ascii → 'a' ∈ letters) ∧ (flags.unicode → 'u' ∈ letters)

theorem flag?_eq_some {token : Token} {flag : Flags} (isFlag : flag? token = some flag) :
    ∃ c, token = .plain c ∧ FlagsFrom [c] flag := by
  unfold flag? at isFlag
  split at isFlag <;> cases isFlag <;> exact ⟨_, rfl, by simp [FlagsFrom]⟩

theorem FlagsFrom.union {letters more : List Char} {flags added : Flags}
    (first : FlagsFrom letters flags) (second : FlagsFrom more added) :
    FlagsFrom (letters ++ more) (flags.union added) := by
  simp only [FlagsFrom, Flags.union, Bool.or_eq_true, List.mem_append] at first second ⊢
  exact ⟨Or.imp first.1 second.1, Or.imp first.2 second.2⟩

/-- Letters that have been read as flags for the whole pattern are found in it. -/
theorem FlagsFrom.isFound {letters : List Char} {flags : Flags} (told : FlagsFrom letters flags)
    (areFlags : ∀ c ∈ letters, (flag? (.plain c)).isSome) (sound : reader.Sound text)
    (behind : reader.Behind ('(' :: '?' :: letters ++ [')'])) :
    (flags.ascii → HasFlag text 'a') ∧ (flags.unicode → HasFlag text 'u') :=
  ⟨fun on => ⟨letters, told.1 on, areFlags, behind.isInfix sound⟩,
    fun on => ⟨letters, told.2 on, areFlags, behind.isInfix sound⟩⟩

theorem addedFlags_ends (fuel : Nat) (token : Token) (added : Flags) (letters : List Char)
    (sound : reader.Sound text) (behind : reader.Behind ('(' :: '?' :: letters ++ token.chars))
    (areFlags : ∀ c ∈ letters, (flag? (.plain c)).isSome) (told : FlagsFrom letters added) :
    Ends text (fun result after => reader.Reaches text after ∧ (result.2 = .plain ')' →
      (result.1.ascii → HasFlag text 'a') ∧ (result.1.unicode → HasFlag text 'u')))
      (addedFlags fuel token added) reader := by
  induction fuel generalizing token added letters reader with
  | zero => exact .fail
  | succ fuel ih =>
      rw [addedFlags]
      cases isFlag : flag? token with
      | none => exact .fail
      | some flag =>
          obtain ⟨c, rfl, flagTold⟩ := flag?_eq_some isFlag
          have union := told.union flagTold
          have allFlags : ∀ d ∈ letters ++ [c], (flag? (.plain d)).isSome := by
            intro d member
            rcases List.mem_append.mp member with earlier | last
            · exact areFlags d earlier
            · rw [List.mem_singleton.mp last, isFlag]
              rfl
          refine .stopIf (fun _ => .fail) fun _ => ?_
          refine .bind (next_ends sound) fun next after ⟨_, reaches, passed⟩ => ?_
          cases next with
          | none => exact .fail
          | some next =>
              have nextBehind := behind.append passed
              refine .ite (fun _ => .pure ⟨reaches, fun closing => ?_⟩) fun _ =>
                .stopIf (fun _ => .fail) fun _ => ?_
              · obtain rfl : next = .plain ')' := closing
                exact union.isFound allFlags reaches.sound nextBehind
              · exact (ih next _ _ reaches.sound nextBehind allFlags union).from reaches

theorem Proceeds.removedFlags (fuel : Nat) (token : Token) (removed : Flags) :
    Proceeds text (fun _ => True) (removedFlags fuel token removed) := by
  induction fuel generalizing token removed with
  | zero => exact .fail
  | succ fuel ih =>
      rw [Read.removedFlags]
      cases flag? token with
      | none => exact .fail
      | some flag =>
          refine .stopIf (fun _ => .fail) fun _ => .andThen .next fun next => ?_
          cases next with
          | none => exact .fail
          | some next =>
              exact .ite (fun _ => .pure trivial) fun _ => .stopIf (fun _ => .fail) fun _ => ih _ _

theorem groupFlags_ends (token : Token) (sound : reader.Sound text)
    (behind : reader.Behind ('(' :: '?' :: token.chars)) :
    Ends text (fun _ after => reader.Reaches text after) (groupFlags token) reader := by
  refine .get_bind (.ite_bind (.ite (fun minus => .pure ⟨sound.reaches, fun closing => ?minus⟩)
    fun _ => addedFlags_ends _ token {} [] sound behind (by simp) (by simp [FlagsFrom]))
      fun result middle ⟨reaches, found⟩ => ?rest)
  case minus =>
    obtain rfl : token = .plain ')' := closing
    contradiction
  case rest =>
    obtain ⟨added, terminator⟩ := result
    refine .ite (fun closing => .modify_bind (.pure ?_)) fun _ => ?_
    · obtain ⟨ascii, unicode⟩ := found (beq_iff_eq.mp closing)
      refine reaches.trans ⟨⟨reaches.sound.written, reaches.sound.depth, ?_, ?_⟩,
        List.prefix_rfl, rfl⟩
      · simp only [Flags.union, Bool.or_eq_true]
        exact fun on => on.elim reaches.sound.ascii ascii
      · simp only [Flags.union, Bool.or_eq_true]
        exact fun on => on.elim reaches.sound.unicode unicode
    · refine Proceeds.reaches (.stopIf (fun _ => .fail) fun _ =>
        .ite (fun _ => .pure trivial) fun _ => .andThen .next fun next => ?_) reaches
      cases next with
      | none => exact .fail
      | some next =>
          refine .stopIf (fun _ => .fail) fun _ => .andThen (.removedFlags _ _ _) fun _ => ?_
          exact .stopIf (fun _ => .fail) fun _ => .stopIf (fun _ => .fail) fun _ => .pure trivial

theorem Proceeds.skipComment (start fuel : Nat) :
    Proceeds text (fun _ => True) (skipComment start fuel) := by
  induction fuel with
  | zero => exact .failAt
  | succ fuel ih =>
      refine .andThen .peek fun _ => .stopIf (fun _ => .failAt) fun _ => ?_
      exact .andThen .next fun _ => .ite (fun _ => .pure trivial) fun _ => ih

theorem Proceeds.skipLine (fuel : Nat) : Proceeds text (fun _ => True) (skipLine fuel) := by
  induction fuel with
  | zero => exact .pure trivial
  | succ fuel ih =>
      refine .andThen .next fun token => ?_
      split
      · exact .pure trivial
      · exact .pure trivial
      · exact ih

theorem Proceeds.greed : Proceeds text (fun _ => True) greed := by
  refine .andThen .peek fun token => ?_
  split
  · exact .andThen .next fun _ => .pure trivial
  · exact .andThen .next fun _ => .pure trivial
  · exact .pure trivial

/-- Something that lies deeper is read where a parenthesis is open that is not counted yet. -/
theorem nested_ends {levels : Nat} (reaches : reader.Reaches text middle)
    (inside : reader.IsInside) (few : levels ≤ 2) (proceeds : Proceeds text told act) :
    Ends text (fun value after => reader.Reaches text after ∧ told value)
      (nested levels act) middle := by
  have isInside := inside.of_reaches reaches
  have sound := reaches.sound
  refine Ends.from (.get_bind (.stopIf (fun deep => .throw ?_) fun _ => .modify_bind ?_)) reaches
  · have all := sound.passed_prefix.sublist.count_le '('
    simp only [Failure.StopsReading, parenthesisLimit, depthLimit, Reader.IsInside] at deep isInside ⊢
    omega
  · have below : Reader.Sound text { middle with depth := middle.depth + levels } :=
      ⟨sound.written, Nat.le_trans (Nat.add_le_add_left few _) isInside, sound.ascii,
        sound.unicode⟩
    refine .bind (proceeds _ below) fun value after ended => .modify_bind (.pure ?_)
    obtain ⟨deeper, holds⟩ := ended
    have more := deeper.passed.sublist.count_le '('
    refine ⟨⟨⟨deeper.sound.written, ?_, deeper.sound.ascii, deeper.sound.unicode⟩,
      deeper.passed, rfl⟩, holds⟩
    exact Nat.le_trans sound.depth (Nat.mul_le_mul_left 2 more)

/-- A look-behind in the items is found in the text. -/
def Accounted (text : List Char) (items : List Item) : Prop :=
  sequenceLooksBehind items → HasLookbehind text

/-- An opening that makes items look behind is found in the text. -/
def AccountedOpening (text : List Char) : Opening → Prop
  | .item item => item.looksBehind = false
  | .look ahead _ => ahead = false → HasLookbehind text
  | _ => True

theorem opening_ends (start : Nat) (atStart : Bool) (sound : reader.Sound text)
    (behind : reader.Behind ['(']) :
    Ends text (fun opening after => reader.Reaches text after ∧ AccountedOpening text opening)
      (opening start atStart) reader := by
  refine .bind (accept_ends '?' sound) fun accepted first ⟨reaches, passed⟩ => ?_
  refine .ite (fun _ => .pure ⟨reaches, trivial⟩) fun isOpening => ?_
  have opened : first.Behind ['(', '?'] := by
    have accepted : accepted = true := by simpa using isOpening
    rw [accepted] at passed
    exact behind.append passed
  refine .bind (next_ends reaches.sound) fun token second ⟨_, more, passed⟩ => ?_
  cases token with
  | none => exact .fail
  | some token =>
      have tokenBehind : second.Behind ('(' :: '?' :: token.chars) := opened.append passed
      have reaches := reaches.trans more
      have finish : ∀ opening, AccountedOpening text opening →
          Ends text (fun opening after => reader.Reaches text after ∧
            AccountedOpening text opening) (pure opening) second :=
        fun _ found => .pure ⟨reaches, found⟩
      dsimp only
      split
      · refine Proceeds.from (.andThen (.accept _) fun _ => .ite (fun _ => ?_) fun _ => ?_) reaches
        · exact .andThen (.groupName _) fun _ => .pure trivial
        · refine .andThen (.accept _) fun _ => .ite (fun _ => ?_) fun _ => ?_
          · exact .bind .namedReference fun _ told => .pure told
          · refine .andThen .next fun next => ?_
            cases next <;> exact .fail
      · exact finish _ trivial
      · exact Proceeds.from (.andThen .get fun _ => .andThen (.skipComment _ _) fun _ =>
          .pure trivial) reaches
      · exact finish _ nofun
      · exact finish _ nofun
      · refine .bind (next_ends reaches.sound) fun next third ⟨_, last, passed⟩ => ?_
        cases next with
        | none => exact .fail
        | some sign =>
            have signBehind := (tokenBehind.append passed).isInfix last.sound
            dsimp only
            split
            · exact .pure ⟨reaches.trans last, fun _ => ⟨'=', by simp, signBehind⟩⟩
            · exact .pure ⟨reaches.trans last, fun _ => ⟨'!', by simp, signBehind⟩⟩
            · exact .fail
      · exact Proceeds.from (.andThen .condition fun _ => .pure trivial) reaches
      · exact finish _ trivial
      · refine .ite (fun _ => ?_) fun _ => .fail
        refine .bind (groupFlags_ends token reaches.sound tokenBehind) fun flags third last => ?_
        cases flags with
        | some flags => exact .pure ⟨reaches.trans last, trivial⟩
        | none => exact .stopIf (fun _ => .failAt) fun _ => .pure ⟨reaches.trans last, trivial⟩

section Recursion

variable (text)

/-- Alternatives are read forward. -/
def ReadsAlternatives (fuel : Nat) : Prop :=
  ∀ top verbose read, (branchLooksBehind read → HasLookbehind text) →
    Proceeds text (Accounted text) (alternatives fuel top verbose read)

def ReadsSequence (fuel : Nat) : Prop :=
  ∀ first verbose read, Accounted text read →
    Proceeds text (Accounted text) (sequence fuel first verbose read)

def ReadsGroup (fuel : Nat) : Prop :=
  ∀ start first verbose read reader, Accounted text read → reader.Sound text → reader.IsInside →
    reader.Behind ['('] →
    Ends text (fun items after => reader.Reaches text after ∧ Accounted text items)
      (group fuel start first verbose read) reader

variable {text} {fuel : Nat}

theorem Accounted.cons {item : Item} {read : List Item} (accounted : Accounted text read)
    (found : item.looksBehind → HasLookbehind text) : Accounted text (item :: read) := by
  intro looks
  rcases Bool.or_eq_true_iff.mp looks with first | later
  · exact found first
  · exact accounted later

theorem Accounted.plain {item : Item} {read : List Item} (accounted : Accounted text read)
    (clear : item.looksBehind = false) : Accounted text (item :: read) :=
  accounted.cons (by simp [clear])

theorem alternatives_succ (sequences : ReadsSequence text fuel)
    (more : ReadsAlternatives text fuel) : ReadsAlternatives text (fuel + 1) := by
  intro top verbose read accounted
  rw [alternatives]
  refine .bind (sequences _ _ _ nofun) fun items found => .andThen (.accept _) fun _ => ?_
  have all : branchLooksBehind (items :: read) → HasLookbehind text := by
    intro looks
    rcases Bool.or_eq_true_iff.mp looks with first | later
    · exact found first
    · exact accounted later
  refine .ite (fun _ => .andThen .get fun _ => more _ _ _ all) fun _ => .pure fun looks => all ?_
  have given := alternation_looksBehind _ looks
  rwa [branchLooksBehind_eq_any, List.any_reverse, ← branchLooksBehind_eq_any] at given

/-- A repetition is read behind the item that it repeats. -/
theorem repetition_proceeds (sequences : ReadsSequence text fuel) (first verbose : Bool)
    (here least : Nat) (most : Option Nat) (read : List Item) : Accounted text read →
    Proceeds text (Accounted text) (match read with
      | [] => Read.failAt .nothingToRepeat here
      | item :: before => do
          if item.isAnchor then Read.failAt .nothingToRepeat here
          if item.isRepetition then Read.failAt .multipleRepeat here
          let greed ← Read.greed
          sequence fuel first verbose (.repetition greed least most item.ungrouped :: before)) := by
  intro accounted
  cases read with
  | nil => exact .failAt
  | cons item before =>
      refine .stopIf (fun _ => .failAt) fun _ => .stopIf (fun _ => .failAt) fun _ => ?_
      refine .andThen .greed fun greed => sequences _ _ _ ?_
      simpa [Accounted, sequenceLooksBehind, Item.looksBehind] using accounted

theorem sequence_succ (sequences : ReadsSequence text fuel) (groups : ReadsGroup text fuel) :
    ReadsSequence text (fuel + 1) := by
  intro first verbose read accounted reader sound
  rw [sequence]
  have done : Accounted text (read.reverse.map Item.ungrouped).flatten := by
    rw [Accounted, sequenceLooksBehind_restored]
    exact accounted
  refine .peek_bind ?_
  cases ahead : reader.ahead with
  | none => exact .pure ⟨sound.reaches, done⟩
  | some token =>
      refine .ite (fun _ => .pure ⟨sound.reaches, done⟩) fun notEnd => ?_
      refine .bind (next_ends sound) fun next middle taken => ?_
      obtain ⟨same, reaches, passed⟩ := taken
      obtain rfl : next = some token := same.trans ahead
      have behind : middle.Behind token.chars := ⟨_, passed.symm⟩
      have skip : Proceeds text (Accounted text) (sequence fuel first verbose read) :=
        sequences _ _ _ accounted
      have goOn (item : Item) (clear : item.looksBehind = false) :
          Proceeds text (Accounted text) (sequence fuel first verbose (item :: read)) :=
        sequences _ _ _ (accounted.plain clear)
      refine .ite (fun _ => skip.from reaches) fun notBlank =>
        .ite (fun _ => ?_) fun notComment => ?_
      · exact Proceeds.from (.andThen .get fun _ => .andThen (.skipLine _) fun _ => skip) reaches
      split
      case h_1 c =>
        refine .bind (itemEscape_ends c reaches.sound behind) fun item after ⟨more, clear⟩ => ?_
        exact (goOn item clear).from (reaches.trans more)
      case h_2 => exact Proceeds.from (.bind .setItem goOn) reaches
      -- A parenthesis that opens a group.
      case h_6 =>
        have inside : middle.IsInside := sound.isInside reaches passed
        exact .tell_bind ((groups _ _ _ _ _ accounted reaches.sound inside behind).from reaches)
      -- Another character, which may repeat the item before it.
      case h_7 c _ _ _ _ _ =>
        refine .ite (fun isRepetition => .tell_bind ?_) fun _ => (goOn _ rfl).from reaches
        have repeated (least : Nat) (most : Option Nat) :=
          repetition_proceeds sequences first verbose (middle.position - 1) least most read
            accounted
        dsimp only
        split
        case h_4 isNotOption isNotStar isNotPlus =>
          obtain rfl : c = '\x7b' := by
            simp only [Bool.or_eq_true, beq_iff_eq] at isRepetition
            rcases isRepetition with ((option | star) | plus) | brace
            · exact absurd option isNotOption
            · exact absurd star isNotStar
            · exact absurd plus isNotPlus
            · exact brace
          refine .bind (bounds_ends reaches.sound behind) fun found after more => ?_
          have reaches := reaches.trans more
          cases found with
          | none => exact (goOn _ rfl).from reaches
          | some turns => exact (repeated turns.1 turns.2).from reaches
        all_goals exact .pure_bind ((repeated _ _).from reaches)
      all_goals exact (goOn _ rfl).from reaches

theorem group_succ (all : ReadsAlternatives text fuel) (sequences : ReadsSequence text fuel) :
    ReadsGroup text (fuel + 1) := by
  intro start first verbose read reader accounted sound inside behind
  have within (verbose : Bool) (middle : Reader) (reaches : reader.Reaches text middle) :
      Ends text (fun items after => reader.Reaches text after ∧ Accounted text items)
        (nested 2 (alternatives fuel false verbose [])) middle :=
    nested_ends reaches inside (by decide) (all false verbose [] nofun)
  have branch (middle : Reader) (reaches : reader.Reaches text middle) :
      Ends text (fun items after => reader.Reaches text after ∧ Accounted text items)
        (nested 1 (sequence fuel false verbose [])) middle :=
    nested_ends reaches inside (by decide) (sequences false verbose [] nofun)
  have close : Proceeds text (fun _ => True) (do
      if !(← accept ')') then failAt .unterminatedGroup start) :=
    .andThen (.accept _) fun _ => .ite (fun _ => .failAt) fun _ => .pure trivial
  have goOn (item : Item) (found : item.looksBehind → HasLookbehind text) :
      Proceeds text (Accounted text) (sequence fuel first verbose (item :: read)) :=
    sequences _ _ _ (accounted.cons found)
  rw [group]
  refine .bind (opening_ends start _ sound behind) fun opening middle ⟨reaches, found⟩ => ?_
  cases opening with
  | nothing => exact Proceeds.from (.andThen .get fun _ => sequences _ _ _ accounted) reaches
  | item item => exact (sequences _ _ _ (accounted.plain found)).from reaches
  | capture name =>
      refine .bind ((Proceeds.openGroup name).from reaches) fun index opened ⟨reaches, _⟩ => ?_
      refine .bind (within verbose opened reaches) fun body last ⟨reaches, told⟩ => ?_
      exact Proceeds.from (.andThen close fun _ => .andThen (.closeGroup _ _) fun _ =>
        goOn _ told) reaches
  | plain added removed =>
      refine .bind (within _ middle reaches) fun body last ⟨reaches, told⟩ => ?_
      exact Proceeds.from (.andThen close fun _ => goOn _ told) reaches
  | atomic =>
      refine .bind (within _ middle reaches) fun body last ⟨reaches, told⟩ => ?_
      exact Proceeds.from (.andThen close fun _ => goOn _ told) reaches
  | look ahead negated =>
      refine .get_bind (.when (fun _ => ?_) reaches fun noted reaches => ?_)
      · exact reaches.trans (reaches.sound.reaches_of_passed rfl List.prefix_rfl rfl rfl)
      · refine .bind (within verbose noted reaches) fun body last ⟨reaches, told⟩ => ?_
        have look : (Item.look ahead negated body).looksBehind → HasLookbehind text := by
          intro looks
          rcases Bool.or_eq_true_iff.mp looks with behind | inBody
          · exact found (by simpa using behind)
          · exact told inBody
        refine Proceeds.from (.when ?_ (.andThen close fun _ => goOn _ look)) reaches
        exact .modify (fun _ => rfl) (fun _ => rfl) (fun _ => rfl) fun _ => rfl
  | conditional index =>
      refine .bind (branch middle reaches) fun present second ⟨reaches, presentTold⟩ => ?_
      refine .bind (show Ends text (fun absent after => reader.Reaches text after ∧
        ∀ items, absent = some items → Accounted text items) _ second from ?absent)
        fun absent last ⟨reaches, absentTold⟩ => ?rest
      case absent =>
        refine .bind (accept_ends '|' reaches.sound) fun _ third ⟨more, _⟩ => ?_
        have reaches := reaches.trans more
        refine .ite (fun _ => ?_) fun _ => .pure ⟨reaches, nofun⟩
        refine .bind (branch third reaches) fun absent fourth ⟨reaches, told⟩ => .peek_bind ?_
        refine .stopIf (fun _ => .fail) fun _ => .pure ⟨reaches, ?_⟩
        rintro items ⟨⟩
        exact told
      case rest =>
        refine Proceeds.from (.andThen close fun _ => goOn _ fun looks => ?_) reaches
        cases absent with
        | none => exact presentTold (by simpa [Item.looksBehind] using looks)
        | some absent =>
            simp only [Item.looksBehind, Bool.or_eq_true] at looks
            exact looks.elim presentTold (absentTold absent rfl)

theorem recursion_reads (fuel : Nat) :
    ReadsAlternatives text fuel ∧ ReadsSequence text fuel ∧ ReadsGroup text fuel := by
  -- All three recur in the fuel, so each step needs all three of the fuel below.
  induction fuel with
  | zero =>
      refine ⟨fun _ _ _ _ => ?_, fun _ _ _ _ => ?_, fun _ _ _ _ _ _ sound _ _ => ?_⟩
      · exact .pure nofun
      · exact .pure nofun
      · exact .pure ⟨sound.reaches, nofun⟩
  | succ fuel ih =>
      obtain ⟨all, sequences, groups⟩ := ih
      exact ⟨alternatives_succ sequences all, sequence_succ sequences groups,
        group_succ all sequences⟩

end Recursion

end Read

/-- What is made of a value that has been read, or the failure to read it. -/
theorem Read.Ends.made_of {α β : Type} {text : List Char} {post : α → Reader → Prop}
    {act : Read α} {reader : Reader} {told : β → Prop} {make : α × Reader → Except Failure β}
    (ends : Read.Ends text post act reader)
    (makes : ∀ value after, post value after → ∃ made, make (value, after) = .ok made ∧ told made) :
    (∃ made, act.run reader >>= make = .ok made ∧ told made) ∨
      ∃ failure, act.run reader >>= make = .error failure ∧ failure.StopsReading text := by
  unfold Ends at ends
  cases ended : act reader with
  | ok result =>
      rw [ended] at ends
      obtain ⟨made, isMade, holds⟩ := makes result.1 result.2 ends
      exact .inl ⟨made, by rw [StateT.run, ended]; exact isMade, holds⟩
  | error failure =>
      rw [ended] at ends
      exact .inr ⟨failure, by rw [StateT.run, ended]; rfl, ends⟩

/-- Where a pattern is read, its items look behind only if its text does, and where it is not, the
failure is found in its text. -/
theorem Expression.read_cases (source : String) :
    (∃ expression, Expression.read source = .ok expression ∧
      Read.Accounted source.toList expression.items) ∨
    ∃ failure, Expression.read source = .error failure ∧ failure.StopsReading source.toList := by
  have sound : Reader.Sound source.toList
      { text := source.toList.toArray, flags := { ignoreCase := true } } :=
    ⟨by simp, Nat.zero_le _, nofun, nofun⟩
  refine Read.Ends.made_of ?_ fun items after told => ⟨_, rfl, told⟩
  refine .bind (show Read.Ends source.toList (fun _ first => first.Sound source.toList)
    (Read.goto 0) _ from .get_bind (.stopIf (fun _ => .failAt) fun _ => sound))
    fun _ first sound => ?_
  refine .bind ((Read.recursion_reads _).1 true false [] nofun first sound)
    fun items last ⟨reaches, told⟩ => ?_
  refine .get_bind (.stopIf (fun both => .throw ?_) fun _ =>
    .peek_bind (.stopIf (fun _ => .fail) fun _ => ?_))
  · obtain ⟨ascii, unicode⟩ := Bool.and_eq_true_iff.mp both
    exact ⟨reaches.sound.ascii ascii, reaches.sound.unicode unicode⟩
  · split
    · exact .failAt
    · exact .pure told

variable [edition : Edition]

/-- What in the text of a pattern accounts for a failure, where it is more than an error of the
pattern. -/
def Failure.IsFoundIn (text : List Char) : Failure → Prop
  | .lookbehindTooFar => edition = .early ∧ HasLookbehind text
  | failure => failure.StopsReading text

theorem Failure.StopsReading.isFoundIn {text : List Char} {failure : Failure}
    (stops : failure.StopsReading text) : failure.IsFoundIn text := by
  cases failure with
  | lookbehindTooFar => exact stops.elim
  | _ => exact stops

/-- What makes the compilation of a pattern fail is found in its text. -/
theorem compile_failure {source : String} {failure : Failure}
    (failed : compile source = .error failure) : failure.IsFoundIn source.toList := by
  rcases Expression.read_cases source with ⟨expression, read, told⟩ | ⟨problem, read, stops⟩
  · cases prepared : sequencePrepare expression.groups expression.flags expression.items with
    | error problem =>
        simp only [compile, read, prepared, Except.mapError, bind, Except.bind] at failed
        cases failed
        trivial
    | ok nodes =>
        simp only [compile, read, prepared, Except.mapError, bind, Except.bind, Bool.and_eq_true,
          decide_eq_true_eq] at failed
        split at failed
        · rename_i far
          cases failed
          refine ⟨far.1, told ?_⟩
          by_contra plain
          have noReach := sequencePrepare_backReach _ expression.items _ nodes prepared
            (Bool.eq_false_iff.mpr plain)
          exact absurd (noReach ▸ far.2) (by decide)
        · contradiction
  · simp only [compile, read, bind, Except.bind] at failed
    cases failed
    exact stops.isFoundIn

example : compile "(?a)(?u)a" = .error .conflictingFlags := by cbv

example : @compile .early "(?<=a\x7b2147483648\x7d)b" = .error .lookbehindTooFar := by cbv

end Rulebook.Pattern
