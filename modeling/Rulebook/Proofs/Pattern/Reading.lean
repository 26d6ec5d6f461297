import Mathlib.Data.List.Count
import Mathlib.Data.List.Infix
import Rulebook.Pattern.Reader

/-!
Reading a pattern, step by step. A reader keeps the text and goes forward in it, so that what has
been passed is told from the tokens that were taken (`Reader.passed`). It ends with a reader that
keeps its bounds (`Reader.Sound`), or in a failure that something in the text accounts for
(`Failure.StopsReading`). `Read.Ends` says how reading ends from one reader, and `Read.Proceeds` that
it goes forward from any.
-/

namespace Rulebook.Pattern

/-- Digits that are a bound of a counted repetition. -/
def IsBound (text digits : List Char) : Prop :=
  (∀ digit ∈ digits, Decimal.isDigit digit) ∧ ∃ mark ∈ ['\x7b', ','], mark :: digits <:+: text

/-- Flags for the whole pattern, the letter among them. -/
def HasFlag (text : List Char) (letter : Char) : Prop :=
  ∃ letters, letter ∈ letters ∧ (∀ c ∈ letters, (Read.flag? (.plain c)).isSome) ∧
    '(' :: '?' :: letters ++ [')'] <:+: text

/-- The opening of a look-behind. -/
def HasLookbehind (text : List Char) : Prop :=
  ∃ sign ∈ ['=', '!'], ['(', '?', '<', sign] <:+: text

/-- How many parentheses can be open at once. -/
def parenthesisLimit : Nat := depthLimit / 2

/-- What in a text accounts for a failure to read it, where that is more than an error of the
pattern. -/
def Failure.StopsReading (text : List Char) : Failure → Prop
  | .rejected _ => True
  | .repeatTooLarge => ∃ digits, IsBound text digits ∧ repeatLimit ≤ Decimal.valueOf digits
  | .tooManyDigits count =>
      ∃ digits, IsBound text digits ∧ digits.length = count ∧ Decimal.digitLimit < count
  | .characterTooLarge => ∃ digits, digits.length = 8 ∧ (∀ digit ∈ digits, isHexDigit digit) ∧
      '\\' :: 'U' :: digits <:+: text ∧ 0x7FFFFFFF < Text.hexValue digits
  | .conflictingFlags => HasFlag text 'a' ∧ HasFlag text 'u'
  | .tooDeep => parenthesisLimit < text.count '('
  | .lookbehindTooFar | .reversedGroup => False

namespace Token

/-- The characters that a token is written with. -/
def chars : Token → List Char
  | plain c => [c]
  | escaped c => ['\\', c]

theorem length_chars (token : Token) : token.chars.length = token.length := by
  cases token <;> rfl

end Token

namespace Reader

variable {text chars : List Char} {reader before after : Reader}

/-- The part of the text that has been passed. -/
def passed (reader : Reader) : List Char := reader.text.toList.take reader.position

/-- The reader is in the text, not deeper than the parentheses that it has passed, and its flags for
classes of characters come from the text. -/
structure Sound (text : List Char) (reader : Reader) : Prop where
  written : reader.text.toList = text
  depth : reader.depth ≤ 2 * reader.passed.count '('
  ascii : reader.flags.ascii → HasFlag text 'a'
  unicode : reader.flags.unicode → HasFlag text 'u'

/-- One reader comes, as deep as before, from another that is not behind it. -/
structure Reaches (text : List Char) (before after : Reader) : Prop where
  sound : after.Sound text
  passed : before.passed <+: after.passed
  depth : after.depth = before.depth

theorem Sound.reaches (sound : reader.Sound text) : reader.Reaches text reader :=
  ⟨sound, List.prefix_rfl, rfl⟩

theorem Reaches.trans {middle : Reader} (first : before.Reaches text middle)
    (second : middle.Reaches text after) : before.Reaches text after :=
  ⟨second.sound, first.passed.trans second.passed, second.depth.trans first.depth⟩

theorem Sound.reaches_of_passed (sound : before.Sound text) (kept : after.text = before.text)
    (passed : before.passed <+: after.passed) (depth : after.depth = before.depth)
    (flags : after.flags = before.flags) : before.Reaches text after := by
  have deep : after.depth ≤ 2 * after.passed.count '(' := by
    have more := passed.sublist.count_le '('
    have bound := sound.depth
    omega
  refine ⟨⟨kept ▸ sound.written, deep, ?_, ?_⟩, passed, depth⟩
  · rw [flags]
    exact sound.ascii
  · rw [flags]
    exact sound.unicode

theorem Sound.passed_prefix (sound : reader.Sound text) : reader.passed <+: text := by
  rw [passed, sound.written]
  exact List.take_prefix _ _

/-- The characters stand right behind the position. -/
def Behind (chars : List Char) (reader : Reader) : Prop := chars <:+ reader.passed

theorem Behind.isInfix (behind : reader.Behind chars) (sound : reader.Sound text) :
    chars <:+: text :=
  (List.IsSuffix.isInfix behind).trans sound.passed_prefix.isInfix

theorem Behind.append {more : List Char} (behind : before.Behind chars)
    (passed : after.passed = before.passed ++ more) : after.Behind (chars ++ more) := by
  obtain ⟨start, split⟩ := behind
  exact ⟨start, by rw [passed, ← split, List.append_assoc]⟩

/-- The token at the position. -/
def ahead (reader : Reader) : Option Token :=
  match reader.text[reader.position]? with
  | none => none
  | some '\\' => (reader.text[reader.position + 1]?).map .escaped
  | some c => some (.plain c)

theorem chars_ahead {token : Token} (ahead : reader.ahead = some token) :
    token.chars <+: reader.text.toList.drop reader.position := by
  have drop_eq : ∀ (index : Nat) (c : Char), reader.text[index]? = some c →
      reader.text.toList.drop index = c :: reader.text.toList.drop (index + 1) := by
    intro index c found
    obtain ⟨bound, same⟩ := Array.getElem?_eq_some_iff.mp found
    rw [List.drop_eq_getElem_cons (by simpa using bound), Array.getElem_toList, same]
  unfold Reader.ahead at ahead
  split at ahead
  · contradiction
  · rename_i slash
    obtain ⟨c, found, rfl⟩ := Option.map_eq_some_iff.mp ahead
    rw [drop_eq _ _ slash, drop_eq _ _ found]
    exact ⟨_, rfl⟩
  · rename_i c _ found
    cases ahead
    rw [drop_eq _ _ found]
    exact ⟨_, rfl⟩

theorem passed_token {token : Token} (ahead : reader.ahead = some token) :
    Reader.passed { reader with position := reader.position + token.length } =
      reader.passed ++ token.chars := by
  have chars := List.prefix_iff_eq_take.mp (chars_ahead ahead)
  rw [token.length_chars] at chars
  simp only [Reader.passed, List.take_add, ← chars]

/-- There is a parenthesis behind the position besides those that are counted in the depth. -/
def IsInside (reader : Reader) : Prop := reader.depth + 2 ≤ 2 * reader.passed.count '('

theorem Sound.isInside (sound : before.Sound text) (reaches : before.Reaches text after)
    (passed : after.passed = before.passed ++ ['(']) : after.IsInside := by
  have bound := sound.depth
  rw [IsInside, reaches.depth, passed, List.count_append, List.count_singleton_self]
  omega

theorem IsInside.of_reaches (inside : before.IsInside) (reaches : before.Reaches text after) :
    after.IsInside := by
  have more := reaches.passed.sublist.count_le '('
  have depth := reaches.depth
  unfold IsInside at inside ⊢
  omega

end Reader

namespace Read

variable {α β : Type} {text : List Char} {reader : Reader} {post : α → Reader → Prop}

/-- How reading ends: with a value and a reader as said, or in a failure that is accounted for. -/
def Ends (text : List Char) (post : α → Reader → Prop) (act : Read α) (reader : Reader) : Prop :=
  match act reader with
  | .ok (value, after) => post value after
  | .error failure => failure.StopsReading text

namespace Ends

theorem mono {weaker : α → Reader → Prop} {act : Read α} (ends : Ends text post act reader)
    (weaken : ∀ value after, post value after → weaker value after) :
    Ends text weaker act reader := by
  unfold Ends at ends ⊢
  cases ended : act reader with
  | ok result =>
      rw [ended] at ends
      exact weaken result.1 result.2 ends
  | error failure => rwa [ended] at ends

theorem pure {value : α} (holds : post value reader) : Ends text post (pure value) reader := holds

theorem bind {middle : β → Reader → Prop} {act : Read β} {next : β → Read α}
    (first : Ends text middle act reader)
    (rest : ∀ value after, middle value after → Ends text post (next value) after) :
    Ends text post (act >>= next) reader := by
  unfold Ends at first
  cases ended : act reader with
  | ok result =>
      rw [ended] at first
      have ends := rest result.1 result.2 first
      have opened : (act >>= next) reader = next result.1 result.2 := by
        simp [Bind.bind, StateT.bind, ended, Except.bind]
      unfold Ends at ends ⊢
      rwa [opened]
  | error failure =>
      have opened : (act >>= next) reader = .error failure := by
        simp [Bind.bind, StateT.bind, ended, Except.bind]
      rw [ended] at first
      unfold Ends
      rwa [opened]

theorem ite {condition : Prop} [Decidable condition] {act other : Read α}
    (yes : condition → Ends text post act reader) (no : ¬condition → Ends text post other reader) :
    Ends text post (if condition then act else other) reader := by
  by_cases holds : condition
  · rw [if_pos holds]
    exact yes holds
  · rw [if_neg holds]
    exact no holds

theorem when {condition : Prop} [Decidable condition] {middle : Reader → Prop} {act : Read PUnit}
    {next : PUnit → Read α} (acts : condition → Ends text (fun _ after => middle after) act reader)
    (stays : middle reader) (rest : ∀ after, middle after → Ends text post (next ⟨⟩) after) :
    Ends text post (if condition then act >>= next else next ⟨⟩) reader :=
  .ite (fun holds => .bind (acts holds) fun _ after reached => rest after reached)
    fun _ => rest reader stays

/-- Reading that goes on in the same way from either of two. -/
theorem ite_bind {condition : Prop} [Decidable condition] {middle : β → Reader → Prop}
    {act other : Read β} {next : β → Read α}
    (first : Ends text middle (if condition then act else other) reader)
    (rest : ∀ value after, middle value after → Ends text post (next value) after) :
    Ends text post (if condition then act >>= next else other >>= next) reader := by
  by_cases holds : condition
  · rw [if_pos holds] at first ⊢
    exact first.bind rest
  · rw [if_neg holds] at first ⊢
    exact first.bind rest

theorem throw {failure : Failure} (found : failure.StopsReading text) :
    Ends text post (throw failure) reader := found

theorem failAt {problem : Problem} {position : Nat} :
    Ends text post (failAt problem position) reader := trivial

theorem fail {problem : Problem} {back : Nat} : Ends text post (fail problem back) reader := trivial

theorem get_bind {next : Reader → Read α} (rest : Ends text post (next reader) reader) :
    Ends text post (get >>= next) reader := rest

theorem pure_bind {value : β} {next : β → Read α} (rest : Ends text post (next value) reader) :
    Ends text post (Pure.pure value >>= next) reader := rest

theorem set_bind {changed : Reader} {next : PUnit → Read α}
    (rest : Ends text post (next ⟨⟩) changed) : Ends text post (set changed >>= next) reader := rest

theorem modify_bind {change : Reader → Reader} {next : PUnit → Read α}
    (rest : Ends text post (next ⟨⟩) (change reader)) :
    Ends text post (modify change >>= next) reader := rest

theorem tell_bind {next : Nat → Read α} (rest : Ends text post (next reader.position) reader) :
    Ends text post (tell >>= next) reader := rest

theorem stopIf {condition : Prop} [Decidable condition] {stop : Read β} {next : β → Read α}
    {goOn : Read α} (stops : condition → Ends text (fun _ _ => False) stop reader)
    (rest : ¬condition → Ends text post goOn reader) :
    Ends text post (if condition then stop >>= next else goOn) reader :=
  .ite (fun holds => .bind (stops holds) fun _ _ never => never.elim) rest

end Ends

/-- From any reader in the text, reading goes forward and its value is as told. -/
def Proceeds (text : List Char) (told : α → Prop) (act : Read α) : Prop :=
  ∀ reader, reader.Sound text →
    Ends text (fun value after => reader.Reaches text after ∧ told value) act reader

namespace Proceeds

variable {told : α → Prop} {first : β → Prop}

theorem pure {value : α} (holds : told value) : Proceeds text told (pure value) :=
  fun _ sound => .pure ⟨sound.reaches, holds⟩

theorem bind {act : Read β} {next : β → Read α} (proceeds : Proceeds text first act)
    (rest : ∀ value, first value → Proceeds text told (next value)) :
    Proceeds text told (act >>= next) :=
  fun reader sound => (proceeds reader sound).bind fun value after ⟨reaches, holds⟩ =>
    (rest value holds after reaches.sound).mono
      fun _ _ ⟨more, final⟩ => ⟨reaches.trans more, final⟩

theorem ite {condition : Prop} [Decidable condition] {act other : Read α}
    (yes : condition → Proceeds text told act) (no : ¬condition → Proceeds text told other) :
    Proceeds text told (if condition then act else other) :=
  fun reader sound => .ite (fun holds => yes holds reader sound) fun holds => no holds reader sound

theorem throw {failure : Failure} (found : failure.StopsReading text) :
    Proceeds text told (throw failure) := fun _ _ => .throw found

theorem failAt {problem : Problem} {position : Nat} :
    Proceeds text told (failAt problem position) := fun _ _ => .failAt

theorem fail {problem : Problem} {back : Nat} : Proceeds text told (fail problem back) :=
  fun _ _ => .fail

theorem andThen {act : Read β} {next : β → Read α} (proceeds : Proceeds text (fun _ => True) act)
    (rest : ∀ value, Proceeds text told (next value)) : Proceeds text told (act >>= next) :=
  proceeds.bind fun value _ => rest value

theorem stop {act : Read β} {next : β → Read α} (stops : Proceeds text (fun _ => False) act) :
    Proceeds text told (act >>= next) :=
  stops.bind fun _ never => never.elim

theorem stopIf {condition : Prop} [Decidable condition] {stop : Read β} {next : β → Read α}
    {goOn : Read α} (stops : condition → Proceeds text (fun _ => False) stop)
    (rest : ¬condition → Proceeds text told goOn) :
    Proceeds text told (if condition then stop >>= next else goOn) :=
  .ite (fun holds => .stop (stops holds)) rest

theorem when {condition : Prop} [Decidable condition] {act : Read PUnit} {next : PUnit → Read α}
    (acts : Proceeds text (fun _ => True) act) (rest : Proceeds text told (next ⟨⟩)) :
    Proceeds text told (if condition then act >>= next else next ⟨⟩) :=
  .ite (fun _ => .andThen acts fun _ => rest) fun _ => rest

theorem get : Proceeds text (fun _ => True) get := fun _ sound => ⟨sound.reaches, trivial⟩

theorem tell : Proceeds text (fun _ => True) tell := fun _ sound => ⟨sound.reaches, trivial⟩

theorem modify {change : Reader → Reader} (text_eq : ∀ reader, (change reader).text = reader.text)
    (position_eq : ∀ reader, (change reader).position = reader.position)
    (flags_eq : ∀ reader, (change reader).flags = reader.flags)
    (depth_eq : ∀ reader, (change reader).depth = reader.depth) :
    Proceeds text (fun _ => True) (modify change) := fun reader sound => by
  have passed : (change reader).passed = reader.passed := by
    rw [Reader.passed, Reader.passed, text_eq, position_eq]
  exact ⟨sound.reaches_of_passed (text_eq reader) (passed ▸ List.prefix_rfl) (depth_eq reader)
    (flags_eq reader), trivial⟩

end Proceeds

variable {told : α → Prop}

theorem peek_eq (reader : Reader) : peek reader = .ok (reader.ahead, reader) := by
  change (match reader.text[reader.position]? with
    | none => (Pure.pure none : Read (Option Token))
    | some '\\' => Pure.pure ((reader.text[reader.position + 1]?).map .escaped)
    | some c => Pure.pure (some (.plain c))) reader = _
  unfold Reader.ahead
  cases reader.text[reader.position]? with
  | none => rfl
  | some c => by_cases slash : c = '\\' <;> simp [slash] <;> rfl

theorem Ends.peek_bind {next : Option Token → Read α}
    (rest : Ends text post (next reader.ahead) reader) :
    Ends text post (peek >>= next) reader := by
  have opened : (Read.peek >>= next) reader = next reader.ahead reader := by
    simp [Bind.bind, StateT.bind, peek_eq, Except.bind]
  unfold Ends at rest ⊢
  rwa [opened]

theorem Proceeds.peek : Proceeds text (fun _ => True) peek := fun _ sound => by
  rw [Ends, peek_eq]
  exact ⟨sound.reaches, trivial⟩

theorem goto_token {token : Token} (sound : reader.Sound text)
    (ahead : reader.ahead = some token) :
    Ends text (fun _ after => reader.Reaches text after ∧
      after.passed = reader.passed ++ token.chars)
      (goto (reader.position + token.length)) reader := by
  have passed := Reader.passed_token ahead
  refine .get_bind (.stopIf (fun _ => .failAt) fun _ => ?_)
  refine ⟨sound.reaches_of_passed rfl ?_ rfl rfl, passed⟩
  rw [passed]
  exact List.prefix_append _ _

/-- Taking the next token passes it, and nothing else. -/
theorem next_ends (sound : reader.Sound text) :
    Ends text (fun token after => token = reader.ahead ∧ reader.Reaches text after ∧
      after.passed = reader.passed ++ token.elim [] Token.chars) next reader := by
  refine .peek_bind ?_
  cases ahead : reader.ahead with
  | none => exact ⟨rfl, sound.reaches, by simp⟩
  | some token =>
      refine .tell_bind (.bind (goto_token sound ahead) fun _ after ⟨reaches, passed⟩ => ?_)
      exact ⟨rfl, reaches, passed⟩

theorem Proceeds.next : Proceeds text (fun _ => True) next :=
  fun _ sound => (next_ends sound).mono fun _ _ ⟨_, reaches, _⟩ => ⟨reaches, trivial⟩

theorem accept_ends (c : Char) (sound : reader.Sound text) :
    Ends text (fun accepted after => reader.Reaches text after ∧
      after.passed = reader.passed ++ if accepted then [c] else []) (accept c) reader := by
  refine .peek_bind (.ite (fun stands => ?_) fun _ => ?_)
  · refine .bind (next_ends sound) fun token after ⟨same, reaches, passed⟩ => ?_
    obtain rfl : token = some (.plain c) := same.trans (beq_iff_eq.mp stands)
    exact ⟨reaches, passed⟩
  · exact ⟨sound.reaches, by simp⟩

theorem Proceeds.accept (c : Char) : Proceeds text (fun _ => True) (accept c) :=
  fun _ sound => (accept_ends c sound).mono fun _ _ ⟨reaches, _⟩ => ⟨reaches, trivial⟩

theorem takeWhile_ends (set : Char → Bool) (count : Nat) (sound : reader.Sound text) :
    Ends text (fun chars after => reader.Reaches text after ∧
      after.passed = reader.passed ++ chars ∧ ∀ c ∈ chars, set c) (takeWhile set count) reader := by
  induction count generalizing reader with
  | zero => exact ⟨sound.reaches, by simp⟩
  | succ count ih =>
      refine .peek_bind ?_
      split
      · rename_i c ahead
        refine .ite (fun inSet => ?_) fun _ => ⟨sound.reaches, by simp⟩
        refine .bind (next_ends sound) fun token middle ⟨same, reaches, passed⟩ => ?_
        obtain rfl : token = some (.plain c) := same.trans ahead
        refine .bind (ih reaches.sound) fun chars after ⟨more, passedMore, inSets⟩ => ?_
        refine ⟨reaches.trans more, ?_, ?_⟩
        · rw [passedMore, passed, List.append_assoc]
          rfl
        · rintro d (_ | ⟨_, later⟩)
          · exact inSet
          · exact inSets d later
      · exact ⟨sound.reaches, by simp⟩

end Read

end Rulebook.Pattern
