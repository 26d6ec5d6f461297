import Rulebook.Decimal.Reading
import Rulebook.Text.Quoted

/-!
Why a text is no regular expression.
-/

namespace Rulebook.Pattern

inductive Problem where
  | escapeAtEnd
  | nothingToRepeat
  | multipleRepeat
  | emptyRepeatRange
  | unterminatedSet
  | badRange (first last : String)
  | incompleteEscape (escape : String)
  | badEscape (escape : String)
  | missingBrace
  | missing (what : String)
  | unterminatedName (terminator : Char)
  | unknownCharacterName (name : String)
  | octalTooLarge (escape : String)
  | openGroup
  | groupOfLookbehind
  | invalidGroupReference (group : Int)
  | unexpectedEnd
  | unknownExtension (extension : String)
  | badGroupName (name : String)
  | unknownGroupName (name : String)
  | groupRedefinition (name : String) (group earlier : Nat)
  | badGroupNumber
  | unterminatedComment
  | unterminatedGroup
  | thirdBranch
  | lateGlobalFlags
  | localeFlag
  | incompatibleFlags
  | unfinishedFlags
  | unknownFlag
  | missingFlag
  | missingColon
  | globalFlagOn
  | globalFlagOff
  | classFlagOff
  | flagOnAndOff
  | unbalancedParenthesis
  | variableLookbehind
  | distantLookbehind
  | templateRepeat (operator : String)
  deriving DecidableEq, Repr

def Problem.message : Problem → String
  | escapeAtEnd => "bad escape (end of pattern)"
  | nothingToRepeat => "nothing to repeat"
  | multipleRepeat => "multiple repeat"
  | emptyRepeatRange => "min repeat greater than max repeat"
  | unterminatedSet => "unterminated character set"
  | badRange first last => s!"bad character range {first}-{last}"
  | incompleteEscape escape => "incomplete escape " ++ escape
  | badEscape escape => "bad escape " ++ escape
  | missingBrace => "missing \x7b"
  | missing what => "missing " ++ what
  | unterminatedName terminator => s!"missing {terminator}, unterminated name"
  | unknownCharacterName name => "undefined character name " ++ Text.quoted name
  | octalTooLarge escape => s!"octal escape value {escape} outside of range 0-0o377"
  | openGroup => "cannot refer to an open group"
  | groupOfLookbehind => "cannot refer to group defined in the same lookbehind subpattern"
  | invalidGroupReference group => s!"invalid group reference {group}"
  | unexpectedEnd => "unexpected end of pattern"
  | unknownExtension extension => "unknown extension ?" ++ extension
  | badGroupName name => "bad character in group name " ++ Text.quoted name
  | unknownGroupName name => "unknown group name " ++ Text.quoted name
  | groupRedefinition name group earlier =>
      s!"redefinition of group name {Text.quoted name} as group {group}; was group {earlier}"
  | badGroupNumber => "bad group number"
  | unterminatedComment => "missing ), unterminated comment"
  | unterminatedGroup => "missing ), unterminated subpattern"
  | thirdBranch => "conditional backref with more than two branches"
  | lateGlobalFlags => "global flags not at the start of the expression"
  | localeFlag => "bad inline flags: cannot use 'L' flag with a str pattern"
  | incompatibleFlags => "bad inline flags: flags 'a', 'u' and 'L' are incompatible"
  | unfinishedFlags => "missing -, : or )"
  | unknownFlag => "unknown flag"
  | missingFlag => "missing flag"
  | missingColon => "missing :"
  | globalFlagOn => "bad inline flags: cannot turn on global flag"
  | globalFlagOff => "bad inline flags: cannot turn off global flag"
  | classFlagOff => "bad inline flags: cannot turn off flags 'a', 'u' and 'L'"
  | flagOnAndOff => "bad inline flags: flag turned on and off"
  | unbalancedParenthesis => "unbalanced parenthesis"
  | variableLookbehind => "look-behind requires fixed-width pattern"
  | distantLookbehind => "looks too much behind"
  | templateRepeat operator => "internal: unsupported template operator " ++ operator

/-- A problem, at a position of the pattern unless it concerns the pattern as a whole. -/
structure Error where
  problem : Problem
  position : Option Nat := none
  deriving DecidableEq, Repr

/-- The message of an error in a pattern. Line and column, both counted from one, are told for
patterns of several lines. -/
def Error.message (pattern : String) (error : Error) : String :=
  match error.position with
  | none => error.problem.message
  | some position =>
      let chars := pattern.toList
      let before := chars.take position
      let place := s!"{error.problem.message} at position {position}"
      if chars.contains '\n' then
        let line := before.count '\n' + 1
        let column := (before.reverse.takeWhile (· ≠ '\n')).length + 1
        s!"{place} (line {line}, column {column})"
      else place

/-- Why no matcher can be built or used. Besides an error of the pattern, a repeat count or the
number of a character can be out of range, a number can have too many digits, flags at the front
can contradict each other, and a look-behind of the early edition can reach too far. A match fails
if one of its groups ends before it begins. -/
inductive Failure where
  | rejected (error : Error)
  | repeatTooLarge
  | characterTooLarge
  | tooManyDigits (count : Nat)
  | conflictingFlags
  | lookbehindTooFar
  | reversedGroup
  | tooDeep
  deriving DecidableEq, Repr

def Failure.message : Failure → String
  | rejected error => error.problem.message
  | repeatTooLarge => "the repetition number is too large"
  | characterTooLarge => "Python int too large to convert to C int"
  | tooManyDigits count => Decimal.digitLimitMessage count
  | conflictingFlags => "ASCII and UNICODE flags are incompatible"
  | lookbehindTooFar => "invalid SRE code"
  | reversedGroup =>
      "The span of capturing group is wrong, please report a bug for the re module."
  | tooDeep => "maximum recursion depth exceeded"

end Rulebook.Pattern
