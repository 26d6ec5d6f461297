import Rulebook.Value
import Rulebook.Yaml.Cursor

/-!
Why a text is no document: each fault of its grammar and of its tags, and how it is told.
-/

namespace Rulebook.Yaml

/-- The part of a document at work when a fault shows. -/
inductive Activity where
  | nextToken
  | simpleKey
  | directive
  | directiveAddress
  | reference
  | anchor
  | tag
  | tagAddress
  | blockScalar
  | quotedScalar
  | doubleQuotedScalar
  | node
  | blockNode
  | flowNode
  | blockCollection
  | blockMapping
  | flowSequence
  | flowMapping
  | singleDocument
  | firstAnchor (name : String)
  | mappingValue
  | orderedMapValue
  | pairsValue
  deriving DecidableEq, Repr

def Activity.message : Activity → String
  | nextToken => "while scanning for the next token"
  | simpleKey => "while scanning a simple key"
  | directive => "while scanning a directive"
  | directiveAddress => "while parsing a directive"
  | reference => "while scanning an alias"
  | anchor => "while scanning an anchor"
  | tag => "while scanning a tag"
  | tagAddress => "while parsing a tag"
  | blockScalar => "while scanning a block scalar"
  | quotedScalar => "while scanning a quoted scalar"
  | doubleQuotedScalar => "while scanning a double-quoted scalar"
  | node => "while parsing a node"
  | blockNode => "while parsing a block node"
  | flowNode => "while parsing a flow node"
  | blockCollection => "while parsing a block collection"
  | blockMapping => "while parsing a block mapping"
  | flowSequence => "while parsing a flow sequence"
  | flowMapping => "while parsing a flow mapping"
  | singleDocument => "expected a single document in the stream"
  | firstAnchor name => s!"found duplicate anchor {Text.quoted name}; first occurrence"
  | mappingValue => "while constructing a mapping"
  | orderedMapValue => "while constructing an ordered map"
  | pairsValue => "while constructing pairs"

/-- The shape of a node: what its content is before its tag gives it a meaning. -/
inductive Shape where
  | scalar
  | sequence
  | mapping
  deriving DecidableEq, Repr

def Shape.name : Shape → String
  | scalar => "scalar"
  | sequence => "sequence"
  | mapping => "mapping"

inductive Problem where
  | noToken (found : Char)
  | colonMissing
  | entryNotAllowed
  | keyNotAllowed
  | valueNotAllowed
  | notNameChar (found : Char)
  | notDigit (found : Char)
  | notDigitOrPoint (found : Char)
  | notDigitOrSpace (found : Char)
  | notSpace (found : Char)
  | notCommentOrBreak (found : Char)
  | notExclamation (found : Char)
  | notAddress (found : Char)
  | notAddressEnd (found : Char)
  | notAddressEscape (found : Char)
  | undecodableAddress (detail : String)
  | zeroIndentation
  | notBlockIndicator (found : Char)
  | notHexDigits (count : Nat) (found : Char)
  | unknownEscape (found : Char)
  | endInQuotes
  | separatorInQuotes
  | repeatedVersion
  | incompatibleVersion
  | repeatedHandle (handle : String)
  | noDocumentStart (found : String)
  | undefinedHandle (handle : String)
  | noContent (found : String)
  | noBlockEnd (found : String)
  | noSequenceEnd (found : String)
  | noMappingEnd (found : String)
  | anotherDocument
  | undefinedAlias (name : String)
  | secondAnchor
  | wrongShape (expected found : Shape)
  | unhashableKey
  | noMappingToMerge (found : Shape)
  | nothingToMerge (found : Shape)
  | noSequence (found : Shape)
  | noSingleEntry (found : Shape)
  | severalEntries (count : Nat)
  | unknownTag (tag : String)
  | notAsciiBinary (detail : String)
  | undecodableBinary (detail : String)
  deriving DecidableEq, Repr

def foundChar (expected : String) (found : Char) : String :=
  "expected " ++ expected ++ ", but found " ++ Text.quoted (String.singleton found)

def foundToken (expected : String) (found : String) : String :=
  "expected " ++ expected ++ ", but found " ++ Text.quoted found

def foundShape (expected : String) (found : Shape) : String :=
  "expected " ++ expected ++ ", but found " ++ found.name

def Problem.message : Problem → String
  | noToken found =>
      s!"found character {Text.quoted (String.singleton found)} that cannot start any token"
  | colonMissing => "could not find expected ':'"
  | entryNotAllowed => "sequence entries are not allowed here"
  | keyNotAllowed => "mapping keys are not allowed here"
  | valueNotAllowed => "mapping values are not allowed here"
  | notNameChar found => foundChar "alphabetic or numeric character" found
  | notDigit found => foundChar "a digit" found
  | notDigitOrPoint found => foundChar "a digit or '.'" found
  | notDigitOrSpace found => foundChar "a digit or ' '" found
  | notSpace found => foundChar "' '" found
  | notCommentOrBreak found => foundChar "a comment or a line break" found
  | notExclamation found => foundChar "'!'" found
  | notAddress found => foundChar "URI" found
  | notAddressEnd found => foundChar "'>'" found
  | notAddressEscape found =>
      foundChar "URI escape sequence of 2 hexadecimal numbers" found
  | undecodableAddress detail => detail
  | zeroIndentation => "expected indentation indicator in the range 1-9, but found 0"
  | notBlockIndicator found => foundChar "chomping or indentation indicators" found
  | notHexDigits count found =>
      foundChar s!"escape sequence of {count} hexadecimal numbers" found
  | unknownEscape found =>
      s!"found unknown escape character {Text.quoted (String.singleton found)}"
  | endInQuotes => "found unexpected end of stream"
  | separatorInQuotes => "found unexpected document separator"
  | repeatedVersion => "found duplicate YAML directive"
  | incompatibleVersion => "found incompatible YAML document (version 1.* is required)"
  | repeatedHandle handle => s!"duplicate tag handle {Text.quoted handle}"
  | noDocumentStart found => foundToken "'<document start>'" found
  | undefinedHandle handle => s!"found undefined tag handle {Text.quoted handle}"
  | noContent found => foundToken "the node content" found
  | noBlockEnd found => foundToken "<block end>" found
  | noSequenceEnd found => s!"expected ',' or ']', but got {Text.quoted found}"
  | noMappingEnd found => "expected ',' or '\x7d', but got " ++ Text.quoted found
  | anotherDocument => "but found another document"
  | undefinedAlias name => s!"found undefined alias {Text.quoted name}"
  | secondAnchor => "second occurrence"
  | wrongShape expected found => foundShape s!"a {expected.name} node" found
  | unhashableKey => "found unhashable key"
  | noMappingToMerge found => foundShape "a mapping for merging" found
  | nothingToMerge found => foundShape "a mapping or list of mappings for merging" found
  | noSequence found => foundShape "a sequence" found
  | noSingleEntry found => foundShape "a mapping of length 1" found
  | severalEntries count => s!"expected a single mapping item, but found {count} items"
  | unknownTag tag => s!"could not determine a constructor for the tag {Text.quoted tag}"
  | notAsciiBinary detail => "failed to convert base64 data into ascii: " ++ detail
  | undecodableBinary detail => "failed to decode base64 data: " ++ detail

/-- Why a text is no document. -/
inductive Error where
  /-- A character that no document holds, at a position. -/
  | unacceptable (found : Char) (position : Nat)
  /-- A problem at a position, with what was at work and where that began. -/
  | located (activity : Option (Activity × Option Mark)) (problem : Problem) (mark : Mark)
  deriving DecidableEq, Repr

def hexNumber (width value : Nat) : String :=
  let digits := Text.hexDigits 6 value
  let zeros := digits.takeWhile (· == '0')
  String.ofList (digits.drop (min zeros.length (6 - width)))

/-- The message of an error in the text it arose from. A beginning is not shown where it is the
place of the problem itself. -/
def Error.message (text : String) : Error → String
  | unacceptable found position =>
      s!"unacceptable character #x{hexNumber 4 found.toNat}: special characters are not allowed\n" ++
      s!"  in \"<unicode string>\", position {position}"
  | located activity problem mark =>
      let place := [problem.message, mark.message text]
      let lines := match activity with
        | none => place
        | some (activity, none) => activity.message :: place
        | some (activity, some start) =>
            if start.line = mark.line ∧ start.column = mark.column then
              activity.message :: place
            else activity.message :: start.message text :: place
      "\n".intercalate lines

/-- A scalar whose text is not what its tag or its escapes promise. -/
inductive ScalarError where
  | codePointTooLarge
  | codePointOverflow
  | notInteger (base : Nat) (text : String)
  | tooManyDigits (count : Nat)
  | notFloat (text : String)
  | emptyNumber
  | notBool (text : String)
  | notMoment
  | momentOfMapping
  | yearOutOfRange (year : Nat)
  | monthOutOfRange
  | dayOutOfRange
  | hourOutOfRange
  | minuteOutOfRange
  | secondOutOfRange
  | offsetOutOfRange (seconds : Int)
  | numberTooLarge
  deriving DecidableEq, Repr

def ScalarError.message : ScalarError → String
  | codePointTooLarge => "chr() arg not in range(0x110000)"
  | codePointOverflow => "Python int too large to convert to C int"
  | notInteger base text => Decimal.malformedMessage base text
  | tooManyDigits count => Decimal.digitLimitMessage count
  | notFloat text => "could not convert string to float: " ++ Text.quoted text
  | emptyNumber => "string index out of range"
  | notBool text => Text.quoted text
  | notMoment => "'NoneType' object has no attribute 'groupdict'"
  | momentOfMapping => "expected string or bytes-like object, got 'list'"
  | yearOutOfRange year => s!"year {year} is out of range"
  | monthOutOfRange => "month must be in 1..12"
  | dayOutOfRange => "day is out of range for month"
  | hourOutOfRange => "hour must be in 0..23"
  | minuteOutOfRange => "minute must be in 0..59"
  | secondOutOfRange => "second must be in 0..59"
  | offsetOutOfRange seconds =>
      "offset must be a timedelta strictly between -timedelta(hours=24) and " ++
      s!"timedelta(hours=24), not {Value.distanceLiteral seconds}."
  | numberTooLarge => "int too large to convert to float"

/-- Collections that are nested deeper than this are refused. -/
def depthLimit : Nat := 491

def depthMessage : String := "maximum recursion depth exceeded"

/-- Why reading a document ends without a value. -/
inductive Failure where
  | malformed (error : Error)
  | badScalar (error : ScalarError)
  | tooDeep
  deriving DecidableEq, Repr

end Rulebook.Yaml
