import Rulebook.Decimal.Reading
import Rulebook.Text.Blank
import Rulebook.Text.Hex
import Rulebook.Text.Quoted

/-!
Addresses of documents on the network, as they are asked for: a scheme, and mostly a host between
two slashes and the path. Only what is asked for is of interest here, and what cannot be.
-/

namespace Rulebook.Address

/-- Why an address cannot be asked for. -/
inductive Problem where
  | noScheme (address : String)
  | misplacedBracket
  | futureHost
  | numericHost
  | unknownHost (host : String)
  | unsafeHost (authority : String)
  deriving DecidableEq, Repr

def Problem.message : Problem → String
  | noScheme address => "unknown url type: " ++ Text.quoted address
  | misplacedBracket => "Invalid IPv6 URL"
  | futureHost => "IPvFuture address is invalid"
  | numericHost => "An IPv4 address cannot be in brackets"
  | unknownHost host => Text.quoted host ++ " does not appear to be an IPv4 or IPv6 address"
  | unsafeHost authority =>
      "netloc '" ++ authority ++ "' contains invalid characters under NFKC normalization"

/-- An address without slashes at its end, to which a path can be added. -/
def withoutEndSlashes (address : String) : String :=
  String.ofList (Text.trimEnd (· == '/') address.toList)

/-! ## Hosts -/

/-- A number below 256 without zeros before it. -/
def isOctet (text : List Char) : Bool :=
  !text.isEmpty && text.length ≤ 3 && text.all Decimal.isDigit &&
  (text.length == 1 || text.head? != some '0') && Decimal.valueOf text ≤ 255

/-- Four numbers below 256. -/
def isFourPart (text : List Char) : Bool :=
  let parts := Text.splitAt '.' text
  parts.length == 4 && parts.all isOctet

def isHexGroup (text : List Char) : Bool :=
  !text.isEmpty && text.length ≤ 4 && text.all fun c => (Text.hexValue? c).isSome

/-- Eight groups of hexadecimal digits, the last two of which may be written as four numbers. Two
colons in one place stand for groups of zeros. -/
def isEightPart (text : List Char) : Bool :=
  let parts := Text.splitAt ':' text
  let last := parts.getLast?.getD []
  let parts :=
    if last.contains '.' then
      parts.dropLast ++ (if isFourPart last then [['0'], ['0']] else [['?']])
    else parts
  let inner := parts.drop 1 |>.dropLast
  if parts.length < 3 then false
  else match inner.count [] with
    | 0 => parts.length == 8 && parts.all isHexGroup
    | 1 =>
        let high := parts.take ((inner.takeWhile (· ≠ [])).length + 1)
        let low := parts.drop (high.length + 1)
        let high := if high = [[]] then [] else high
        let low := if low = [[]] then [] else low
        high.length + low.length ≤ 7 && (high ++ low).all isHexGroup
    | _ => false

/-- The address of an interface may follow a percent sign. -/
def isEightPartInScope (text : List Char) : Bool :=
  let plain := text.takeWhile (· ≠ '%')
  let scope := (text.drop plain.length).drop 1
  isEightPart plain &&
    (plain.length == text.length || (!scope.isEmpty && !scope.contains '%'))

/-- A host of an authority with brackets is an address of eight parts, or one of a later form. -/
def checkHost (host : List Char) : Except Problem Unit :=
  match host with
  | 'v' :: rest =>
      let digits := rest.takeWhile fun c => (Text.hexValue? c).isSome
      match rest.drop digits.length with
      | '.' :: c :: behind =>
          if digits.isEmpty || (c :: behind).contains '\n' then .error .futureHost else .ok ()
      | _ => .error .futureHost
  | _ =>
      if isFourPart host then .error .numericHost
      else if isEightPartInScope host then .ok ()
      else .error (.unknownHost (String.ofList host))

/-- Characters that are equivalent to texts with a slash, a question mark, a number sign, an at
sign or a colon. -/
def isUnsafe (c : Char) : Bool :=
  [0x2047, 0x2048, 0x2049, 0x2100, 0x2101, 0x2105, 0x2106, 0x2A74, 0xFE13, 0xFE16, 0xFE55, 0xFE56,
   0xFE5F, 0xFE6B, 0xFF03, 0xFF0F, 0xFF1A, 0xFF1F, 0xFF20].contains c.toNat

def isSchemeChar (c : Char) : Bool :=
  c.isAlphanum || c == '+' || c == '-' || c == '.'

/-- What stands between the two slashes and the path. -/
def authority (address : List Char) : List Char :=
  let text := (address.dropWhile fun c => c.toNat ≤ 32).filter fun c =>
    c != '\t' && c != '\r' && c != '\n'
  let scheme := text.takeWhile (· ≠ ':')
  let hasScheme := scheme.length < text.length && scheme.head?.any Char.isAlpha &&
    scheme.all isSchemeChar
  match if hasScheme then text.drop (scheme.length + 1) else text with
  | '/' :: '/' :: rest => rest.takeWhile fun c => c ≠ '/' && c ≠ '?' && c ≠ '#'
  | _ => []

/-- The host of an authority with brackets. Brackets that hold it stand first behind the user, and
only a port follows them; brackets of the user hold none. -/
def bracketedHost (text : List Char) : Except Problem (List Char) :=
  let place := (text.reverse.takeWhile (· ≠ '@')).reverse
  let before := place.takeWhile (· ≠ '[')
  if before.length = place.length then .ok (place.takeWhile (· ≠ ':'))
  else
    let inside := place.drop (before.length + 1)
    let host := inside.takeWhile (· ≠ ']')
    let port := inside.drop (host.length + 1)
    if before.isEmpty && (port.isEmpty || port.head? == some ':') then .ok host
    else .error .misplacedBracket

def checkAuthority (text : List Char) : Except Problem Unit := do
  if text.contains '[' != text.contains ']' then throw .misplacedBracket
  if text.contains '[' then checkHost (← bracketedHost text)
  if text.any isUnsafe then throw (.unsafeHost (String.ofList text))

/-! ## What is asked for -/

/-- The address inside white space, angle brackets and the mark `URL:`. -/
def unwrap (text : List Char) : List Char :=
  let text := Text.trim Text.isBlank text
  let text := match text with
    | '<' :: rest =>
        if rest.getLast? = some '>' then Text.trim Text.isBlank rest.dropLast else text
    | _ => text
  match text with
  | 'U' :: 'R' :: 'L' :: ':' :: rest => Text.trim Text.isBlank rest
  | _ => text

/-- The parts before and behind the last number sign; the second one may be empty. -/
def splitFragment (text : List Char) : List Char × List Char :=
  let fragment := (text.reverse.takeWhile (· ≠ '#')).reverse
  if fragment.length = text.length then (text, [])
  else (text.take (text.length - fragment.length - 1), fragment)

/-- Some characters, none of which is a slash, stand before the first colon. -/
def hasScheme (text : List Char) : Bool :=
  let scheme := text.takeWhile fun c => c ≠ '/' && c ≠ ':'
  !scheme.isEmpty && (text.drop scheme.length).head? == some ':'

/-- The address that is asked for when a text is given. -/
def request? (text : String) : Except Problem String := do
  let (path, fragment) := splitFragment (unwrap text.toList)
  let address := if fragment.isEmpty then path else path ++ '#' :: fragment
  if !hasScheme path then throw (.noScheme (String.ofList address))
  checkAuthority (authority address)
  return String.ofList address

end Rulebook.Address
