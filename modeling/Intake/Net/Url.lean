import Intake.Net.Address
import Intake.Number.Reading
import Intake.Text.Quoted

/-!
# Web addresses

The scheme and the host of a web address. Controls and spaces before it and line breaks and tabs
inside it do not count.
-/

namespace Intake.Net

open Intake.Text

/-- Why a text has no parts of a web address. -/
inductive UrlMisread where
  | brackets
  | futureAddress
  | notAddress (host : List Char)
  | version4InBrackets
  | normalization (authority : List Char)
  deriving DecidableEq

namespace UrlMisread

/-- The message of a misread web address. -/
def message : UrlMisread → String
  | brackets => "Invalid IPv6 URL"
  | futureAddress => "IPvFuture address is invalid"
  | notAddress host =>
    String.ofList (quoted host) ++ " does not appear to be an IPv4 or IPv6 address"
  | version4InBrackets => "An IPv4 address cannot be in brackets"
  | normalization authority =>
    "netloc '" ++ String.ofList authority ++
      "' contains invalid characters under NFKC normalization"

end UrlMisread

/-- The parts of a web address that decide whether it is one. -/
structure Url where
  scheme : List Char
  host : List Char
  deriving DecidableEq

/-- A control of ASCII or the space. -/
def isControlOrSpace (c : Char) : Bool :=
  c.toNat ≤ 0x20

/-- A character of a scheme. -/
def isSchemeChar (c : Char) : Bool :=
  isLatinLetter c || isLatinDigit c || c == '+' || c == '-' || c == '.'

/-- The scheme, in lower case, and the text behind it. -/
def takeScheme (s : List Char) : List Char × List Char :=
  match cutAt ':' s with
  | (c :: scheme, some rest) =>
    if isLatinLetter c && scheme.all isSchemeChar then (Number.foldLatin (c :: scheme), rest)
    else ([], s)
  | _ => ([], s)

/-- The authority ends where the path, the query or the fragment begins. -/
def takeAuthority : List Char → List Char
  | '/' :: '/' :: rest => rest.takeWhile fun c => c != '/' && c != '?' && c != '#'
  | _ => []

/-- Characters with a slash, a question mark, a number sign, an at sign or a colon in their
    compatible form. -/
def hidesDelimiter (c : Char) : Bool :=
  [0x2047, 0x2048, 0x2049, 0x2100, 0x2101, 0x2105, 0x2106, 0x2A74, 0xFE13, 0xFE16, 0xFE55, 0xFE56,
   0xFE5F, 0xFE6B, 0xFF03, 0xFF0F, 0xFF1A, 0xFF1F, 0xFF20].contains c.toNat

/-- An address of a version to come: `v`, hexadecimal digits, a point and some text. -/
def isFutureAddress : List Char → Bool
  | 'v' :: rest =>
    match rest.takeWhile isHexDigit, rest.dropWhile isHexDigit with
    | _ :: _, '.' :: _ :: _ => true
    | _, _ => false
  | _ => false

/-- The host in brackets has to be an address of version 6 or of a version to come. -/
def checkBracketedHost (host : List Char) : Except UrlMisread Unit :=
  if host.head? == some 'v' then
    if isFutureAddress host then .ok () else .error .futureAddress
  else if isIpv4 host then .error .version4InBrackets
  else if isIpv6 host then .ok ()
  else .error (.notAddress host)

/-- The text between the first opening bracket and the closing bracket behind it. -/
def bracketedHost (authority : List Char) : List Char :=
  (cutAt ']' ((cutAt '[' authority).2.getD [])).1

/-- Brackets come in pairs around an address, and no character hides a delimiter. -/
def checkAuthority (authority : List Char) : Except UrlMisread Unit := do
  let opens := authority.contains '['
  let closes := authority.contains ']'
  if opens != closes then throw .brackets
  if opens then checkBracketedHost (bracketedHost authority)
  if authority.any hidesDelimiter then throw (.normalization authority)

/-- The text behind the last occurrence of a character, the whole text when there is none. -/
def behindLast (mark : Char) (s : List Char) : List Char :=
  (s.reverse.takeWhile (· != mark)).reverse

/-- The host of an authority, without the user before it and the number behind it. -/
def hostOf (authority : List Char) : List Char :=
  let place := behindLast '@' authority
  match cutAt '[' place with
  | (_, some bracketed) => (cutAt ']' bracketed).1
  | (_, none) => (cutAt ':' place).1

/-- The scheme and host of a web address. -/
def Url.read (s : List Char) : Except UrlMisread Url := do
  let plain := (s.dropWhile isControlOrSpace).filter fun c => c != '\t' && c != '\r' && c != '\n'
  let (scheme, rest) := takeScheme plain
  let authority := takeAuthority rest
  checkAuthority authority
  return ⟨scheme, hostOf authority⟩

end Intake.Net
