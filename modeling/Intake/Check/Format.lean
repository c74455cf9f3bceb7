import Intake.Calendar.Reading
import Intake.Check.Verdict
import Intake.Net.Url
import Intake.Pattern.Matching
import Intake.Rule.Reading

/-!
# Checks of format

Checks of texts that denote something: identifiers, dates and times, addresses, names, and texts
that match a pattern.
-/

namespace Intake.Check

open Intake.Rule Intake.Text

/-- The bytes of a text in UTF-8. -/
def utf8 (s : String) : List UInt8 :=
  s.toUTF8.toList

/-- The check of identifiers. -/
def uuid (v : Value) : Verdict :=
  match v with
  | .uuid _ => .valid
  | .text s =>
    if (Uuid.read? s.toList).isSome then .valid
    else .expecting ("Invalid UUID format: " ++ s) "UUID" v
  | _ => .ofType "UUID string" v

/-- A text with a letter `Z` for the offset zero, as moments and times are read. -/
def withoutZulu (s : String) : List UInt8 :=
  utf8 (String.ofList (exchange ['Z'] "+00:00".toList s.toList))

/-- The check of a text that denotes a value of the calendar. -/
def iso (kind : String) (reads : String → Bool) (v : Value) : Verdict :=
  match v with
  | .text s =>
    if reads s then .valid
    else .expecting ("Invalid ISO8601 " ++ kind ++ ": " ++ s) ("ISO8601 " ++ kind) v
  | _ => .ofType ("ISO8601 " ++ kind) v

/-- The check of moments. -/
def moment (v : Value) : Verdict :=
  match v with
  | .moment _ => .valid
  | _ => iso "datetime" (fun s => (Calendar.readMoment? (withoutZulu s)).isSome) v

/-- The check of dates. A moment is no date. -/
def date (v : Value) : Verdict :=
  match v with
  | .date _ => .valid
  | _ => iso "date" (fun s => (Calendar.readDate? (utf8 s)).isSome) v

/-- The check of times. -/
def time (v : Value) : Verdict :=
  match v with
  | .time _ => .valid
  | _ => iso "time" (fun s => (Calendar.readTime? (withoutZulu s)).isSome) v

/-- The check of web addresses: a scheme of the web, and a host with a point. -/
def url (v : Value) : Except Fault Verdict :=
  match v with
  | .text s =>
    match Net.Url.read s.toList with
    | .error e => .error (.url e)
    | .ok u =>
      let scheme := String.ofList u.scheme
      if scheme != "http" && scheme != "https" then
        .ok (.expecting "URL must use http or https scheme" "http or https" v)
      else if !u.host.contains '.' then
        .ok (.expecting "URL must include a domain with a TLD" "domain.tld" v)
      else .ok .valid
  | _ => .ok (.ofType "string" v)

/-- A character of the part of a mail address before the at sign. -/
def isMailboxChar (c : Char) : Bool :=
  isLatinLetter c || isLatinDigit c || c == '.' || c == '_' || c == '%' || c == '+' || c == '-'

/-- A character of the domain of a mail address. -/
def isDomainChar (c : Char) : Bool :=
  isLatinLetter c || isLatinDigit c || c == '.' || c == '-'

/-- The text behind the last point is at least two letters, and some text precedes the point. -/
def endsInLetters (domain : List Char) : Bool :=
  let last := (domain.reverse.takeWhile (· != '.')).reverse
  2 ≤ last.length && last.all isLatinLetter && last.length + 1 < domain.length

/-- The text is a mail address: a mailbox, an at sign and a domain. -/
def isEmail (s : List Char) : Bool :=
  match cutAt '@' s with
  | (mailbox, some domain) =>
    !mailbox.isEmpty && mailbox.all isMailboxChar && domain.all isDomainChar &&
      endsInLetters domain
  | (_, none) => false

/-- The check of mail addresses. A line break may end the text. -/
def email (v : Value) : Verdict :=
  match v with
  | .text s =>
    if isEmail (dropFinalBreak s.toList) then .valid
    else .expecting ("Invalid email format: " ++ s) "valid email address" v
  | _ => .ofType "string" v

/-- The check of internet addresses of version 4. -/
def ipv4 (v : Value) : Verdict :=
  match v with
  | .text s =>
    if Net.isIpv4 s.toList then .valid
    else .expecting ("Invalid IPv4 address: " ++ s) "IPv4 address" v
  | _ => .ofType "string" v

/-- The first characters of a text, for messages. -/
def excerpt (s : String) : String :=
  let cs := s.toList
  if cs.length ≤ 50 then s else String.ofList (cs.take 50) ++ "..."

/-- The check against a pattern, which has to match where the text begins. -/
def regex (pattern : Argument) (v : Value) : Except Fault Verdict :=
  match pattern, v with
  | .literal (.text p), .text s =>
    match Pattern.Regex.read p.toList with
    | .ok r =>
      if r.matchesStart s.toList then .ok .valid
      else
        .ok (.expecting ("Value does not match pattern: " ++ p) ("match pattern '" ++ p ++ "'")
          (.text (excerpt s)))
    | .error (.malformed cause position) =>
      .ok (.because ("Invalid pattern " ++ quotedString p ++ ": " ++
        Pattern.malformedMessage cause position p.toList))
    | .error e => .error (.pattern e)
  | .literal (.text _), _ => .ok (.ofType "string" v)
  | _, _ => .ok (.because "regex requires a pattern")

/-- A character of a user name behind the first. -/
def isUsernameChar (c : Char) : Bool :=
  isLatinLetter c || isLatinDigit c || c == '_' || c == '.' || c == '-'

/-- The text is a user name: a letter, then two to forty-nine characters. -/
def isUsername : List Char → Bool
  | [] => false
  | c :: rest =>
    isLatinLetter c && rest.all isUsernameChar && 2 ≤ rest.length && rest.length ≤ 49

/-- The check of user names. A line break may end the text. -/
def username (v : Value) : Verdict :=
  match v with
  | .text s =>
    if isUsername (dropFinalBreak s.toList) then .valid
    else
      .ofValue
        "Username must start with a letter and contain 3-50 letters, digits, '_', '.' or '-'" v
  | _ => .ofType "string" v

/-- The pieces of a text between spaces, apostrophes and hyphens. -/
def nameParts (s : List Char) : List (List Char) :=
  splitAt ' ' (s.map fun c => if c == '\'' || c == '-' then ' ' else c)

/-- The text is the name of a person: letters, with single marks between them. -/
def isFullName (s : List Char) : Bool :=
  3 ≤ s.length && s.length ≤ 80 && (nameParts s).all fun p => !p.isEmpty && p.all isNameLetter

/-- The check of names of persons. -/
def fullName (v : Value) : Verdict :=
  match v with
  | .text s =>
    if isFullName (trim s.toList) then .valid
    else
      .ofValue
        "Full name must contain 3-80 letters separated by spaces, hyphens or apostrophes" v
  | _ => .ofType "string" v

/-- The check of texts that denote a truth value. -/
def stringBoolean (v : Value) : Verdict :=
  let passes :=
    match v with
    | .text s =>
      let word := lowerString (String.ofList (trim s.toList))
      word == "true" || word == "false"
    | _ => false
  if passes then .valid
  else .expecting "Value must be the string 'true' or 'false'" "'true' or 'false'" v

/-- The check of texts that denote an integer. -/
def stringInteger (v : Value) : Verdict :=
  let passes :=
    match v with
    | .text s => isInteger (trim s.toList)
    | _ => false
  if passes then .valid else .expecting "Value must be an integer string" "integer string" v

/-- The check of texts that denote a number. -/
def stringFloat (v : Value) : Verdict :=
  let passes :=
    match v with
    | .text s => (Number.readBinary64? s.toList).isSome
    | _ => false
  if passes then .valid else .expecting "Value must be a numeric string" "numeric string" v

end Intake.Check
