import StoryMend.Http.Host
import StoryMend.Number.Read

/-!
Web addresses in their normal form: scheme and host in lower case, the port only
where it is not the usual one, a path without dot segments, and every character
that may not stand for itself written as the codes of its bytes.  Names of servers
are read by any reader of them.
-/

namespace StoryMend.Http

open Text

/-- A web address in its normal form. -/
structure Address where
  scheme : String
  host : String
  port : Option Nat
  path : String
  query : Option String
  fragment : Option String
deriving Repr, DecidableEq, Inhabited

namespace Address

/-- A digit of a percent code. -/
def hexDigit (n : Nat) : Char := if n < 10 then Char.ofNat (48 + n) else Char.ofNat (55 + n)

/-- A byte as a percent code. -/
def percentCode (b : UInt8) : List Char :=
  ['%', hexDigit (b.toNat / 16), hexDigit (b.toNat % 16)]

/-- A text in which the characters that satisfy `p`, controls and all beyond the first 127
are percent codes. -/
def percentEncode (p : Char → Bool) (s : List Char) : List Char :=
  s.flatMap fun c =>
    if c.toNat < 32 || 126 < c.toNat || p c then
      c.toString.toUTF8.toList.flatMap percentCode
    else [c]

/-- Whether a character of a query may not stand for itself. -/
def escapedInQuery (c : Char) : Bool := " \"#<>'".toList.contains c

/-- Whether a character of a fragment may not stand for itself. -/
def escapedInFragment (c : Char) : Bool := " \"<>`".toList.contains c

/-- Whether a character of a path may not stand for itself. -/
def escapedInPath (c : Char) : Bool := " \"#<>?`\x7b\x7d^".toList.contains c

/-- Whether a character ends the part of an address that names the server. -/
def endsAuthority (c : Char) : Bool := c == '/' || c == '\\' || c == '?' || c == '#'

/-- The port of an address, `none` if it is left out or the usual one of the scheme; a
port that is no number below `UInt16.size` is refused. -/
def port? (scheme : String) (s : List Char) : Option (Option Nat) :=
  if s.isEmpty then some none
  else if !s.all Char.isDigit then none
  else
    (Number.natural? UInt16.size (String.ofList s)).map fun n =>
      if n = (if scheme = "https" then 443 else 80) then none else some n

/-- Whether a segment of a path stands for the segment itself. -/
def isDot (segment : List Char) : Bool :=
  segment == ['.'] || segment.map Char.toLower == "%2e".toList

/-- Whether a segment of a path stands for the one before it. -/
def isDoubleDot (segment : List Char) : Bool :=
  [['.', '.'], ".%2e".toList, "%2e.".toList, "%2e%2e".toList].contains (segment.map Char.toLower)

/-- The segments of a path after those that are kept, the last one first, without dot
segments. -/
def resolveDots (kept : List (List Char)) : List (List Char) → List (List Char)
  | [] => kept.reverse
  | [segment] =>
    if isDoubleDot segment then ([] :: kept.drop 1).reverse
    else if isDot segment then ([] :: kept).reverse
    else (segment :: kept).reverse
  | segment :: rest =>
    if isDoubleDot segment then resolveDots (kept.drop 1) rest
    else if isDot segment then resolveDots kept rest
    else resolveDots (segment :: kept) rest

/-- The normal form of a path. -/
def normalPath (s : List Char) : List Char :=
  let segments := splitWhere (fun c => c == '/' || c == '\\') (s.drop 1)
  (resolveDots [] segments).flatMap fun segment => '/' :: percentEncode escapedInPath segment

/-- What stands in a text before the first character that satisfies `p`, and the text from
that character on. -/
def cut (p : Char → Bool) (s : List Char) : List Char × List Char :=
  (s.takeWhile (!p ·), s.dropWhile (!p ·))

/-- What follows the first character of a text, if there is one. -/
def afterFirst? : List Char → Option (List Char)
  | [] => none
  | _ :: rest => some rest

/-- The name of a server before its port, and the text from the colon of the port on; a
colon within brackets is part of the name. -/
def cutHost (inBrackets : Bool) : List Char → List Char × List Char
  | [] => ([], [])
  | c :: rest =>
    if c == ':' && !inBrackets then ([], c :: rest)
    else
      let (host, port) := cutHost (c == '[' || (inBrackets && c != ']')) rest
      (c :: host, port)

/-- Reads what follows the scheme of an address. -/
def readFrom? (hosts : HostReader) (scheme : String) (s : List Char) : Option Address :=
  let s := s.dropWhile fun c => c == '/' || c == '\\'
  let (authority, s) := cut endsAuthority s
  let server := (authority.reverse.takeWhile (· != '@')).reverse
  let (host, port) := cutHost false server
  let (path, s) := cut (fun c => c == '?' || c == '#') s
  let (query, s) := cut (· == '#') s
  if host.isEmpty then none
  else
    match hosts host, port? scheme (port.drop 1) with
    | some host, some port =>
      some
        { scheme
          host := String.ofList host
          port
          path := String.ofList (normalPath path)
          query := (afterFirst? query).map fun q => String.ofList (percentEncode escapedInQuery q)
          fragment := (afterFirst? s).map fun f =>
            String.ofList (percentEncode escapedInFragment f) }
    | _, _ => none

/-- Reads a web address; tabs and line breaks within it do not count. -/
def read? (text : String) (hosts : HostReader := readHost?) : Option Address :=
  let s := (text.toList.dropWhile (·.toNat ≤ 32)).filter fun c =>
    !(c == '\t' || c == '\n' || c == '\r')
  let s := dropWhileEnd (·.toNat ≤ 32) s
  let (scheme, rest) := cut (· == ':') s
  match String.ofList (scheme.map Char.toLower), rest with
  | "http", _ :: rest => readFrom? hosts "http" rest
  | "https", _ :: rest => readFrom? hosts "https" rest
  | _, _ => none

/-- The text of an address. -/
def text (a : Address) : String :=
  a.scheme ++ "://" ++ a.host ++ ((a.port.map fun n => s!":{n}").getD "") ++ a.path ++
    ((a.query.map fun q => "?" ++ q).getD "") ++ ((a.fragment.map fun f => "#" ++ f).getD "")

end Address

end StoryMend.Http
