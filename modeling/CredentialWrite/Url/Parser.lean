import CredentialWrite.Text.Integer
import CredentialWrite.Text.Quoted
import CredentialWrite.Text.Utf8
import CredentialWrite.Url.Basic
import CredentialWrite.Url.Host
import CredentialWrite.Url.HostName

/-!
# Reading URLs

A text is cut into scheme, authority, path, query and fragment, and the authority at its last `@`
into user and server. Scheme and host are put into lower case, the standard port of the scheme is
dropped, dot segments of an absolute path are resolved, and characters that may not stand in their
part are escaped octet by octet; escapes that are already there are kept.
-/

namespace CredentialWrite.Url

open Text

/-- No text and no part of one may be longer. -/
def lengthLimit : Nat := 65536

def isControl (c : Char) : Bool := c.toNat < 0x20 || c.toNat = 0x7F

def isLetter (c : Char) : Bool := ('a' ≤ c && c ≤ 'z') || ('A' ≤ c && c ≤ 'Z')

def isUnreserved (c : Char) : Bool :=
  isLetter c || isDigit c || ['-', '.', '_', '~'].contains c

/-- A visible seven-bit character outside a list. -/
def isVisibleBut (excluded : List Char) (c : Char) : Bool :=
  0x20 < c.toNat && c.toNat < 0x7F && !excluded.contains c

def fragmentSafe : Char → Bool := isVisibleBut ['"', '<', '>', '\x60']

def querySafe : Char → Bool := isVisibleBut ['"', '#', '<', '>']

def pathSafe : Char → Bool :=
  isVisibleBut ['"', '#', '<', '>', '?', '\x60', '\x7b', '\x7d']

def userSafe : Char → Bool :=
  isVisibleBut ['"', '#', '<', '>', '?', '\x60', '\x7b', '\x7d', '/', ';', '=', '@', '[', '\\',
    ']', '^', '|']

def hostSafe (c : Char) : Bool :=
  isUnreserved c || ['!', '$', '&', '\'', '(', ')', '*', '+', ',', ';', '=', '"', '\x60', '\x7b',
    '\x7d', '%', '|', '\\'].contains c

/-- Every octet of a character after a percent sign. -/
def percent (c : Char) : List Char :=
  (encodeUtf8 (String.singleton c)).flatMap fun octet =>
    '%' :: (hexDigits 2 octet.toNat).map Char.toUpper

/-- Escapes the characters that are not safe. -/
def escape (safe : Char → Bool) (cs : List Char) : List Char :=
  cs.flatMap fun c => if safe c || isUnreserved c then [c] else percent c

/-- What is left of the segments so far when one more is resolved. -/
def resolveSegment (done : List (List Char)) (segment : List Char) : List (List Char) :=
  if segment = ['.'] then done
  else if segment = ['.', '.'] then (if done = [[]] then done else done.dropLast)
  else done ++ [segment]

/-- Resolves the segments `.` and `..`. -/
def resolveSegments (path : List Char) : List Char :=
  let segments := split '/' path
  if segments.contains ['.'] || segments.contains ['.', '.'] then
    join '/' (segments.foldl resolveSegment [])
  else path

def standardPort? (scheme : List Char) : Option Int :=
  match String.ofList scheme with
  | "ftp" => some 21
  | "http" | "ws" => some 80
  | "https" | "wss" => some 443
  | _ => none

def readPort (scheme port : List Char) : Except UrlFault (Option Int) :=
  if port.isEmpty then .ok none
  else match readInteger? port with
    | none => .error (.invalidPort (String.ofList port))
    | some n => .ok (if standardPort? scheme = some n then none else some n)

def isBracketed (host : List Char) : Bool :=
  host.head? = some '[' && host.getLast? = some ']' && 2 ≤ host.length

def readHost (host : List Char) : Except UrlFault (List Char) :=
  if looksDotted host then
    if isIPv4 host then .ok host else .error (.invalidIPv4 (String.ofList host))
  else if isBracketed host then
    let inner := (host.drop 1).dropLast
    if isIPv6 inner then .ok inner else .error (.invalidIPv6 (String.ofList host))
  else if host.all Label.isAscii then
    .ok (escape hostSafe (host.map Char.toLower))
  else (HostName.toAscii host).mapError fun _ => .invalidHostName (String.ofList host)

/-- What stands before the last `@`, and the rest. -/
def cutUser (authority : List Char) : List Char × List Char :=
  match authority.reverse.dropWhile (· != '@') with
  | [] => ([], authority)
  | _ :: user => (user.reverse, (authority.reverse.takeWhile (· != '@')).reverse)

/-- The host, which reaches to the last bracket or to the first colon, and the text of the port. -/
def cutHost (server : List Char) : List Char × List Char :=
  let bracketed := (server.reverse.dropWhile (· != ']')).reverse
  let (host, rest) :=
    if server.head? = some '[' && !bracketed.isEmpty then (bracketed, server.drop bracketed.length)
    else (server.takeWhile fun c => c != ':' && c != '@',
      server.dropWhile fun c => c != ':' && c != '@')
  match rest with
  | ':' :: port => (host, port)
  | port => (host, port)

def checkPath (hasScheme hasAuthority : Bool) (path : List Char) : Except UrlFault Unit :=
  if hasAuthority && !path.isEmpty && path.head? != some '/' then .error .pathWithoutSlash
  else if !hasScheme && !hasAuthority && ['/', '/'].isPrefixOf path then
    .error .relativeDoubleSlash
  else if !hasScheme && !hasAuthority && path.head? = some ':' then .error .relativeColon
  else .ok ()

/-- A URL from the texts of its parts. -/
def ofParts (scheme authority path : List Char) (query fragment : Option (List Char)) :
    Except UrlFault Url := do
  let (user, server) := cutUser authority
  let (host, port) := cutHost server
  let user := escape userSafe user
  let host ← readHost host
  let port ← readPort scheme port
  let hasScheme := !scheme.isEmpty
  let hasAuthority := !user.isEmpty || !host.isEmpty || port.isSome
  checkPath hasScheme hasAuthority path
  let path := if hasScheme || hasAuthority then resolveSegments path else path
  return {
    scheme := scheme.map Char.toLower
    user, host, port
    path := escape pathSafe path
    query := query.map (escape querySafe)
    fragment := fragment.map (escape fragmentSafe) }

def isSchemeChar (c : Char) : Bool := isLetter c || isDigit c || ['+', '.', '-'].contains c

/-- The scheme, where a colon ends it, and the text after the colon. -/
def cutScheme (cs : List Char) : List Char × List Char :=
  let scheme := cs.takeWhile isSchemeChar
  match cs.dropWhile isSchemeChar with
  | ':' :: rest => if scheme.head?.all isLetter then (scheme, rest) else ([], cs)
  | _ => ([], cs)

def cutAuthority (cs : List Char) : List Char × List Char :=
  let ends (c : Char) : Bool := c = '/' || c = '?' || c = '#'
  match cs with
  | '/' :: '/' :: rest => (rest.takeWhile (!ends ·), rest.dropWhile (!ends ·))
  | cs => ([], cs)

/-- The URL that a text stands for. -/
def parse (cs : List Char) : Except UrlFault Url :=
  if lengthLimit < cs.length then .error .tooLong
  else match cs.find? isControl with
    | some c => .error (.controlCharacter c (cs.takeWhile (!isControl ·)).length)
    | none =>
      let (scheme, rest) := cutScheme cs
      let (authority, rest) := cutAuthority rest
      let (rest, fragment) := cut '#' rest
      let (path, query) := cut '?' rest
      ofParts scheme authority path query fragment

/-- The URL with another path and query, read again from its parts. -/
def withTarget (u : Url) (target : List Char) : Except UrlFault Url :=
  let (path, query) := cut '?' target
  if lengthLimit < u.authority.length then .error (.partTooLong "authority")
  else if lengthLimit < path.length then .error (.partTooLong "path")
  else if (query.any fun q => lengthLimit < q.length) then .error (.partTooLong "query")
  else if (u.fragment.any fun f => lengthLimit < f.length) then .error (.partTooLong "fragment")
  else ofParts u.scheme u.authority path query u.fragment

/-- The URL as a base for others: its target ends in a slash. -/
def asBase (u : Url) : Except UrlFault Url :=
  if u.target.getLast? = some '/' then .ok u else u.withTarget (u.target ++ ['/'])

/-- The URL of a resource below a base. -/
def resource (base : Url) (path : List Char) : Except UrlFault Url :=
  base.withTarget (base.target ++ path.dropWhile (· = '/'))

end CredentialWrite.Url

namespace CredentialWrite.UrlFault

open Text

def message : UrlFault → String
  | tooLong => "URL too long"
  | partTooLong part => "URL component '" ++ part ++ "' too long"
  | controlCharacter c place =>
    "Invalid non-printable ASCII character in URL, " ++ quoted (String.singleton c) ++
      " at position " ++ toString place ++ "."
  | invalidPort text => "Invalid port: " ++ quoted text
  | invalidIPv4 text => "Invalid IPv4 address: " ++ quoted text
  | invalidIPv6 text => "Invalid IPv6 address: " ++ quoted text
  | invalidHostName text => "Invalid IDNA hostname: " ++ quoted text
  | pathWithoutSlash => "For absolute URLs, path must be empty or begin with '/'"
  | relativeDoubleSlash => "Relative URLs cannot have a path starting with '//'"
  | relativeColon => "Relative URLs cannot have a path starting with ':'"

end CredentialWrite.UrlFault
