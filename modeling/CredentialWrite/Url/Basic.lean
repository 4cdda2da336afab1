import CredentialWrite.Text.Digits

/-!
# Addresses of services

A URL in its parts, each in the form in which it is sent. An empty scheme, user or host is none; a
query may be there and empty. `text` puts the parts together and `netloc` is what names the server.
-/

namespace CredentialWrite

structure Url where
  scheme : List Char
  user : List Char
  host : List Char
  port : Option Int
  path : List Char
  query : Option (List Char)
  fragment : Option (List Char)
  deriving DecidableEq

/-- What keeps a text from being a URL. -/
inductive UrlFault where
  | tooLong
  | partTooLong (part : String)
  | controlCharacter (c : Char) (place : Nat)
  | invalidPort (text : String)
  | invalidIPv4 (text : String)
  | invalidIPv6 (text : String)
  | invalidHostName (text : String)
  | pathWithoutSlash
  | relativeDoubleSlash
  | relativeColon
  deriving DecidableEq

namespace Url

open Text

/-- The host, in brackets where it holds colons, and the port. -/
def netloc (u : Url) : List Char :=
  (if u.host.contains ':' then '[' :: u.host ++ [']'] else u.host) ++
    match u.port with
    | some port => ':' :: integerDigits port
    | none => []

def authority (u : Url) : List Char :=
  (if u.user.isEmpty then [] else u.user ++ ['@']) ++ u.netloc

def text (u : Url) : List Char :=
  (if u.scheme.isEmpty then [] else u.scheme ++ [':']) ++
    (if u.authority.isEmpty then [] else '/' :: '/' :: u.authority) ++ u.path ++
    (match u.query with
      | some query => '?' :: query
      | none => []) ++
    match u.fragment with
    | some fragment => '#' :: fragment
    | none => []

/-- The path, at least a slash, with the query. -/
def target (u : Url) : List Char :=
  (if u.path.isEmpty then ['/'] else u.path) ++
    match u.query with
    | some query => '?' :: query
    | none => []

end Url

end CredentialWrite
