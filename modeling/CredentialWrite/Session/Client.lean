import CredentialWrite.Failure
import CredentialWrite.Json.Writer
import CredentialWrite.Payload.Copy
import CredentialWrite.Settings.Basic
import CredentialWrite.Text.Utf8

/-!
# Clients

A client keeps what the settings said when it was made: the base address, the authorization made
from the token, and the time limits; all else is the same for every client. A prepared request is a
`PUT` below that base, with the payload as its body and the count of the body's octets.
-/

namespace CredentialWrite

namespace Value

/-- The class of a value as it is named in a message. -/
def classText (v : Value) : String :=
  let package := match v with
    | .record _ (.name _) => "credhub.support.credential_name."
    | .record _ (.actor _) => "credhub.support.permissions."
    | .record _ (.permission _) => "credhub.support.permissions."
    | .record _ (.credential _) => "credhub.schemas."
    | .request _ _ => "credhub.support.write_request."
    | _ => ""
  match v with
  | .scalar (.member m) => "<enum '" ++ m.className ++ "'>"
  | .object _ c => "<class '" ++ c.qualifiedName ++ "'>"
  | v => "<class '" ++ package ++ v.className ++ "'>"

end Value

namespace HttpClient

def isAscii (c : Char) : Bool := c.toNat < 0x80

/-- The first stretch of characters that a header cannot hold. -/
def firstNotAscii? (cs : List Char) : Option NotAscii :=
  match cs.dropWhile isAscii with
  | [] => none
  | rest => some ⟨(cs.takeWhile isAscii).length, rest.takeWhile (!isAscii ·)⟩

/-- The authorization that a token gives; an empty one gives none. -/
def authorizationOf (s : Store) (token : Ref) : Option String :=
  if s.isTrue token then some ("Bearer " ++ (s.view token).shown) else none

/-- The limits for connecting, reading, writing and waiting for a connection: one for all, or a
tuple of the first two and maybe the others. -/
def timeoutsOf (s : Store) (timeout : Ref) : Except Failure (List Ref) :=
  match s.cellOf? timeout with
  | some (.sequence .tuple items) => match items with
    | connect :: read :: rest => .ok [connect, read, rest.getD 0 .none, rest.getD 1 .none]
    | _ => .error .tupleTooShort
  | _ => .ok [timeout, timeout, timeout, timeout]

def baseOf (s : Store) (url : Ref) : Except Failure Url :=
  match url with
  | .scalar (.text t) => match (Url.parse t.toList).bind Url.asBase with
    | .ok u => .ok u
    | .error e => .error (.url e)
  | r => let v := s.view r; .error (.urlClass v.classText v.printed)

/-- A client with the options that all clients have. -/
def new (base : Url) (authorization : Option String) (timeouts : List Ref) : HttpClient where
  base := base
  authorization := authorization
  timeouts := timeouts
  followsRedirects := false
  trustsEnvironment := false
  usesHttp2 := true
  limits := ⟨20, 10, 60⟩

/-- A client for the settings of this moment. -/
def create (s : Store) (settings : Settings Ref) : Except Failure HttpClient := do
  let base ← baseOf s settings.apiUrl
  let authorization := authorizationOf s settings.token
  match authorization.bind fun a => firstNotAscii? a.toList with
  | some e => throw (.notAscii e)
  | none =>
    let timeouts ← timeoutsOf s settings.timeout
    return .new base authorization timeouts

def contentType : String := "application/json"

def dataPath : List Char := "/api/v1/data".toList

/-- The URL below the base of a client that payloads are written to. -/
def dataUrl (c : HttpClient) : Except Failure Url :=
  match c.base.resource dataPath with
  | .error e => .error (.url e)
  | .ok url => match HostName.check url.host with
    | .error e => .error (.hostName e)
    | .ok () => match firstNotAscii? url.netloc with
      | some e => .error (.notAscii e)
      | none => .ok url

/-- The headers of a client, by name. -/
def headers (c : HttpClient) : List (String × String) :=
  (match c.authorization with
    | some a => [("authorization", a)]
    | none => []) ++ [("content-type", contentType)]

end HttpClient

namespace PreparedRequest

/-- The body of a payload. -/
def bodyOf (payload : WireJson) : String := payload.render (·.toText .plain)

/-- The headers of a request, by name. -/
def headersFor (c : HttpClient) (url : Url) (body : String) : List (String × String) :=
  (match c.authorization with
    | some a => [("authorization", a)]
    | none => []) ++
    [("content-length", toString (encodeOctets body)), ("content-type", HttpClient.contentType)] ++
    if url.host.isEmpty then [] else [("host", String.ofList url.netloc)]
where
  encodeOctets (body : String) : Nat := (Text.encodeUtf8 body).length

/-- The request that writes a payload through a client. -/
def ofPayload (c : HttpClient) (payload : WireJson) : Except Failure PreparedRequest := do
  let url ← c.dataUrl
  let body := bodyOf payload
  return ⟨"PUT", url, headersFor c url body, body⟩

end PreparedRequest

end CredentialWrite
