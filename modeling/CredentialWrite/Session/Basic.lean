import CredentialWrite.Name.Given
import CredentialWrite.Payload.Reading
import CredentialWrite.Permission.Builder
import CredentialWrite.Request.Builder
import CredentialWrite.Session.Client
import CredentialWrite.Session.Logging
import CredentialWrite.Settings.Load

/-!
# Sessions

Everything that one operation can leave to the next: the store, the settings, the levels of the
logs and the records that were let through. Building a request and preparing one are the two
operations that log, each once when it succeeds so far and its log is enabled; a record tells the
name, the kind, the overwrite flag and the count of permissions, and nothing of the value.
-/

namespace CredentialWrite

structure Session where
  store : Store
  settings : Settings Ref
  logging : Logging
  journal : List LogRecord

namespace Session

def initial : Session := ⟨.empty, Settings.default.map .scalar, .initial, []⟩

/-- What a record tells of a request. -/
def requestSummary {π α : Type} (r : WriteRequest (Held CredentialName) π α) : String :=
  "name=" ++ r.name.content.path ++ " type=" ++ r.kind.wire ++ " overwrite=" ++
    (Scalar.bool r.overwrite).printed ++ " permissions=" ++ toString r.permissions.length

/-- Gives a message to a log; all messages are of one level. -/
def log (σ : Session) (logger : Logger) (message : String) : Session :=
  if σ.logging.isEnabled logger then
    { σ with journal := σ.journal ++ [⟨logger, Logging.debugLevel, message⟩] }
  else σ

/-- Runs a call on the builder at an address. Setters give the builder back. -/
def callRequestBuilder (σ : Session) (a : Address) (b : RequestBuilder)
    (call : RequestBuilder.Call) : Except Failure Ref × Session :=
  let outcome := b.perform σ.store call
  let σ := { σ with store := outcome.store.update a (.requestBuilder outcome.builder) }
  match outcome.result with
  | .error e => (.error e, σ)
  | .ok none => (.ok (.address a), σ)
  | .ok (some built) =>
    (.ok built.ref, σ.log .building ("built write request: " ++ requestSummary built.content))

def callPermissionBuilder (σ : Session) (a : Address) (b : PermissionBuilder)
    (call : PermissionBuilder.Call) : Except Failure Ref × Session :=
  let outcome := b.perform σ.store call
  let σ := { σ with store := outcome.store.update a (.permissionBuilder outcome.builder) }
  match outcome.result with
  | .error e => (.error e, σ)
  | .ok none => (.ok (.address a), σ)
  | .ok (some built) => (.ok built.ref, σ)

def assign (σ : Session) (field : SettingsField) (r : Ref) : Session :=
  { σ with settings := σ.settings.set field r }

def configureLogging (σ : Session) : Except Failure Unit × Session :=
  let (result, logging) := σ.logging.configure σ.store σ.settings
  (result, { σ with logging })

def createClient (σ : Session) : Except Failure Ref × Session :=
  match HttpClient.create σ.store σ.settings with
  | .error e => (.error e, σ)
  | .ok c => let (a, store) := σ.store.alloc (.httpClient c); (.ok (.address a), { σ with store })

/-- Prepares the request that writes what `r` refers to, through the client `http`. -/
def buildWrite (σ : Session) (http r : Ref) : Except Failure Ref × Session :=
  match σ.store.cellOf? r with
  | some (.request request _) =>
    match σ.store.payloadOf request with
    | (.error fault, store) => (.error (.dump fault), { σ with store })
    | (.ok payload, store) =>
      let σ := { σ with store }.log .writing ("PUT /api/v1/data " ++ requestSummary request)
      match σ.store.cellOf? http with
      | some (.httpClient c) => match PreparedRequest.ofPayload c payload with
        | .error e => (.error e, σ)
        | .ok prepared =>
          let (a, store) := σ.store.alloc (.preparedRequest prepared)
          (.ok (.address a), { σ with store })
      | _ => (.error (.noAttribute (σ.store.className http) "build_request"), σ)
  | _ => (.error (.request (.notARequest (σ.store.className r))), σ)

end Session

end CredentialWrite
