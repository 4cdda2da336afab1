import CredentialWrite.Session.Basic
import CredentialWrite.Session.Lookup

/-!
# Actions

What can be done in a session, one step after another: making objects, changing containers in
place, calling builders, copying payloads and preparing requests, setting up logs and clients. An
action that fails leaves what it had already read as read, and nothing else behind.
-/

namespace CredentialWrite

namespace RequestBuilder.Call

/-- The name of the operation that a call is of. -/
def operationName : Call → String
  | name _ => "name"
  | overwrite _ => "overwrite"
  | value _ => "value"
  | permission _ => "additional_permission"
  | permissions _ => "additional_permissions"
  | build => "build"

end RequestBuilder.Call

namespace PermissionBuilder.Call

def operationName : Call → String
  | app _ => "app"
  | user _ _ => "user"
  | client _ => "client"
  | operation _ => "operation"
  | operations _ => "operations"
  | build => "build"

end PermissionBuilder.Call

inductive Action where
  | create (c : Cell)
  | setItem (container key value : Ref)
  | append (container value : Ref)
  | callRequestBuilder (builder : Ref) (call : RequestBuilder.Call)
  | callPermissionBuilder (builder : Ref) (call : PermissionBuilder.Call)
  | toPayload (request : Ref)
  | buildWrite (http request : Ref)
  | createClient
  | assign (field : SettingsField) (r : Ref)
  | configureLogging

namespace Session

/-- The payload of a request as new containers. -/
def toPayload (σ : Session) (r : StoredRequest) : Except Failure Ref × Session :=
  match σ.store.payloadOf r with
  | (.error fault, store) => (.error (.dump fault), { σ with store })
  | (.ok payload, store) =>
    let (copy, store) := store.place (.ofWire payload)
    (.ok copy, { σ with store })

/-- The session after a change of its store that gives nothing back. -/
def change (σ : Session) (outcome : Except ItemFault Store) : Except Failure Ref × Session :=
  match outcome with
  | .ok store => (.ok .none, { σ with store })
  | .error e => (.error (.item e), σ)

def perform (σ : Session) : Action → Except Failure Ref × Session
  | .create c =>
    let (a, store) := σ.store.alloc c
    (.ok (.address a), { σ with store })
  | .setItem container key value => σ.change (σ.store.setItem container key value)
  | .append container value => σ.change (σ.store.append container value)
  | .callRequestBuilder r call => match r, σ.store.cellOf? r with
    | .address a, some (.requestBuilder b) => σ.callRequestBuilder a b call
    | _, _ => (.error (σ.store.callRefusal r call.operationName), σ)
  | .callPermissionBuilder r call => match r, σ.store.cellOf? r with
    | .address a, some (.permissionBuilder b) => σ.callPermissionBuilder a b call
    | _, _ => (.error (σ.store.callRefusal r call.operationName), σ)
  | .toPayload r => match σ.store.cellOf? r with
    | some (.request q _) => σ.toPayload q
    | _ => (.error (σ.store.callRefusal r "to_payload"), σ)
  | .buildWrite http r => σ.buildWrite http r
  | .createClient => σ.createClient
  | .assign field r => (.ok .none, σ.assign field r)
  | .configureLogging => ((σ.configureLogging.1).map fun _ => .none, σ.configureLogging.2)

end Session

end CredentialWrite
