import CredentialWrite.Proofs.Permission.Twins
import CredentialWrite.Proofs.Session.Steps

/-!
# What actions tell

The records that an action adds to the journal, and the fault in assembling a request that it
raises. Only building and preparing a request are recorded, and only builders and the preparation of
what is no request raise such faults.
-/

namespace CredentialWrite

def Action.IsSilent : Action → Prop
  | .create _ | .setItem _ _ _ | .append _ _ | .toPayload _ | .createClient | .assign _ _ => True
  | _ => False

namespace Session

variable {σ : Session} {a : Address} {r http : Ref} {q : StoredRequest} {listed : Address}

def recorded (l : Logging) (logger : Logger) (message : String) : List LogRecord :=
  if l.isEnabled logger then [⟨logger, Logging.debugLevel, message⟩] else []

def recordsOfCall (l : Logging) : Except Failure (Option (Held StoredRequest)) → List LogRecord
  | .ok (some built) =>
    recorded l .building ("built write request: " ++ requestSummary built.content)
  | _ => []

theorem journal_log (σ : Session) (logger : Logger) (message : String) :
    (σ.log logger message).journal = σ.journal ++ recorded σ.logging logger message := by
  unfold log recorded
  split <;> simp

theorem logging_log (σ : Session) (logger : Logger) (message : String) :
    (σ.log logger message).logging = σ.logging := by
  unfold log
  split <;> rfl

/-- What a step tells: the records that it adds, and its fault. -/
structure Tells (σ : Session) (step : Except Failure Ref × Session) (records : List LogRecord)
    (fault : Option RequestFault) : Prop where
  logging : step.2.logging = σ.logging
  journal : step.2.journal = σ.journal ++ records
  fault : fault? step.1 = fault

theorem tells_nothing {result : Except Failure Ref} {store : Store} {settings : Settings Ref}
    (h : fault? result = none) :
    Tells σ (result, { σ with store, settings }) [] none :=
  ⟨rfl, (List.append_nil _).symm, h⟩

theorem perform_callRequestBuilder {b : RequestBuilder}
    (h : σ.store.cell? a = some (.requestBuilder b)) (call : RequestBuilder.Call) :
    σ.perform (.callRequestBuilder (.address a) call) = σ.callRequestBuilder a b call := by
  simp only [perform, Store.cellOf?, h]

theorem perform_callPermissionBuilder {b : PermissionBuilder}
    (h : σ.store.cell? a = some (.permissionBuilder b)) (call : PermissionBuilder.Call) :
    σ.perform (.callPermissionBuilder (.address a) call) = σ.callPermissionBuilder a b call := by
  simp only [perform, Store.cellOf?, h]

theorem tells_callRequestBuilder (σ : Session) (a : Address) (b : RequestBuilder)
    (call : RequestBuilder.Call) :
    Tells σ (σ.callRequestBuilder a b call)
      (recordsOfCall σ.logging (b.perform σ.store call).result)
      (fault? (b.perform σ.store call).result) := by
  unfold callRequestBuilder
  simp only
  cases (b.perform σ.store call).result with
  | error e => exact ⟨rfl, (List.append_nil _).symm, rfl⟩
  | ok built =>
    cases built with
    | none => exact ⟨rfl, (List.append_nil _).symm, rfl⟩
    | some held => exact ⟨logging_log _ _ _, journal_log _ _ _, rfl⟩

theorem tells_callPermissionBuilder (σ : Session) (a : Address) (b : PermissionBuilder)
    (call : PermissionBuilder.Call) :
    Tells σ (σ.callPermissionBuilder a b call) [] (fault? (b.perform σ.store call).result) := by
  unfold callPermissionBuilder
  simp only
  cases (b.perform σ.store call).result with
  | error e => exact ⟨rfl, (List.append_nil _).symm, rfl⟩
  | ok built => cases built <;> exact ⟨rfl, (List.append_nil _).symm, rfl⟩

theorem fault?_bind {α β : Type} {x : Except Failure α} {f : α → Except Failure β}
    (hx : fault? x = none) (hf : ∀ y, fault? (f y) = none) : fault? (x >>= f) = none := by
  cases x with
  | error e => exact hx
  | ok y => exact hf y

theorem fault?_dataUrl (c : HttpClient) : fault? c.dataUrl = none := by
  unfold HttpClient.dataUrl
  split
  · rfl
  · split
    · rfl
    · split <;> rfl

theorem fault?_ofPayload (c : HttpClient) (j : WireJson) :
    fault? (PreparedRequest.ofPayload c j) = none := by
  unfold PreparedRequest.ofPayload
  exact fault?_bind (fault?_dataUrl c) fun _ => rfl

/-- The preparation of a request is recorded when there is a payload, and raises no such fault. -/
theorem tells_buildWrite (h : σ.store.cellOf? r = some (.request q listed)) :
    Tells σ (σ.buildWrite http r)
      (if (σ.store.payloadOf q).1.isOk then
        recorded σ.logging .writing ("PUT /api/v1/data " ++ requestSummary q) else []) none := by
  unfold buildWrite
  simp only [h]
  cases σ.store.payloadOf q with
  | mk result t =>
    cases result with
    | error fault => exact ⟨rfl, (List.append_nil _).symm, rfl⟩
    | ok j =>
      have logged := journal_log { σ with store := t } .writing
        ("PUT /api/v1/data " ++ requestSummary q)
      have levels := logging_log { σ with store := t } .writing
        ("PUT /api/v1/data " ++ requestSummary q)
      simp only
      split
      · next c _ =>
        split
        · next he => exact ⟨levels, logged, (congrArg fault? he).symm.trans (fault?_ofPayload c j)⟩
        · exact ⟨levels, logged, rfl⟩
      · exact ⟨levels, logged, rfl⟩

theorem tells_buildWrite_of_other (h : ∀ q listed, σ.store.cellOf? r ≠ some (.request q listed)) :
    Tells σ (σ.buildWrite http r) [] (some (.notARequest (σ.store.className r))) := by
  unfold buildWrite
  split
  · next hr => exact absurd hr (h _ _)
  · exact ⟨rfl, (List.append_nil _).symm, rfl⟩

theorem requestFault?_callRefusal (s : Store) (r : Ref) (name : String) :
    (s.callRefusal r name).requestFault? = none := by
  unfold Store.callRefusal Store.part
  simp only
  split
  · rfl
  · next h =>
    split at h
    · cases h
    · cases h
      rfl

theorem fault?_create (s : Store) (settings : Settings Ref) :
    fault? (HttpClient.create s settings) = none := by
  have base : fault? (HttpClient.baseOf s settings.apiUrl) = none := by
    unfold HttpClient.baseOf
    split
    · split <;> rfl
    · rfl
  have timeouts : fault? (HttpClient.timeoutsOf s settings.timeout) = none := by
    unfold HttpClient.timeoutsOf
    split
    · split <;> rfl
    · rfl
  unfold HttpClient.create
  refine fault?_bind base fun _ => ?_
  simp only
  split
  · rfl
  · exact fault?_bind timeouts fun _ => rfl

theorem tells_of_isSilent {x : Action} (h : x.IsSilent) : Tells σ (σ.perform x) [] none := by
  cases x with
  | create c => exact tells_nothing rfl
  | setItem container key value =>
    simp only [perform, change]
    split <;> exact tells_nothing rfl
  | append container value =>
    simp only [perform, change]
    split <;> exact tells_nothing rfl
  | toPayload r =>
    simp only [perform, toPayload]
    split
    · split <;> exact tells_nothing rfl
    · exact tells_nothing (requestFault?_callRefusal _ _ _)
  | createClient =>
    simp only [perform, createClient]
    split
    · next he => exact tells_nothing ((congrArg fault? he).symm.trans (fault?_create _ _))
    · exact tells_nothing rfl
  | assign field r => exact tells_nothing rfl
  | _ => exact h.elim

end Session

end CredentialWrite
