import CredentialWrite.Proofs.Payload.Entries
import CredentialWrite.Proofs.Session.Records
import CredentialWrite.Proofs.Session.Sharing

/-!
# The journal of a run

Building a request and preparing one leave one record each, where they succeed so far and their log
lets messages through at that moment: by its own level if it has one, and by the level of the root if
that is zero. No other action leaves any. So the journal of a run is the records of its steps in a
row. A record tells four things of a request, which are those that its payload tells whenever there
is one.
-/

namespace CredentialWrite

def Action.IsRecorded : Action → Prop
  | .callRequestBuilder _ .build | .buildWrite _ _ => True
  | _ => False

/-- What a record and a payload both tell of a request. -/
structure Summary where
  name : String
  kind : String
  overwrite : Bool
  permissions : Nat
  deriving DecidableEq

namespace Summary

def text (s : Summary) : String :=
  "name=" ++ s.name ++ " type=" ++ s.kind ++ " overwrite=" ++
    (if s.overwrite then "True" else "False") ++ " permissions=" ++ toString s.permissions

/-- The number of permissions in a payload; there are none where they are missing. -/
def countOf? (payload : WireJson) : Option Nat :=
  match payload.member? "additional_permissions" with
  | none => some 0
  | some (.array ps) => some ps.length
  | some _ => none

def ofPayload? (payload : WireJson) : Option Summary :=
  match payload.member? "name", payload.member? "type", payload.member? "overwrite",
    countOf? payload with
  | some (.text name), some (.text kind), some (.bool overwrite), some count =>
    some ⟨name, kind, overwrite, count⟩
  | _, _, _, _ => none

end Summary

theorem WriteRequest.ofPayload?_payload {r : WriteRequest CredentialName Permission Value}
    {payload : WireJson} (h : r.payload = .ok payload) : Summary.ofPayload? payload =
      some ⟨r.name.path, r.kind.wire, r.overwrite, r.permissions.length⟩ := by
  obtain ⟨es, rfl, he, -⟩ := exists_of_payload h
  obtain ⟨w, -, rfl⟩ := exists_of_mapM_payloadEntry he
  -- Only the entries of the value and of the permissions may be missing.
  cases hv : r.value.isNone <;> by_cases hp : r.permissions = [] <;>
    simp [PayloadKey.all, Pruning.keepsKey, Pruning.dropAbsent, hp, entry, Summary.ofPayload?,
      Summary.countOf?, Json.member?]

namespace Logging

/-- Whether a log lets a message of level 10 through, by its own level or by that of the root. -/
def LetsThrough (own root : Int) : Prop := own ≠ 0 ∧ own ≤ 10 ∨ own = 0 ∧ root ≤ 10

theorem isEnabled_iff (l : Logging) (logger : Logger) :
    l.isEnabled logger = true ↔ LetsThrough (l.level logger) l.root := by
  rw [isEnabled, decide_eq_true_iff, effectiveLevel, debugLevel, LetsThrough]
  by_cases follows : l.level logger = 0
  · simp [follows]
  · simp [follows]

end Logging

namespace Session

open Logging Store RequestBuilder

variable {σ : Session} {b r http : Ref} {q : StoredRequest} {listed : Address} {x : Action}

def summaryOf (q : StoredRequest) : Summary :=
  ⟨q.name.content.path, q.kind.wire, q.overwrite, q.permissions.length⟩

theorem requestSummary_eq (q : StoredRequest) : requestSummary q = (summaryOf q).text := by
  rw [requestSummary, Summary.text, summaryOf]
  cases q.overwrite <;> rfl

theorem ofPayload?_of_payloadOf {s : Store} {payload : WireJson}
    (h : (s.payloadOf q).1 = .ok payload) : Summary.ofPayload? payload = some (summaryOf q) := by
  rw [WriteRequest.ofPayload?_payload h]
  simp [summaryOf, readRequest, viewRequest, WriteRequest.map]

def run (σ : Session) (xs : List Action) : Session := xs.foldl (fun σ x => (σ.perform x).2) σ

def AllGiven (σ : Session) : List Action → Prop
  | [] => True
  | x :: rest => x.Given σ.store ∧ (σ.perform x).2.AllGiven rest

/-- The records that one step leaves. -/
inductive Leaves (σ : Session) : Action → List LogRecord → Prop
  | built {b r : Ref} {q : StoredRequest} {listed : Address}
      (h : (σ.perform (.callRequestBuilder b .build)).1 = .ok r)
      (hr : (σ.perform (.callRequestBuilder b .build)).2.store.cellOf? r =
        some (.request q listed))
      (lets : LetsThrough σ.logging.building σ.logging.root) :
      σ.Leaves (.callRequestBuilder b .build)
        [⟨.building, 10, "built write request: " ++ (summaryOf q).text⟩]
  | builtUnseen {b r : Ref} (h : (σ.perform (.callRequestBuilder b .build)).1 = .ok r)
      (lets : ¬ LetsThrough σ.logging.building σ.logging.root) :
      σ.Leaves (.callRequestBuilder b .build) []
  | refused {b : Ref} {e : Failure} (h : (σ.perform (.callRequestBuilder b .build)).1 = .error e) :
      σ.Leaves (.callRequestBuilder b .build) []
  | prepared {http r : Ref} {q : StoredRequest} {listed : Address} {payload : WireJson}
      (hr : σ.store.cellOf? r = some (.request q listed))
      (h : (σ.store.payloadOf q).1 = .ok payload)
      (lets : LetsThrough σ.logging.writing σ.logging.root) :
      σ.Leaves (.buildWrite http r)
        [⟨.writing, 10, "PUT /api/v1/data " ++ (summaryOf q).text⟩]
  | preparedUnseen {http r : Ref} (lets : ¬ LetsThrough σ.logging.writing σ.logging.root) :
      σ.Leaves (.buildWrite http r) []
  | unprepared {http r : Ref} (h : ∀ q listed payload,
      σ.store.cellOf? r = some (.request q listed) → (σ.store.payloadOf q).1 ≠ .ok payload) :
      σ.Leaves (.buildWrite http r) []
  | other {x : Action} (h : ¬ x.IsRecorded) : σ.Leaves x []

/-- The records that the steps of a run leave, one after the other. -/
inductive Accounts : Session → List Action → List LogRecord → Prop
  | done (σ : Session) : Accounts σ [] []
  | step {σ : Session} {x : Action} {xs : List Action} {now later : List LogRecord}
      (h : σ.Leaves x now) (hs : Accounts (σ.perform x).2 xs later) :
      Accounts σ (x :: xs) (now ++ later)

theorem leaves_built
    (h : (σ.perform (.callRequestBuilder b .build)).1 = .ok r)
    (hr : (σ.perform (.callRequestBuilder b .build)).2.store.cellOf? r =
      some (.request q listed)) : σ.Leaves (.callRequestBuilder b .build)
        (recorded σ.logging .building ("built write request: " ++ requestSummary q)) := by
  rw [recorded, requestSummary_eq]
  split
  · next lets => exact .built h hr ((isEnabled_iff _ _).mp lets)
  · next lets => exact .builtUnseen h fun through => lets ((isEnabled_iff _ _).mpr through)

theorem leaves_prepared {payload : WireJson} (hr : σ.store.cellOf? r = some (.request q listed))
    (h : (σ.store.payloadOf q).1 = .ok payload) : σ.Leaves (.buildWrite http r)
      (recorded σ.logging .writing ("PUT /api/v1/data " ++ requestSummary q)) := by
  rw [recorded, requestSummary_eq]
  split
  · next lets => exact .prepared hr h ((isEnabled_iff _ _).mp lets)
  · next lets => exact .preparedUnseen fun through => lets ((isEnabled_iff _ _).mpr through)

theorem leaves_build (hs : σ.store.Sound) {a : Address} {builder : RequestBuilder}
    (hc : σ.store.cell? a = some (.requestBuilder builder)) :
    σ.Leaves (.callRequestBuilder (.address a) .build)
      (recordsOfCall σ.logging (builder.perform σ.store .build).result) := by
  have performed := perform_callRequestBuilder hc .build
  have result := result_callRequestBuilder σ a builder .build
  rw [← performed] at result
  cases hb : (builder.perform σ.store .build).result with
  | error e =>
    rw [hb] at result
    exact .refused result
  | ok held =>
    cases held with
    | none =>
      rw [result_perform_build] at hb
      obtain ⟨_, -, hn⟩ := exists_of_map_eq_ok hb
      cases hn
    | some built =>
      rw [hb] at result
      obtain ⟨listed, hr, -⟩ := (standsWhole_of_callRequestBuilder hs hc hb).request
      rw [← performed] at hr
      exact leaves_built result hr

theorem not_isRecorded_of_ne {call : RequestBuilder.Call} (h : call ≠ .build) (b : Ref) :
    ¬ (Action.callRequestBuilder b call).IsRecorded := by
  cases call with
  | build => exact absurd rfl h
  | _ => exact id

theorem leaves_of_call {call : RequestBuilder.Call} (hcall : call ≠ .build) (s : Store)
    (builder : RequestBuilder) (b : Ref) : σ.Leaves (.callRequestBuilder b call)
      (recordsOfCall σ.logging (builder.perform s call).result) := by
  have nothing : recordsOfCall σ.logging (builder.perform s call).result = [] := by
    cases hb : (builder.perform s call).result with
    | error e => rfl
    | ok held =>
      cases held with
      | none => rfl
      | some built => exact absurd (eq_build_of_perform_ok hb).1 hcall
  rw [nothing]
  exact .other (not_isRecorded_of_ne hcall b)

structure Journals (σ : Session) (x : Action) (now : List LogRecord) : Prop where
  leaves : σ.Leaves x now
  journal : (σ.perform x).2.journal = σ.journal ++ now

theorem Tells.journals {now : List LogRecord} {fault : Option RequestFault}
    (h : Tells σ (σ.perform x) now fault) (leaves : σ.Leaves x now) : Journals σ x now :=
  ⟨leaves, h.journal⟩

theorem journals_of_eq (h : (σ.perform x).2 = σ) (leaves : σ.Leaves x []) : Journals σ x [] :=
  ⟨leaves, by rw [h, List.append_nil]⟩

theorem exists_journals_callRequestBuilder (hs : σ.store.Sound) (b : Ref)
    (call : RequestBuilder.Call) : ∃ now, Journals σ (.callRequestBuilder b call) now := by
  by_cases hb : ∃ a builder, b = .address a ∧ σ.store.cell? a = some (.requestBuilder builder)
  · obtain ⟨a, builder, rfl, hc⟩ := hb
    have tells := tells_callRequestBuilder σ a builder call
    rw [← perform_callRequestBuilder hc] at tells
    by_cases hcall : call = .build
    · subst hcall
      exact ⟨_, tells.journals (leaves_build hs hc)⟩
    · exact ⟨_, tells.journals (leaves_of_call hcall σ.store builder _)⟩
  · have refused : σ.perform (.callRequestBuilder b call) =
        (.error (σ.store.callRefusal b call.operationName), σ) := by
      simp only [perform]
      split
      · next a builder hc => exact absurd ⟨a, builder, rfl, hc⟩ hb
      · rfl
    refine ⟨[], journals_of_eq (by rw [refused]) ?_⟩
    by_cases hcall : call = .build
    · subst hcall
      exact .refused (by rw [refused])
    · exact .other (not_isRecorded_of_ne hcall b)

theorem exists_journals_callPermissionBuilder (σ : Session) (b : Ref)
    (call : PermissionBuilder.Call) : ∃ now, Journals σ (.callPermissionBuilder b call) now := by
  by_cases hb : ∃ a builder, b = .address a ∧ σ.store.cell? a = some (.permissionBuilder builder)
  · obtain ⟨a, builder, rfl, hc⟩ := hb
    have tells := tells_callPermissionBuilder σ a builder call
    rw [← perform_callPermissionBuilder hc] at tells
    exact ⟨[], tells.journals (.other id)⟩
  · have refused : (σ.perform (.callPermissionBuilder b call)).2 = σ := by
      simp only [perform]
      split
      · next a builder hc => exact absurd ⟨a, builder, rfl, hc⟩ hb
      · rfl
    exact ⟨[], journals_of_eq refused (.other id)⟩

theorem exists_journals_buildWrite (σ : Session) (http r : Ref) :
    ∃ now, Journals σ (.buildWrite http r) now := by
  by_cases hr : ∃ q listed, σ.store.cellOf? r = some (.request q listed)
  · obtain ⟨q, listed, hr⟩ := hr
    have tells : Tells σ (σ.perform (.buildWrite http r)) _ none := tells_buildWrite hr
    cases hp : (σ.store.payloadOf q).1 with
    | error e =>
      rw [hp] at tells
      refine ⟨[], tells.journals (.unprepared fun q' listed' payload hr' h => ?_)⟩
      cases hr.symm.trans hr'
      cases hp.symm.trans h
    | ok payload =>
      rw [hp] at tells
      exact ⟨_, tells.journals (leaves_prepared hr hp)⟩
  · have tells : Tells σ (σ.perform (.buildWrite http r)) [] _ :=
      tells_buildWrite_of_other fun q listed h => hr ⟨q, listed, h⟩
    exact ⟨[], tells.journals (.unprepared fun q listed _ h => absurd ⟨q, listed, h⟩ hr)⟩

theorem journals_of_isSilent (h : x.IsSilent) : Journals σ x [] := by
  refine (tells_of_isSilent h).journals (.other fun hr => ?_)
  cases x <;> first | exact h | exact hr

theorem exists_journals (hs : σ.store.Sound) (x : Action) : ∃ now, Journals σ x now := by
  cases x with
  | callRequestBuilder b call => exact exists_journals_callRequestBuilder hs b call
  | callPermissionBuilder b call => exact exists_journals_callPermissionBuilder σ b call
  | buildWrite http r => exact exists_journals_buildWrite σ http r
  | configureLogging => exact ⟨[], .other id, (List.append_nil _).symm⟩
  | _ => exact ⟨[], journals_of_isSilent trivial⟩

theorem accounts_run {xs : List Action} (hs : σ.store.Sound) (hx : σ.AllGiven xs) :
    ∃ news, Accounts σ xs news ∧ (σ.run xs).journal = σ.journal ++ news := by
  induction xs generalizing σ with
  | nil => exact ⟨[], .done σ, (List.append_nil _).symm⟩
  | cons x rest ih =>
    obtain ⟨now, h⟩ := exists_journals hs x
    obtain ⟨later, hl, hj⟩ := ih ((steps_perform hs hx.1).sound hs hx.1) hx.2
    refine ⟨now ++ later, .step h.leaves hl, ?_⟩
    rw [← List.append_assoc, ← h.journal]
    exact hj

/-- The journal of a run is the records that its steps leave: one for each request that is built and
one for each that is prepared, where the log lets messages through at that moment, and none for
anything else; and a payload tells of its request what its records tell. -/
theorem journal_accounts_for_run {xs : List Action} (h : initial.AllGiven xs) :
    Accounts initial xs (initial.run xs).journal ∧
      ∀ (s : Store) (q : StoredRequest) (payload : WireJson), (s.payloadOf q).1 = .ok payload →
        Summary.ofPayload? payload = some (summaryOf q) := by
  obtain ⟨news, accounts, hj⟩ := accounts_run sound_initial h
  obtain rfl : (initial.run xs).journal = news := hj
  exact ⟨accounts, fun s q payload => ofPayload?_of_payloadOf⟩

/-- A request is built while both logs follow the root, first where that lets nothing through, then
where it does. It is prepared then, and again when its log has a level of its own that lets nothing
through. -/
def loggedActions : List Action :=
  sharingActions ++
    [.callRequestBuilder (.address 2) .build,
      .assign .logLevel (.text "debug"), .assign .clientLogLevel (.text "notset"),
      .configureLogging, .callRequestBuilder (.address 2) .build, .createClient,
      .buildWrite (.address 9) (.address 5),
      .assign .clientLogLevel (.text "error"), .configureLogging,
      .buildWrite (.address 9) (.address 5), .callRequestBuilder (.address 2) (.name .none)]

theorem journal_of_logged_run : initial.AllGiven loggedActions ∧
    Accounts initial loggedActions
      [⟨.building, 10, "built write request: name=/a type=json overwrite=False permissions=0"⟩,
        ⟨.writing, 10, "PUT /api/v1/data name=/a type=json overwrite=False permissions=0"⟩] := by
  have nothing {s : Store} {x : Action} (h : x.Given s ↔ ∀ r ∈ [], s.Has r) : x.Given s :=
    h.mpr (by simp)
  have named : (Action.create (.name plainName)).Given initial.store :=
    ⟨by simp [Cell.parts], trivial⟩
  have given : initial.AllGiven loggedActions :=
    ⟨named, ⟨by simp [Cell.parts], trivial⟩, ⟨by simp [Cell.parts], .new _ _⟩,
      nothing .rfl, nothing .rfl, nothing .rfl, nothing .rfl, nothing .rfl, nothing .rfl,
      nothing .rfl, nothing .rfl, nothing .rfl, nothing .rfl, nothing .rfl, nothing .rfl,
      nothing .rfl, trivial⟩
  exact ⟨given, (journal_accounts_for_run given).1⟩

end Session

end CredentialWrite
