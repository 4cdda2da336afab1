import CredentialWrite.Proofs.Payload.WellFormed
import CredentialWrite.Proofs.Store.Evolution
import CredentialWrite.Session.Basic

/-!
# Bodies of prepared requests

The body of a prepared request is a text of JSON that holds the payload and nothing else, and its
announced length is the count of the octets of this text. Whether a request can be prepared at all
depends on the payload and on the URL of the client alone.
-/

namespace CredentialWrite

theorem Text.length_encodeUtf8 (s : String) : (encodeUtf8 s).length = s.utf8ByteSize := by
  rw [← String.size_toByteArray, ← String.utf8Encode_toList, List.utf8Encode, encodeUtf8,
    List.size_toByteArray]

theorem PreparedRequest.lookup_contentLength (c : HttpClient) (url : Url) (body : String) :
    (headersFor c url body).lookup "content-length" = some (toString body.utf8ByteSize) := by
  rw [← Text.length_encodeUtf8]
  unfold headersFor
  cases c.authorization <;> rfl

/-- The body of a payload holds this payload. -/
theorem PreparedRequest.parse?_bodyOf {payload : WireJson} (h : payload.WellFormed) :
    Json.parse? (bodyOf payload) = some (payload.mapNumber (·.toText .plain)) := by
  refine Json.parse?_render (.imp (fun x hx rest hr => ?_) h.numbers)
  rw [String.ofList_toList]
  exact Json.readNumber?_toText .plain hx hr

namespace Session

variable {σ : Session} {http r : Ref} {q : StoredRequest} {listed : Address} {c : HttpClient}
  {payload : WireJson}

theorem store_log (σ : Session) (logger : Logger) (message : String) :
    (σ.log logger message).store = σ.store := by
  unfold log
  split <;> rfl

theorem buildWrite_of_payload {store : Store} (hr : σ.store.cellOf? r = some (.request q listed))
    (hp : σ.store.payloadOf q = (.ok payload, store))
    (hc : store.cellOf? http = some (.httpClient c)) :
    ∃ τ : Session, τ.store = store ∧ σ.buildWrite http r =
      match PreparedRequest.ofPayload c payload with
      | .error e => (.error e, τ)
      | .ok p => (.ok (.address τ.store.cells.size),
          { τ with store := (τ.store.alloc (.preparedRequest p)).2 }) := by
  let τ := { σ with store }.log .writing ("PUT /api/v1/data " ++ requestSummary q)
  have hτ : τ.store = store := store_log _ _ _
  refine ⟨τ, hτ, ?_⟩
  have client : τ.store.cellOf? http = some (.httpClient c) := hτ ▸ hc
  simp only [buildWrite, hr, hp]
  simp only [τ] at client
  simp only [client]
  rfl

/-- A request that has a payload is prepared through every client that has a URL for it, as a `PUT`
of exactly that payload: keys in their order and none twice, texts and integers as they are, floats
by their texts; and the length is counted in octets. -/
theorem body_holds_payload (hr : σ.store.cellOf? r = some (.request q listed))
    (hc : σ.store.cellOf? http = some (.httpClient c))
    (hp : (σ.store.payloadOf q).1 = .ok payload) :
    payload.HasUniqueKeys ∧ match c.dataUrl with
      | .error e => (σ.buildWrite http r).1 = .error e
      | .ok url => ∃ a p, (σ.buildWrite http r).1 = .ok (.address a) ∧
          (σ.buildWrite http r).2.store.cell? a = some (.preparedRequest p) ∧
          p.method = "PUT" ∧ p.url = url ∧
          Json.parse? p.body = some (payload.mapNumber (·.toText .plain)) ∧
          p.headers.lookup "content-length" = some (toString p.body.utf8ByteSize) := by
  have hw : payload.WellFormed := WriteRequest.wellFormed_payload hp
  have client : (σ.store.payloadOf q).2.cellOf? http = some (.httpClient c) := by
    obtain ⟨a, rfl, ha⟩ := Store.exists_of_cellOf? hc
    exact (Store.cell?_take fun rest => by simp [ha]).trans ha
  obtain ⟨τ, -, built⟩ := buildWrite_of_payload hr (Prod.ext hp rfl) client
  refine ⟨hw.keys, ?_⟩
  cases hu : c.dataUrl with
  | error e =>
    have failed : PreparedRequest.ofPayload c payload = .error e := by
      simp [PreparedRequest.ofPayload, hu, bind, Except.bind]
    rw [built, failed]
  | ok url =>
    have done : PreparedRequest.ofPayload c payload = .ok ⟨"PUT", url,
        PreparedRequest.headersFor c url (PreparedRequest.bodyOf payload),
        PreparedRequest.bodyOf payload⟩ := by
      simp [PreparedRequest.ofPayload, hu, bind, Except.bind, pure, Except.pure]
    rw [built, done]
    exact ⟨_, _, rfl, Store.cell?_alloc_self _ _, rfl, rfl, PreparedRequest.parse?_bodyOf hw,
      PreparedRequest.lookup_contentLength _ _ _⟩

/-- A name, a key and a text with quotes, brackets, a backslash, a control character and wide
characters, beside an integer and a float. -/
def hostileRequest : StoredRequest :=
  ⟨.any, true, true, ⟨0, ⟨.plain, "/\"\\\x01é", by decide⟩⟩, .json, .address 2, [], true⟩

def localClient : HttpClient :=
  .new ⟨"http".toList, [], "localhost".toList, some 8844, ['/'], none, none⟩ none []

def hostileSession : Session :=
  { initial with
    store := ⟨#[.name hostileRequest.name.content,
      .sequence .list [.scalar (.int (-1)), .scalar (.float (Binary64.ofRatio false 3 2) 0),
        .text "\"]\x7d"],
      .mapping false [(.text "\",\"", .address 1)], .sequence .tuple [],
      .request hostileRequest 3, .httpClient localClient]⟩ }

theorem body_of_hostile_texts :
    ∃ payload a p, (hostileSession.store.payloadOf hostileRequest).1 = .ok payload ∧
      payload.HasUniqueKeys ∧
      (hostileSession.buildWrite (.address 5) (.address 4)).1 = .ok (.address a) ∧
      (hostileSession.buildWrite (.address 5) (.address 4)).2.store.cell? a =
        some (.preparedRequest p) ∧ p.method = "PUT" ∧
      Json.parse? p.body = some (payload.mapNumber (·.toText .plain)) ∧
      p.headers.lookup "content-length" = some (toString p.body.utf8ByteSize) := by
  obtain ⟨payload, hp⟩ : ∃ payload,
      (hostileSession.store.payloadOf hostileRequest).1 = .ok payload := ⟨_, rfl⟩
  obtain ⟨url, hu⟩ : ∃ url, localClient.dataUrl = .ok url := ⟨_, rfl⟩
  have held := body_holds_payload (σ := hostileSession) (r := .address 4) (c := localClient)
    rfl (show hostileSession.store.cellOf? (.address 5) = _ from rfl) hp
  simp only [hu] at held
  obtain ⟨keys, a, p, ha, hc, hm, -, hb⟩ := held
  exact ⟨payload, a, p, hp, keys, ha, hc, hm, hb⟩

end Session

end CredentialWrite
