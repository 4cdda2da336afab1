import CredentialWrite.Proofs.Session.Journal
import CredentialWrite.Proofs.Url.Rereading

/-!
# Clients over whole runs

A client keeps what the settings said when it was made, whatever is assigned to them afterwards and
whichever other clients are made. So every request that is prepared through it goes to the server
of the address of that moment, at a path below the path of that address, and carries the token of
that moment and nothing of any other.
-/

namespace CredentialWrite

open Text

def PreparedRequest.headersNamed (p : PreparedRequest) (name : String) : List (String × String) :=
  p.headers.filter (·.1 = name)

/-- The authorization that a token gives; an empty one gives none. -/
def bearer : Option String → Option String
  | none => none
  | some token => if token = "" then none else some ("Bearer " ++ token)

/-- A request that goes where an address says, with the authorization of a token. -/
structure PreparedRequest.IsFor (p : PreparedRequest) (u : Url) (token : Option String) : Prop where
  server : p.url.server = u.server
  path : p.url.path = Url.slashed u.path ++ "api/v1/data".toList
  query : p.url.query = none
  contentType : p.headersNamed "content-type" = [("content-type", "application/json")]
  authorization :
    p.headersNamed "authorization" = (bearer token).toList.map ("authorization", ·)

namespace HttpClient

variable {s : Store} {settings : Settings Ref} {c : HttpClient} {address : String} {u : Url}
  {token : Option String}

theorem authorizationOf_token (s : Store) (token : Option String) :
    authorizationOf s (token.elim .none .text) = bearer token := by
  cases token with
  | none => rfl
  | some t =>
    have shown : (s.view (.text t)).shown = t := rfl
    by_cases empty : t = ""
    · subst empty
      rfl
    · rw [bearer, if_neg empty, Option.elim_some, authorizationOf, shown]
      exact if_pos (decide_eq_true empty)

structure IsMadeFor (c : HttpClient) (u : Url) (token : Option String) : Prop where
  base : u.asBase = .ok c.base
  authorization : c.authorization = bearer token

theorem isMadeFor_of_create (located : settings.apiUrl = .text address)
    (authorized : settings.token = token.elim .none .text) (hu : Url.parse address.toList = .ok u)
    (h : create s settings = .ok c) : c.IsMadeFor u token := by
  unfold create at h
  rw [located, authorized, authorizationOf_token] at h
  obtain ⟨base, hb, h⟩ := exists_of_bind_eq_ok h
  have based : u.asBase = .ok base := by
    have same : (Url.parse address.toList).bind Url.asBase = u.asBase := by rw [hu]; rfl
    simp only [baseOf, Ref.text, same] at hb
    split at hb
    · next found hf =>
      obtain rfl := Except.ok.inj hb
      exact hf
    · cases hb
  dsimp only at h
  split at h
  · cases h
  · obtain ⟨timeouts, -, h⟩ := exists_of_bind_eq_ok h
    obtain rfl := Except.ok.inj h
    exact ⟨based, rfl⟩

theorem dropWhile_dataPath : dataPath.dropWhile (· = '/') = "api/v1/data".toList := by
  decide +kernel

theorem isSettled_dataPath : Url.IsSettled "api/v1/data".toList where
  chars := List.all_eq_true.mp (by decide +kernel)
  segments := by
    unfold Url.IsDot
    decide +kernel

theorem isAt_of_dataUrl (hc : c.IsMadeFor u token) (hu : u.IsRead) (hq : u.query = none) {v : Url}
    (h : c.dataUrl = .ok v) : u.IsAt (Url.slashed u.path ++ "api/v1/data".toList) v := by
  unfold dataUrl at h
  split at h
  · cases h
  · next found hf =>
    have there := Url.isAt_of_resource hu hq hc.base (dropWhile_dataPath ▸ isSettled_dataPath) hf
    rw [dropWhile_dataPath] at there
    split at h
    · cases h
    · split at h
      · cases h
      · obtain rfl := Except.ok.inj h
        exact there

end HttpClient

namespace PreparedRequest

variable {c : HttpClient} {payload : WireJson} {p : PreparedRequest} {u : Url} {token : Option String}

theorem filter_contentType (c : HttpClient) (url : Url) (body : String) :
    (headersFor c url body).filter (·.1 = "content-type") =
      [("content-type", "application/json")] := by
  unfold headersFor
  cases c.authorization <;> cases url.host.isEmpty <;> simp [HttpClient.contentType]

theorem filter_authorization (c : HttpClient) (url : Url) (body : String) :
    (headersFor c url body).filter (·.1 = "authorization") =
      c.authorization.toList.map ("authorization", ·) := by
  unfold headersFor
  cases c.authorization <;> cases url.host.isEmpty <;> simp

theorem isFor_of_ofPayload (hc : c.IsMadeFor u token) (hu : u.IsRead) (hq : u.query = none)
    (h : ofPayload c payload = .ok p) : p.IsFor u token := by
  obtain ⟨url, located, h⟩ := exists_of_bind_eq_ok h
  obtain rfl := Except.ok.inj h
  have there := HttpClient.isAt_of_dataUrl hc hu hq located
  refine ⟨there.server, there.path, there.query, filter_contentType c url _, ?_⟩
  rw [← hc.authorization]
  exact filter_authorization c url _

end PreparedRequest

namespace Session

open Store

variable {σ τ ψ χ : Session} {http r m : Ref} {address : String} {token : Option String} {u : Url}

theorem exists_client_of_createClient (h : (σ.perform .createClient).1 = .ok http) :
    ∃ c, HttpClient.create σ.store σ.settings = .ok c ∧
      (σ.perform .createClient).2.store.cellOf? http = some (.httpClient c) := by
  rw [perform] at h ⊢
  unfold createClient at h ⊢
  split at h
  · cases h
  · next c hc =>
    obtain rfl := Except.ok.inj h
    exact ⟨c, hc, cell?_alloc_self σ.store (.httpClient c)⟩

/-- A request that is prepared through a client goes to the server of the address of the moment
when the client was made, below its path, with the token of that moment, and stays so. What was
done between, to the settings or through other clients, does not matter. -/
theorem prepared_through_client_is_for_its_settings (before : Runs initial σ)
    (located : σ.settings.apiUrl = .text address)
    (authorized : σ.settings.token = token.elim .none .text)
    (read : Url.parse address.toList = .ok u) (absolute : u.scheme ≠ []) (plain : u.query = none)
    (created : (σ.perform .createClient).1 = .ok http)
    (after : Runs (σ.perform .createClient).2 ψ)
    (prepared : (ψ.perform (.buildWrite http r)).1 = .ok m) :
    ∃ p : PreparedRequest, p.IsFor u token ∧ ∀ χ, Runs (ψ.perform (.buildWrite http r)).2 χ →
      χ.store.cellOf? m = some (.preparedRequest p) := by
  have sound : σ.store.Sound := before.sound sound_initial
  have making : (Action.createClient).Given σ.store := by simp [Action.Given, Action.stored]
  have writing : (Action.buildWrite http r).Given ψ.store := by simp [Action.Given, Action.stored]
  obtain ⟨c, made, hc⟩ := exists_client_of_createClient created
  obtain ⟨a, rfl, hc⟩ := exists_of_cellOf? hc
  have soundMade := (steps_perform sound making).sound sound making
  have kept : ψ.store.cell? a = some (.httpClient c) := (after.evolves soundMade).cell?_eq hc rfl
  obtain ⟨q, listed, hr⟩ := exists_request_of_buildWrite prepared
  obtain ⟨j, client, p, t, hp, found, built, rfl, ht⟩ := buildWrite_eq_ok hr prepared
  obtain rfl : client = c := by
    have grown : ψ.store.Grows t := by
      have read := ψ.store.grows_payloadOf q
      rwa [hp] at read
    have same : t.cell? a = some (.httpClient c) := grown.evolves.cell?_eq kept rfl
    cases found.symm.trans same
    rfl
  have forSettings := PreparedRequest.isFor_of_ofPayload
    (HttpClient.isMadeFor_of_create located authorized read made)
    (Url.isRead_of_parse read absolute) plain built
  have soundWritten := (steps_perform (after.sound soundMade) writing).sound
    (after.sound soundMade) writing
  refine ⟨p, forSettings, fun χ later => (later.evolves soundWritten).cell?_eq ?_ rfl⟩
  rw [perform, ht]
  exact cell?_alloc_self t _

theorem Runs.run {xs : List Action} (h : Runs σ τ) (hx : τ.AllGiven xs) : Runs σ (τ.run xs) := by
  induction xs generalizing τ with
  | nil => exact h
  | cons x rest ih => exact ih (h.step hx.1 trivial) hx.2

/-- The settings of a client, told in another form than that in which requests go there. -/
def ownActions : List Action :=
  [.assign .apiUrl (.text "HTTPS://Host:443/base/../a b"), .assign .token (.text "first")]

/-- Another client is made for other settings before a request is built. -/
def otherActions : List Action :=
  [.assign .apiUrl (.text "http://other/"), .assign .token (.text "second"), .createClient,
    .create (.name RequestBuilder.plainName), .create (.mapping false []),
    .create (.requestBuilder (.new .json)), .callRequestBuilder (.address 4) (.name (.address 2)),
    .callRequestBuilder (.address 4) (.value (.address 3)),
    .callRequestBuilder (.address 4) .build]

def ownSession : Session := initial.run ownActions

def otherSession : Session := (ownSession.perform .createClient).2.run otherActions

def ownUrl : Url := ⟨"https".toList, [], "host".toList, some 443, "/a%20b".toList, none, none⟩

theorem prepared_through_first_of_two_clients :
    Url.parse "HTTPS://Host:443/base/../a b".toList = .ok ownUrl ∧
      (ownSession.perform .createClient).1 = .ok (.address 0) ∧
      otherSession.settings.token = .text "second" ∧
      (otherSession.perform (.buildWrite (.address 0) (.address 7))).1 = .ok (.address 8) ∧
      ∃ p : PreparedRequest, p.IsFor ownUrl (some "first") ∧
        ∀ χ, Runs (otherSession.perform (.buildWrite (.address 0) (.address 7))).2 χ →
          χ.store.cellOf? (.address 8) = some (.preparedRequest p) := by
  have parsed : Url.parse "HTTPS://Host:443/base/../a b".toList = .ok ownUrl := rfl
  have created : (ownSession.perform .createClient).1 = .ok (.address 0) := by decide +kernel
  have prepared :
      (otherSession.perform (.buildWrite (.address 0) (.address 7))).1 = .ok (.address 8) := rfl
  have nothing {s : Store} {x : Action} (h : x.Given s ↔ ∀ r ∈ [], s.Has r) : x.Given s :=
    h.mpr (by simp)
  have before : Runs initial ownSession :=
    .run (.start initial) ⟨nothing .rfl, nothing .rfl, trivial⟩
  have after : Runs (ownSession.perform .createClient).2 otherSession :=
    .run (.start _) ⟨nothing .rfl, nothing .rfl, nothing .rfl, ⟨by simp [Cell.parts], trivial⟩,
      ⟨by simp [Cell.parts], trivial⟩, ⟨by simp [Cell.parts], .new _ _⟩, nothing .rfl, nothing .rfl,
      nothing .rfl, trivial⟩
  have authorized : ownSession.settings.token = (some "first").elim .none .text := rfl
  exact ⟨parsed, created, rfl, prepared, prepared_through_client_is_for_its_settings before rfl
    authorized parsed (by decide) rfl created after prepared⟩

end Session

end CredentialWrite
