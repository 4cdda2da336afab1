import CredentialWrite.Proofs.Payload.Faithful
import CredentialWrite.Proofs.Payload.WellFormed
import CredentialWrite.Proofs.Session.Frames

/-!
# Snapshots

A payload is a new tree that nothing else refers to. It stays as it was returned while its own
containers are not updated, and what is done to them does not reach anything that was there before,
until the caller stores one below the other. A prepared request is a text and stays for ever.
-/

namespace CredentialWrite

namespace Json

mutual

theorem WellFormed.isNative : ∀ {j : WireJson}, j.WellFormed → j.IsNative
  | .null, _ => ⟨_, .none⟩
  | .bool b, _ => ⟨_, .bool b⟩
  | .int n, _ => ⟨_, .int n⟩
  | .number x, h => ⟨_, .float x 0 h.numbers⟩
  | .text t, _ => isNative_text t
  | .array _, h => isNative_array (isNative_of_items
      (itemsHaveUniqueKeys_iff.mp h.keys) (allNumbersOfItems_iff.mp h.numbers))
  | .object _, h => isNative_object h.keys.1 (isNative_of_entries
      (entriesHaveUniqueKeys_iff.mp h.keys.2) (allNumbersOfEntries_iff.mp h.numbers))

theorem isNative_of_items : ∀ {items : List WireJson}, (∀ j ∈ items, j.HasUniqueKeys) →
    (∀ j ∈ items, j.AllNumbers fun x => x.isFinite = true) → ∀ j ∈ items, j.IsNative
  | [], _, _ => by simp
  | j :: rest, hk, hn => by
    rw [List.forall_mem_cons] at hk hn ⊢
    exact ⟨WellFormed.isNative ⟨hk.1, hn.1⟩, isNative_of_items hk.2 hn.2⟩

theorem isNative_of_entries : ∀ {entries : List (String × WireJson)},
    (∀ e ∈ entries, e.2.HasUniqueKeys) →
    (∀ e ∈ entries, e.2.AllNumbers fun x => x.isFinite = true) → ∀ e ∈ entries, e.2.IsNative
  | [], _, _ => by simp
  | (key, j) :: rest, hk, hn => by
    rw [List.forall_mem_cons] at hk hn ⊢
    exact ⟨WellFormed.isNative ⟨hk.1, hn.1⟩, isNative_of_entries hk.2 hn.2⟩

end

end Json

namespace Store

variable {s t : Store} {m : Address} {p : Ref}

theorem Made.le_of_reaches (h : s.Made m [p] t) {a : Address} (k : t.Reaches p a) : m ≤ a := by
  induction k with
  | here k => exact h.fresh _ (by simp [k])
  | part _ hc hb ih => exact (h.closed _ _ ih hc).2 _ hb

theorem Made.noIterators (h : s.Made m [p] t) : t.NoIterators p :=
  fun a ha rest hc => (h.closed a _ (h.le_of_reaches ha) hc).1 rest rfl

end Store

namespace Session

open Store

variable {σ τ ψ : Session} {p r : Ref} {q : StoredRequest} {listed : Address} {j : WireJson}

def Runs : Session → Session → Prop := Leads fun _ _ => True

theorem sound_initial : initial.store.Sound := sound_empty

/-- What a step from one session to another has returned is a copy that nothing else refers to: it
is as it was returned until a part of it is updated, and an update of a part of it changes neither
what was there before nor any payload, unless one is stored below the other. -/
structure Snapshot (σ τ : Session) (p : Ref) : Prop where
  new : ∀ a, τ.store.Reaches p a → σ.store.cells.size ≤ a
  stays : ∀ ψ, Leads (fun _ x => x.Spares τ.store p) τ ψ → ψ.store.view p = τ.store.view p
  apart : ∀ r, σ.store.Has r → ∀ ψ, Leads (fun ρ x => x.KeepsApart p r ρ.store) τ ψ →
    ∀ x a, x.Given ψ.store → x.Updates a →
      (ψ.store.Reaches p a → (ψ.perform x).2.store.view r = ψ.store.view r) ∧
        (ψ.store.Reaches r a → (ψ.perform x).2.store.view p = ψ.store.view p)
  payload : ∀ q : StoredRequest, σ.store.Has q.value → ∀ ψ,
    Leads (fun ρ x => x.KeepsApart p q.value ρ.store) τ ψ → ∀ x a, x.Given ψ.store →
      x.Updates a → ψ.store.Reaches p a →
        ((ψ.perform x).2.store.payloadOf q).1 = (ψ.store.payloadOf q).1

/-- What is returned for a request at a moment: the tree of its payload as a snapshot, and prepared
requests that hold this payload and are never changed. -/
structure Returns (σ : Session) (r : Ref) (q : StoredRequest) : Prop where
  payload : match (σ.store.readRequest q).payload with
    | .error fault => (σ.perform (.toPayload r)).1 = .error (.dump fault)
    | .ok j => ∃ p, (σ.perform (.toPayload r)).1 = .ok p ∧
        Native ((σ.perform (.toPayload r)).2.store.view p) j ∧
        Snapshot σ (σ.perform (.toPayload r)).2 p
  prepared : ∀ http m, (σ.perform (.buildWrite http r)).1 = .ok m →
    ∃ (j : WireJson) (c : PreparedRequest), (σ.store.payloadOf q).1 = .ok j ∧
      c.body = PreparedRequest.bodyOf j ∧ ∀ ψ, Runs (σ.perform (.buildWrite http r)).2 ψ →
        ψ.store.cellOf? m = some (.preparedRequest c)

theorem snapshot_of_made {x : Action} (hs : σ.store.Sound) (hx : x.Given σ.store)
    (hc : x.container? = none)
    (h : σ.store.Made σ.store.cells.size [p] (σ.perform x).2.store) :
    Snapshot σ (σ.perform x).2 p := by
  have steps := steps_perform hs hx
  have sound := steps.sound hs hx
  have hp : (σ.perform x).2.store.Has p := h.has p List.mem_cons_self
  suffices apart : ∀ r, σ.store.Has r → ∀ ψ, Leads (fun ρ y => y.KeepsApart p r ρ.store) _ ψ →
      ∀ y a, y.Given ψ.store → y.Updates a →
        (ψ.store.Reaches p a → (ψ.perform y).2.store.view r = ψ.store.view r) ∧
          (ψ.store.Reaches r a → (ψ.perform y).2.store.view p = ψ.store.view p) from
    ⟨fun a ha => h.le_of_reaches ha, fun ψ k => k.view_eq sound hp h.noIterators, apart,
      fun q hq ψ k y a hy hu ha => payloadOf_eq_of_view ((apart _ hq ψ k y a hy hu).1 ha)⟩
  intro r hr ψ k y a hy hu
  have hr' := hr.mono steps.evolves
  have evolved := k.evolves sound
  -- What was there before leads to what was there before, and the copy is new.
  have apart : (σ.perform x).2.store.Apart p r := by
    intro b hpb hrb
    rcases steps.reaches hs hx hr hrb with hrb | ⟨b, hb, -⟩
    · exact Nat.not_lt_of_le (h.le_of_reaches hpb) (hs.lt_of_reaches hr hrb)
    · cases hc.symm.trans hb
  have still := k.apart sound hp hr' apart
  have sound' := k.sound sound
  exact ⟨fun ha => view_perform_eq sound' hy (hr'.mono evolved) hu (still a ha),
    fun ha => view_perform_eq sound' hy (hp.mono evolved) hu fun hpa => still a hpa ha⟩

/-- The payload of a request is placed as a new tree. -/
theorem perform_toPayload (hr : σ.store.cellOf? r = some (.request q listed))
    (hp : (σ.store.readRequest q).payload = .ok j) :
    σ.perform (.toPayload r) = (.ok ((σ.store.payloadOf q).2.place (.ofWire j)).1,
      { σ with store := ((σ.store.payloadOf q).2.place (.ofWire j)).2 }) := by
  have done : σ.store.payloadOf q = (.ok j, (σ.store.payloadOf q).2) := Prod.ext hp rfl
  simp only [perform, hr, toPayload]
  rw [done]

theorem perform_toPayload_of_error {fault : DumpFault}
    (hr : σ.store.cellOf? r = some (.request q listed))
    (hp : (σ.store.readRequest q).payload = .error fault) :
    (σ.perform (.toPayload r)).1 = .error (.dump fault) := by
  have failed : σ.store.payloadOf q = (.error fault, (σ.store.payloadOf q).2) := Prod.ext hp rfl
  simp only [perform, hr, toPayload]
  rw [failed]

theorem made_toPayload (hr : σ.store.cellOf? r = some (.request q listed))
    (hp : (σ.store.readRequest q).payload = .ok j) :
    σ.store.Made σ.store.cells.size [((σ.store.payloadOf q).2.place (.ofWire j)).1]
      (σ.perform (.toPayload r)).2.store := by
  have read := σ.store.grows_payloadOf q
  have size : (σ.store.payloadOf q).2.cells.size = σ.store.cells.size := size_take _ _
  have made := made_place (Nat.le_refl _) (closedFrom_size (σ.store.payloadOf q).2) j
  rw [size] at made
  rw [perform_toPayload hr hp]
  exact ⟨read.trans made.grows, made.has, made.closed, made.fresh⟩

theorem toPayload_returns (hs : σ.store.Sound) (hr : σ.store.cellOf? r = some (.request q listed)) :
    match (σ.store.readRequest q).payload with
    | .error fault => (σ.perform (.toPayload r)).1 = .error (.dump fault)
    | .ok j => ∃ p, (σ.perform (.toPayload r)).1 = .ok p ∧
        Native ((σ.perform (.toPayload r)).2.store.view p) j ∧
        Snapshot σ (σ.perform (.toPayload r)).2 p := by
  cases hp : (σ.store.readRequest q).payload with
  | error fault => exact perform_toPayload_of_error hr hp
  | ok j =>
    obtain ⟨v, hv⟩ := (WriteRequest.wellFormed_payload hp).isNative
    have placed := perform_toPayload hr hp
    have snapshot := snapshot_of_made (x := .toPayload r) hs
      (by simp [Action.Given, Action.stored]) rfl (made_toPayload hr hp)
    refine ⟨_, by rw [placed], ?_, snapshot⟩
    rw [placed]
    exact (placed_place _ j).view hv (size_le_depthBound _) (by simp)

theorem exists_request_of_buildWrite {http m : Ref} (h : (σ.buildWrite http r).1 = .ok m) :
    ∃ q listed, σ.store.cellOf? r = some (.request q listed) := by
  unfold buildWrite at h
  split at h
  · next q listed hr => exact ⟨q, listed, hr⟩
  · cases h

/-- A prepared request is a new object that holds the payload of its moment. -/
theorem buildWrite_eq_ok (hr : σ.store.cellOf? r = some (.request q listed)) {http m : Ref}
    (h : (σ.buildWrite http r).1 = .ok m) :
    ∃ (j : WireJson) (client : HttpClient) (c : PreparedRequest) (t : Store),
      σ.store.payloadOf q = (.ok j, t) ∧ t.cellOf? http = some (.httpClient client) ∧
      PreparedRequest.ofPayload client j = .ok c ∧ m = .address t.cells.size ∧
      (σ.buildWrite http r).2.store = (t.alloc (.preparedRequest c)).2 := by
  unfold buildWrite at h ⊢
  simp only [hr] at h ⊢
  cases hp : σ.store.payloadOf q with
  | mk result t =>
    rw [hp] at h
    cases result with
    | error fault => cases h
    | ok j =>
      simp only at h ⊢
      split at h
      · next client hh =>
        split at h
        · cases h
        · next c hc =>
          cases h
          rw [store_log] at hh
          refine ⟨j, client, c, _, rfl, hh, hc, ?_, ?_⟩
          · rw [store_log]; rfl
          · rw [store_log]
      · cases h

theorem body_of_ofPayload {client : HttpClient} {j : WireJson} {c : PreparedRequest}
    (h : PreparedRequest.ofPayload client j = .ok c) : c.body = PreparedRequest.bodyOf j := by
  obtain ⟨url, -, h⟩ := exists_of_bind_eq_ok h
  obtain rfl := Except.ok.inj h
  rfl

theorem buildWrite_returns (hs : σ.store.Sound) (hr : σ.store.cellOf? r = some (.request q listed))
    {http m : Ref} (h : (σ.perform (.buildWrite http r)).1 = .ok m) :
    ∃ (j : WireJson) (c : PreparedRequest), (σ.store.payloadOf q).1 = .ok j ∧
      c.body = PreparedRequest.bodyOf j ∧ ∀ ψ, Runs (σ.perform (.buildWrite http r)).2 ψ →
        ψ.store.cellOf? m = some (.preparedRequest c) := by
  obtain ⟨j, client, c, t, hp, -, hc, rfl, ht⟩ := buildWrite_eq_ok hr h
  have given : (Action.buildWrite http r).Given σ.store := by simp [Action.Given, Action.stored]
  have sound := (steps_perform hs given).sound hs given
  refine ⟨j, c, by rw [hp], body_of_ofPayload hc, fun ψ k => (k.evolves sound).cell?_eq ?_ rfl⟩
  rw [perform, ht]
  exact cell?_alloc_self t _

theorem returns (hs : σ.store.Sound) (hr : σ.store.cellOf? r = some (.request q listed)) :
    Returns σ r q :=
  ⟨toPayload_returns hs hr, fun _ _ h => buildWrite_returns hs hr h⟩

end Session

end CredentialWrite
