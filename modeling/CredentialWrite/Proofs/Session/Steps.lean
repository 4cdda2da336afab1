import CredentialWrite.Proofs.Request.Body
import CredentialWrite.Proofs.Store.Growth
import CredentialWrite.Session.Action

/-!
# Steps of a session

What an action does to a sound store: it grows, and then one container may have been changed in
place, or one builder have gone on. Every object is found again, its content changed by nothing but
an action that updates it.
-/

namespace CredentialWrite

namespace Action

def container? : Action → Option Ref
  | setItem container _ _ | append container _ => some container
  | _ => none

def stored : Action → List Ref
  | setItem _ key value => [key, value]
  | append _ value => [value]
  | _ => []

def Updates (x : Action) (a : Address) : Prop := x.container? = some (.address a)

def builder? : Action → Option Ref
  | callRequestBuilder r _ | callPermissionBuilder r _ => some r
  | _ => none

/-- Whether what an action makes or stores is made of what exists. -/
def Given (s : Store) : Action → Prop
  | create c => s.Supports c
  | x => ∀ r ∈ x.stored, s.Has r

theorem Given.stored {s : Store} {x : Action} (h : x.Given s) : ∀ r ∈ x.stored, s.Has r := by
  cases x with
  | create c => simp [Action.stored]
  | _ => exact h

/-- A call stores nothing. -/
theorem Given.of_builder? {s : Store} {x : Action} {r : Ref} (h : x.builder? = some r) :
    x.Given s := by
  cases x with
  | callRequestBuilder | callPermissionBuilder => simp [Given, Action.stored]
  | _ => cases h

end Action

namespace Store

variable {s t : Store} {x : Action} {a : Address} {c : Cell}

inductive Steps (x : Action) (s t : Store) : Prop
  | stays (h : t = s)
  | grows (hx : x.container? = none) (h : s.Grows t)
  | changes {r : Ref} (hx : x.container? = some r) (h : s.ChangesOne t r x.stored)
  | builds {u : Store} {a : Address} {c d : Cell} (hx : x.builder? = some (.address a))
      (h : s.Grows u) (hc : u.cell? a = some c) (hcd : c.Alike d) (hd : u.Supports d)
      (ht : t = u.update a d)

theorem Steps.sound (h : s.Steps x t) (hs : s.Sound) (hx : x.Given s) : t.Sound := by
  cases h with
  | stays h => exact h ▸ hs
  | grows _ h => exact h.sound hs
  | changes _ h => exact hs.change h hx.stored
  | builds _ h hc hcd hd ht =>
    rw [ht]
    refine (h.sound hs).update hc hcd.becomes hd ?_
    rintro q listed rfl
    cases hcd
    rfl

/-- An object is found again as it was, but for the items that it yielded, what it holds as a
builder and what the action changes. -/
theorem Steps.cell (h : s.Steps x t) (hc : s.cell? a = some c) :
    ∃ d, t.cell? a = some d ∧ (c.Aged d ∨ x.Updates a ∧ c.Changed x.stored d) := by
  cases h with
  | stays h => exact ⟨c, h ▸ hc, .inl (.refl c)⟩
  | grows _ h =>
    obtain ⟨n, hn⟩ := h.cell hc
    exact ⟨_, hn, .inl ⟨n, .refl _⟩⟩
  | changes hx h =>
    obtain ⟨b, e, d, rfl, he, hed, rfl⟩ := h
    by_cases hba : b = a
    · subst hba
      obtain rfl : e = c := Option.some.inj (he.symm.trans hc)
      exact ⟨d, cell?_update_self (lt_size_of_cell? hc), .inr ⟨hx, hed⟩⟩
    · exact ⟨c, (cell?_update_of_ne hba).trans hc, .inl (.refl c)⟩
  | @builds u b e d _ h he hed _ ht =>
    obtain ⟨n, hn⟩ := h.cell hc
    rw [ht]
    by_cases hba : b = a
    · subst hba
      obtain rfl : e = c.dropItems n := Option.some.inj (he.symm.trans hn)
      exact ⟨d, cell?_update_self (lt_size_of_cell? he), .inl ⟨n, hed⟩⟩
    · exact ⟨_, (cell?_update_of_ne hba).trans hn, .inl ⟨n, .refl _⟩⟩

/-- A change in place leaves everything else as it is. -/
theorem Steps.cell_of_ne (h : s.Steps x t) (hx : x.Updates a) {b : Address} (hb : b ≠ a) :
    t.cell? b = s.cell? b := by
  cases h with
  | stays h => rw [h]
  | grows hc _ => cases hc.symm.trans hx
  | changes hc h =>
    obtain ⟨e, c, d, rfl, -, -, rfl⟩ := h
    cases hc.symm.trans hx
    exact cell?_update_of_ne hb.symm
  | builds hc =>
    have none : x.container? = none := by cases x <;> first | rfl | cases hc
    cases none.symm.trans hx

theorem Steps.evolves (h : s.Steps x t) : s.Evolves t := by
  intro a c hc
  obtain ⟨d, hd, h | ⟨-, h⟩⟩ := h.cell hc
  · exact ⟨d, hd, h.becomes⟩
  · exact ⟨d, hd, h.becomes⟩

end Store

namespace Session

open Store

variable {σ : Session} {x : Action} {a : Address}

theorem store_callRequestBuilder (σ : Session) (a : Address) (b : RequestBuilder)
    (call : RequestBuilder.Call) : (σ.callRequestBuilder a b call).2.store =
      (b.perform σ.store call).store.update a
        (.requestBuilder (b.perform σ.store call).builder) := by
  unfold callRequestBuilder
  simp only
  split
  · rfl
  · rfl
  · exact store_log _ _ _

theorem result_callRequestBuilder (σ : Session) (a : Address) (b : RequestBuilder)
    (call : RequestBuilder.Call) : (σ.callRequestBuilder a b call).1 =
      (b.perform σ.store call).result.map fun built => (built.map Held.ref).getD (.address a) := by
  unfold callRequestBuilder
  simp only
  cases (b.perform σ.store call).result with
  | error e => rfl
  | ok built => cases built <;> rfl

theorem store_callPermissionBuilder (σ : Session) (a : Address) (b : PermissionBuilder)
    (call : PermissionBuilder.Call) : (σ.callPermissionBuilder a b call).2.store =
      (b.perform σ.store call).store.update a
        (.permissionBuilder (b.perform σ.store call).builder) := by
  unfold callPermissionBuilder
  simp only
  split <;> rfl

theorem steps_callRequestBuilder (hs : σ.store.Sound) {b : RequestBuilder}
    (hb : σ.store.cell? a = some (.requestBuilder b)) (call : RequestBuilder.Call) :
    σ.store.Steps (.callRequestBuilder (.address a) call)
      (σ.callRequestBuilder a b call).2.store := by
  have coherent : b.Coherent σ.store := (hs.supports a _ hb).holds
  have grown := coherent.grows_perform hs call
  obtain ⟨n, hn⟩ := grown.cell hb
  refine .builds rfl grown hn (.requestBuilder ?_) ⟨?_, coherent.perform call⟩
    (store_callRequestBuilder σ a b call)
  · exact (RequestBuilder.perform_sets b σ.store call).kind
  · simp [Cell.parts]

theorem steps_callPermissionBuilder (hs : σ.store.Sound) {b : PermissionBuilder}
    (hb : σ.store.cell? a = some (.permissionBuilder b)) (call : PermissionBuilder.Call) :
    σ.store.Steps (.callPermissionBuilder (.address a) call)
      (σ.callPermissionBuilder a b call).2.store := by
  have coherent : b.Coherent σ.store := (hs.supports a _ hb).holds
  have goes := coherent.goes_perform call
  obtain ⟨n, hn⟩ := goes.grows.cell hb
  refine .builds rfl goes.grows hn (.permissionBuilder _ _) ⟨?_, goes.coherent⟩
    (store_callPermissionBuilder σ a b call)
  simp [Cell.parts]

theorem steps_change {outcome : Except ItemFault Store} {r : Ref} (hx : x.container? = some r)
    (h : ∀ t, outcome = .ok t → σ.store.ChangesOne t r x.stored) :
    σ.store.Steps x (σ.change outcome).2.store := by
  cases outcome with
  | error e => exact .stays rfl
  | ok t => exact .changes hx (h t rfl)

theorem grows_toPayload (σ : Session) (q : StoredRequest) :
    σ.store.Grows (σ.toPayload q).2.store := by
  have read := σ.store.grows_payloadOf q
  unfold toPayload
  split
  · next h =>
    rw [h] at read
    exact read
  · next payload store h =>
    rw [h] at read
    exact read.trans (made_place (Nat.le_refl _) (closedFrom_size _) payload).grows

theorem grows_buildWrite (σ : Session) (http r : Ref) :
    σ.store.Grows (σ.buildWrite http r).2.store := by
  unfold buildWrite
  split
  · next q _ _ =>
    have read := σ.store.grows_payloadOf q
    split
    · next h =>
      rw [h] at read
      exact read
    · next payload store h =>
      rw [h] at read
      have logged (m : String) : ({ σ with store }.log .writing m).store = store := store_log _ _ _
      simp only
      split
      · split
        · exact (logged _).symm ▸ read
        · simp only [logged]
          exact .make read ⟨by simp [Cell.parts], trivial⟩
      · exact (logged _).symm ▸ read
  · exact .refl _

theorem steps_perform (hs : σ.store.Sound) (hx : x.Given σ.store) :
    σ.store.Steps x (σ.perform x).2.store := by
  cases x with
  | create c => exact .grows rfl (.alloc hx)
  | setItem container key value => exact steps_change rfl fun t h => changesOne_setItem h
  | append container value => exact steps_change rfl fun t h => changesOne_append h
  | callRequestBuilder r call =>
    simp only [perform]
    split
    · next a b hb => exact steps_callRequestBuilder hs hb call
    · exact .stays rfl
  | callPermissionBuilder r call =>
    simp only [perform]
    split
    · next a b hb => exact steps_callPermissionBuilder hs hb call
    · exact .stays rfl
  | toPayload r =>
    simp only [perform]
    split
    · exact .grows rfl (grows_toPayload σ _)
    · exact .stays rfl
  | buildWrite http r => exact .grows rfl (grows_buildWrite σ http r)
  | createClient =>
    simp only [perform, createClient]
    split
    · exact .stays rfl
    · exact .grows rfl (.alloc ⟨by simp [Cell.parts], trivial⟩)
  | assign field r => exact .stays rfl
  | configureLogging => exact .stays rfl

/-- A run of possible actions, each of which is as wanted where it is done. -/
inductive Leads (P : Session → Action → Prop) : Session → Session → Prop
  | start (σ : Session) : Leads P σ σ
  | step {σ τ : Session} (h : Leads P σ τ) {x : Action} (hx : x.Given τ.store) (hp : P τ x) :
      Leads P σ (τ.perform x).2

namespace Leads

variable {P Q : Session → Action → Prop} {τ : Session}

theorem sound (h : Leads P σ τ) (hs : σ.store.Sound) : τ.store.Sound := by
  induction h with
  | start => exact hs
  | step _ hx _ ih => exact (steps_perform ih hx).sound ih hx

theorem evolves (h : Leads P σ τ) (hs : σ.store.Sound) : σ.store.Evolves τ.store := by
  induction h with
  | start => exact .refl _
  | step h hx _ ih => exact ih.trans (steps_perform (h.sound hs) hx).evolves

end Leads

end Session

end CredentialWrite
