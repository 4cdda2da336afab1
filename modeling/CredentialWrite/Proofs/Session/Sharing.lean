import CredentialWrite.Proofs.Session.Snapshots

/-!
# What requests share

A built request shares its value with its callers, and nothing else. Its flag, name, kind and
permissions and the identity of its value stay as they were built, whatever is done to builders,
lists and other requests. Its payload is that of what the value holds at the moment, so it changes
only with a container below the value; payloads and prepared requests that were returned are
snapshots.
-/

namespace CredentialWrite

namespace Store

variable {s t : Store} {a : Address}

theorem part_eq_of_cell? (h : t.cell? a = s.cell? a) (name : String) :
    t.part (.address a) name = s.part (.address a) name := by
  simp only [part, cellOf?, className, h]

theorem mem_of_part_eq_ok {c : Cell} (h : s.cell? a = some c) {name : String} {x : Ref}
    (hx : s.part (.address a) name = .ok x) : (name, x) ∈ c.properties ++ c.fields?.getD [] := by
  simp only [part, cellOf?, h] at hx
  split at hx
  · next y hy =>
    cases hx
    obtain ⟨before, after, heq, -⟩ := List.lookup_eq_some_iff.mp hy
    rw [heq]
    simp
  · cases hx

def permissionValues (ps : List (Held Permission)) : List Value :=
  ps.map fun p => .record p.address (.permission p.content)

theorem view_permissions {ps : List (Held Permission)}
    (h : s.cell? a = some (.sequence .tuple (ps.map Held.ref)))
    (hp : ∀ p ∈ ps, RequestBuilder.permission? s p.ref = some p) :
    s.view (.address a) = .sequence a .tuple (permissionValues ps) := by
  have hlt : 0 < s.cells.size := Nat.zero_lt_of_lt (lt_size_of_cell? h)
  obtain ⟨k, hk⟩ : ∃ k, s.depthBound = k + 2 :=
    Nat.exists_eq_add_of_le' (Nat.mul_le_mul (Nat.succ_le_succ hlt) (Nat.succ_pos _))
  have items : (ps.map Held.ref).map (s.viewBelow (k + 1) [a]) = permissionValues ps := by
    rw [List.map_map]
    refine List.map_congr_left fun p hm => ?_
    obtain ⟨-, x, y, hc⟩ := RequestBuilder.permission?_eq_some (hp p hm)
    exact viewBelow_permission hc k [a]
  simp only [view, hk, viewBelow, h, items]
  simp

end Store

structure StandsWhole (s : Store) (r : Held StoredRequest) : Prop where
  request : RequestBuilder.Stands s r
  name : s.cell? r.content.name.address = some (.name r.content.name.content)
  permissions : ∀ p ∈ r.content.permissions, RequestBuilder.permission? s p.ref = some p

/-- Every part of an object is the same as before, and all but the value are seen as before. -/
def KeepsParts (s t : Store) (r : Ref) : Prop :=
  ∀ name x, s.part r name = .ok x →
    t.part r name = .ok x ∧ (name ≠ "value" → t.view x = s.view x)

namespace StandsWhole

variable {s t : Store} {r : Held StoredRequest}

theorem evolves (h : StandsWhole s r) (k : s.Evolves t) : StandsWhole t r := by
  obtain ⟨listed, hc, hl⟩ := h.request
  exact ⟨⟨listed, k.cell?_eq hc rfl, k.cell?_eq hl rfl⟩, k.cell?_eq h.name rfl,
    fun p hp => RequestBuilder.permission?_evolves (h.permissions p hp) k⟩

theorem keepsParts (h : StandsWhole s r) (k : s.Evolves t) : KeepsParts s t r.ref := by
  have later := h.evolves k
  obtain ⟨listed, hc, hl⟩ := h.request
  have hc' := k.cell?_eq hc rfl
  intro name x hx
  refine ⟨(Store.part_eq_of_cell? (hc'.trans hc.symm) name).trans hx, fun hn => ?_⟩
  have scalars (y : Scalar) : t.view (.scalar y) = s.view (.scalar y) := by
    rw [Store.view, Store.view, Store.viewBelow_scalar, Store.viewBelow_scalar]
  have names : t.view r.content.name.ref = s.view r.content.name.ref :=
    (Store.view_name later.name).trans (Store.view_name h.name).symm
  have permissions : t.view (.address listed) = s.view (.address listed) :=
    (Store.view_permissions (k.cell?_eq hl rfl) later.permissions).trans
      (Store.view_permissions hl h.permissions).symm
  have hm := Store.mem_of_part_eq_ok hc hx
  simp only [Cell.properties, Cell.fields?, Option.getD_some, List.cons_append, List.nil_append,
    List.mem_cons, Prod.mk.injEq, List.not_mem_nil, or_false] at hm
  rcases hm with ⟨-, rfl⟩ | ⟨-, rfl⟩ | ⟨-, rfl⟩ | ⟨-, rfl⟩ | ⟨-, rfl⟩ | ⟨rfl, -⟩ | ⟨-, rfl⟩
  · exact scalars _
  · exact scalars _
  · exact scalars _
  · exact names
  · exact scalars _
  · exact absurd rfl hn
  · exact permissions

end StandsWhole

theorem RequestBuilder.Coherent.standsWhole {s : Store} {b : RequestBuilder} (h : b.Coherent s)
    {n : Held CredentialName} {v : Ref} (hn : b.name = some n) (hv : b.value = some v) :
    ∃ r t, b.build s = (.ok r, t) ∧ s.Extends t ∧ StandsWhole t r := by
  obtain ⟨r, t, hb, hq, hx, stands⟩ := h.build hn hv
  refine ⟨r, t, hb, hx, stands, ?_, fun p hp => ?_⟩
  · rw [hq]
    exact hx _ _ (h.name n hn)
  · rw [hq] at hp
    exact permission?_evolves (h.permissions p hp) hx.evolves

namespace Session

open Store RequestBuilder

variable {σ τ ω : Session} {b r : Ref}

/-- A builder never gives itself back from building. -/
theorem exists_of_callRequestBuilder_build {a : Address} {builder : RequestBuilder}
    (h : (σ.callRequestBuilder a builder .build).1 = .ok r) :
    ∃ built, (builder.perform σ.store .build).result = .ok (some built) ∧ r = Held.ref built := by
  have result := result_perform_build builder σ.store
  unfold callRequestBuilder at h
  simp only at h
  rw [result] at h ⊢
  cases hb : (builder.build σ.store).1 with
  | error e =>
    rw [hb] at h
    cases h
  | ok built =>
    rw [hb] at h
    cases h
    exact ⟨built, rfl, rfl⟩

theorem standsWhole_of_callRequestBuilder (hs : σ.store.Sound) {a : Address}
    {builder : RequestBuilder} (hc : σ.store.cell? a = some (.requestBuilder builder))
    {built : Held StoredRequest} (h : (builder.perform σ.store .build).result = .ok (some built)) :
    StandsWhole (σ.callRequestBuilder a builder .build).2.store built := by
  have coherent : builder.Coherent σ.store := (hs.supports a _ hc).holds
  obtain ⟨-, n, v, hn, hv⟩ := eq_build_of_perform_ok h
  obtain ⟨q, t, hb, hx, stands⟩ := coherent.standsWhole hn hv
  rw [result_perform_build, hb] at h
  cases h
  rw [store_callRequestBuilder, builder_perform_build, store_perform_build, hb,
    update_of_cell? (hx a _ hc)]
  exact stands

theorem standsWhole_of_build (hs : σ.store.Sound)
    (h : (σ.perform (.callRequestBuilder b .build)).1 = .ok r) :
    ∃ built, r = Held.ref built ∧
      StandsWhole (σ.perform (.callRequestBuilder b .build)).2.store built := by
  have called : ∃ a builder, σ.store.cell? a = some (.requestBuilder builder) ∧
      σ.perform (.callRequestBuilder b .build) = σ.callRequestBuilder a builder .build := by
    simp only [perform] at h ⊢
    split at h
    · next a builder hc => exact ⟨a, builder, hc, rfl⟩
    · cases h
  obtain ⟨a, builder, hc, performed⟩ := called
  rw [performed] at h ⊢
  obtain ⟨built, hr, rfl⟩ := exists_of_callRequestBuilder_build h
  exact ⟨built, rfl, standsWhole_of_callRequestBuilder hs hc hr⟩

/-- What requests share, for every request that is built in any run. At every later moment its parts
are those that were built. What is returned for it is of what its value holds at the moment, and
that stays while no container below the value is updated, where no iterator is read. -/
theorem only_values_are_shared (before : Runs initial σ)
    (hb : (σ.perform (.callRequestBuilder b .build)).1 = .ok r)
    (later : Runs (σ.perform (.callRequestBuilder b .build)).2 ω) :
    KeepsParts (σ.perform (.callRequestBuilder b .build)).2.store ω.store r ∧
      ∃ q listed, (σ.perform (.callRequestBuilder b .build)).2.store.cellOf? r =
          some (.request q listed) ∧
        ω.store.cellOf? r = some (.request q listed) ∧
        ω.store.part r "value" = .ok q.value ∧ ω.store.Has q.value ∧ Returns ω r q ∧
        ∀ ψ, ω.store.NoIterators q.value → Leads (fun _ x => x.Spares ω.store q.value) ω ψ →
          ψ.store.cellOf? r = some (.request q listed) ∧
            (ψ.store.payloadOf q).1 = (ω.store.payloadOf q).1 := by
  have given : (Action.callRequestBuilder b .build).Given σ.store := .of_builder? rfl
  have building := before.sound sound_initial
  have built := (steps_perform building given).sound building given
  have sound := later.sound built
  obtain ⟨⟨a, q⟩, rfl, stands⟩ := standsWhole_of_build building hb
  obtain ⟨listed, hc, -⟩ := stands.request
  have hc' := (later.evolves built).cell?_eq hc rfl
  have hv : ω.store.Has q.value := (sound.supports a _ hc').parts _ (by simp [Cell.parts])
  refine ⟨stands.keepsParts (later.evolves built), q, listed, hc, hc', part_of_lookup hc' rfl, hv,
    returns sound hc', fun ψ hi k => ⟨(k.evolves sound).cell?_eq hc' rfl, ?_⟩⟩
  exact payloadOf_eq_of_view (k.view_eq sound hv hi)

/-- A name, an empty mapping, and a builder that was given both. -/
def sharingActions : List Action :=
  [.create (.name plainName), .create (.mapping false []), .create (.requestBuilder (.new .json)),
    .callRequestBuilder (.address 2) (.name (.address 0)),
    .callRequestBuilder (.address 2) (.value (.address 1))]

def sharingSession : Session := sharingActions.foldl (fun σ x => (σ.perform x).2) initial

theorem runs_sharingSession : Runs initial sharingSession := by
  have stored {s : Store} (call : RequestBuilder.Call) :
      (Action.callRequestBuilder (.address 2) call).Given s := .of_builder? rfl
  have named := Leads.start (P := fun _ _ => True) initial |>.step
    (x := .create (.name plainName)) ⟨by simp [Cell.parts], trivial⟩ trivial
  have mapped := named.step (x := .create (.mapping false []))
    ⟨by simp [Cell.parts], trivial⟩ trivial
  have begun := mapped.step (x := .create (.requestBuilder (.new .json)))
    ⟨by simp [Cell.parts], .new _ _⟩ trivial
  have told := begun.step (stored (.name (.address 0))) trivial
  exact told.step (stored (.value (.address 1))) trivial

/-- A mapping that is updated after the request is built shows in the payload. -/
theorem payload_of_updated_value :
    let built := sharingSession.perform (.callRequestBuilder (.address 2) .build)
    let later := (built.2.perform (.setItem (.address 1) (.text "k") (.scalar (.int 1)))).2
    built.1 = .ok (.address 5) ∧ KeepsParts built.2.store later.store (.address 5) ∧
      later.store.part (.address 5) "value" = .ok (.address 1) ∧
      ∃ p, (later.perform (.toPayload (.address 5))).1 = .ok p ∧
        Native ((later.perform (.toPayload (.address 5))).2.store.view p)
          (.object [("overwrite", .bool false), ("name", .text "/a"),
            ("value", .object [("k", .int 1)]), ("type", .text "json")]) ∧
        Snapshot later (later.perform (.toPayload (.address 5))).2 p := by
  intro built later
  have hb : built.1 = .ok (.address 5) := rfl
  have run : Runs built.2 later := by
    refine (Leads.start built.2).step ?_ trivial
    simp [Action.Given, Action.stored, Ref.text, Has]
  obtain ⟨keeps, q, listed, -, hc, hv, -, returned, -⟩ :=
    only_values_are_shared runs_sharingSession hb run
  refine ⟨hb, keeps, rfl, ?_⟩
  have payload := returned.payload
  obtain rfl : q = ⟨.any, false, true, ⟨0, plainName⟩, .json, .address 1, [], true⟩ := by
    cases hc
    rfl
  exact payload

end Session

end CredentialWrite
