import CredentialWrite.Proofs.Payload.Sameness
import CredentialWrite.Proofs.Payload.Schema
import CredentialWrite.Proofs.Store.Placement

/-!
# Payloads tell requests apart

Two requests that were built are equal exactly when their payloads are, whatever builders, names
and permissions they come from, if the values of requests for JSON are native and no deeper than
may be written. Reading the payloads neither fails nor changes anything, and the payloads are
compared as the new objects that they become.
-/

namespace CredentialWrite

def Json.IsNative (j : WireJson) : Prop := ∃ v, Native v j

namespace Json

theorem isNative_text (t : String) : IsNative (.text t) := ⟨_, .text t⟩

theorem isNative_array {js : List WireJson} (h : ∀ j ∈ js, IsNative j) : IsNative (.array js) := by
  have hs : ∃ vs, NativeItems vs js := by
    induction js with
    | nil => exact ⟨_, .nil⟩
    | cons j rest ih =>
      obtain ⟨v, hv⟩ := h j List.mem_cons_self
      obtain ⟨vs, hvs⟩ := ih fun k hk => h k (List.mem_cons_of_mem j hk)
      exact ⟨_, .cons hv hvs⟩
  obtain ⟨vs, hvs⟩ := hs
  exact ⟨_, .list 0 hvs⟩

theorem isNative_object {fs : List (String × WireJson)} (hn : (fs.map Prod.fst).Nodup)
    (h : ∀ f ∈ fs, IsNative f.2) : IsNative (.object fs) := by
  have hs : ∃ es, NativeEntries es fs := by
    clear hn
    induction fs with
    | nil => exact ⟨_, .nil⟩
    | cons f rest ih =>
      obtain ⟨v, hv⟩ := h f List.mem_cons_self
      obtain ⟨es, hes⟩ := ih fun g hg => h g (List.mem_cons_of_mem f hg)
      exact ⟨_, .cons f.1 hv hes⟩
  obtain ⟨es, hes⟩ := hs
  exact ⟨_, .mapping 0 hes hn⟩

theorem isNative_presentFields {fields : List (String × Slot)}
    (hn : (fields.map Prod.fst).Nodup) : IsNative (.object (presentFields fields)) := by
  refine isNative_object (nodup_keys_presentFields hn) ?_
  intro entry he
  obtain ⟨t, ht⟩ := exists_text_of_mem_presentFields he
  rw [ht]
  exact isNative_text t

theorem isNative_permissionWire (p : Permission) : IsNative (Value.permissionWire p) := by
  refine isNative_object (by simp) ?_
  intro entry he
  rcases List.mem_pair.mp he with rfl | rfl
  · exact isNative_text _
  · refine isNative_array fun j hj => ?_
    obtain ⟨o, -, rfl⟩ := List.mem_map.mp hj
    exact isNative_text _

theorem isNative_payload (r : WriteRequest CredentialName Permission Value) {w : WireJson}
    (hw : IsNative w) : IsNative (.object (r.payloadEntries w)) := by
  have hl : IsNative (.array (r.permissions.map Value.permissionWire)) := by
    refine isNative_array fun j hj => ?_
    obtain ⟨p, -, rfl⟩ := List.mem_map.mp hj
    exact isNative_permissionWire p
  unfold WriteRequest.payloadEntries
  refine isNative_object ?_ ?_
  · split <;> simp
  · have hb : IsNative (.bool r.overwrite) := ⟨_, .bool _⟩
    split <;> simp [hb, hw, hl, isNative_text]

end Json

inductive Written : CredentialKind → Value → WireJson → Prop
  | native {kind : CredentialKind} {x : Value} {w : WireJson} (h : Native x w)
      (hc : w.containers ≤ 254) (hk : ∀ c : Credential, c.kind? ≠ some kind) : Written kind x w
  | record {kind : CredentialKind} (a : Address) (c : Credential) (h : c.kind? = some kind) :
      Written kind (.record a (.credential c)) (.object (presentFields c.fields))

theorem Credential.kind?_ne {kind : CredentialKind}
    (h : kind = .value ∨ kind = .password ∨ kind = .json) (c : Credential) :
    c.kind? ≠ some kind := by
  rcases h with rfl | rfl | rfl
  all_goals
    cases c with
    | keyPair c => cases hs : c.scheme <;> simp [kind?, hs]
    | _ => simp [kind?]

theorem Shaped.written {kind : CredentialKind} {x : Value} (h : Shaped kind x)
    (hj : kind = .json → ∃ j, Native x j ∧ j.containers ≤ 254) : ∃ w, Written kind x w := by
  cases h with
  | value t => exact ⟨_, .native (.text t) (Nat.zero_le 254) (Credential.kind?_ne (by simp))⟩
  | password t h => exact ⟨_, .native (.text t) (Nat.zero_le 254) (Credential.kind?_ne (by simp))⟩
  | json a readOnly entries =>
    obtain ⟨j, hn, hc⟩ := hj rfl
    exact ⟨j, .native hn hc (Credential.kind?_ne (by simp))⟩
  | user a c => exact ⟨_, .record a _ rfl⟩
  | certificate a c => exact ⟨_, .record a _ rfl⟩
  | rsa a c h => exact ⟨_, .record a _ (by simp [Credential.kind?, h])⟩
  | ssh a c h => exact ⟨_, .record a _ (by simp [Credential.kind?, h])⟩

namespace Written

variable {kind : CredentialKind} {x y : Value} {w z : WireJson}

theorem hasLoop (h : Written kind x w) : x.hasLoop = false := by
  cases h with
  | native h _ _ => exact h.hasLoop
  | record a c h => rfl

theorem readOnce (h : Written kind x w) (inside read : List Address) :
    x.readOnce inside read = (x, read) := by
  cases h with
  | native h _ _ => exact h.readOnce inside read
  | record a c h => rfl

theorem takes (h : Written kind x w) : x.takes .dropAbsent nestingLimit = [] := by
  cases h with
  | native h _ _ => exact h.takes .dropAbsent nestingLimit
  | record a c h => rfl

theorem depth (h : Written kind x w) : w.depth ≤ nestingLimit := by
  cases h with
  | native h hc _ => exact Json.depth_le_nestingLimit hc
  | record a c h => exact Nat.le_trans (depth_presentFields c.fields) (by decide)

theorem wire (h : Written kind x w) : x.wire .dropAbsent nestingLimit = .ok w := by
  cases h with
  | native h hc hk => exact h.wire .dropAbsent (Written.native h hc hk).depth
  | record a c h => exact congrArg Except.ok (recordWire_credential c)

theorem isNative (h : Written kind x w) : w.IsNative := by
  cases h with
  | native h _ _ => exact ⟨x, h⟩
  | record a c h => exact Json.isNative_presentFields c.nodup_fields

/-- Values of one kind are equal when what is written of them is. -/
theorem same (h : Written kind x w) (k : Written kind y z) : x.same y = w.same z := by
  cases h with
  | native h _ hk =>
    cases k with
    | native k _ _ => exact h.same k
    | record b d k => exact absurd k (hk d)
  | record a c h =>
    cases k with
    | native _ _ hk => exact absurd h (hk c)
    | record b d k =>
      exact (Credential.same_presentFields (by rw [h]; rfl) (k.trans h.symm)).symm

end Written

/-- What a value of a kind shows does not depend on the fuel, once there is enough of it. -/
theorem Fits.viewBelow_eq {s : Store} {kind : CredentialKind} {v : Ref} (h : Fits s kind v)
    (hj : kind = .json → ∃ j, Native (s.view v) j) {n : Nat} (hn : s.cells.size < n) :
    s.viewBelow n [] v = s.view v := by
  obtain ⟨m, hm⟩ := s.exists_depthBound_eq
  obtain ⟨n, rfl⟩ : ∃ k, n = k + 1 := ⟨n - 1, by omega⟩
  cases h with
  | value t => rw [Store.view, Ref.text, Store.viewBelow_scalar, Store.viewBelow_scalar]
  | password t h => rw [Store.view, Ref.text, Store.viewBelow_scalar, Store.viewBelow_scalar]
  | json h =>
    obtain ⟨j, hj⟩ := hj rfl
    exact Store.viewBelow_of_native hj List.nodup_nil (by simp) (by simpa using hn)
  | user h => simp only [Store.view, hm, Store.viewBelow, h]
  | certificate h => simp only [Store.view, hm, Store.viewBelow, h]
  | rsa h _ => simp only [Store.view, hm, Store.viewBelow, h]
  | ssh h _ => simp only [Store.view, hm, Store.viewBelow, h]

namespace RequestBuilder

/-- A value that JSON has words for, in no more containers than may be written. -/
def HoldsNative (s : Store) (v : Ref) : Prop := ∃ j, Native (s.view v) j ∧ j.containers ≤ 254

section Sound

variable {kind : CredentialKind} {es : List Event} {s : Store} {r : Held StoredRequest}

theorem Sound.view_eq (h : Sound kind es s r)
    (hj : kind = .json → HoldsNative s r.content.value) :
    s.view r.ref = .request r.address (s.viewRequest r.content) := by
  obtain ⟨listed, hc⟩ := h.cell
  have hs : 0 < s.cells.size := Nat.zero_lt_of_lt (Store.lt_size_of_cell? hc)
  have hv : s.viewBelow ((s.cells.size + 1) * s.cells.size + s.cells.size) [] r.content.value =
      s.view r.content.value := by
    refine h.value.viewBelow_eq (fun hk => (hj hk).imp fun j hn => hn.1) ?_
    have hm : 0 < (s.cells.size + 1) * s.cells.size := Nat.mul_pos (Nat.succ_pos _) hs
    omega
  have hd : s.depthBound = (s.cells.size + 1) * s.cells.size + s.cells.size + 1 := rfl
  rw [Held.ref, Store.view, hd]
  simp only [Store.viewBelow, hc, Store.viewRequest, WriteRequest.map, hv]

theorem Sound.written (h : Sound kind es s r)
    (hj : kind = .json → HoldsNative s r.content.value) :
    ∃ w, Written kind (s.view r.content.value) w :=
  h.value.view.written hj

/-- A payload is written without a fault, and reading it takes nothing from the store. -/
theorem Sound.payloadOf_eq (h : Sound kind es s r) {w : WireJson}
    (hw : Written kind (s.view r.content.value) w) :
    s.payloadOf r.content = (.ok (.object ((s.viewRequest r.content).payloadEntries w)), s) := by
  have hv : (s.viewRequest r.content).value = s.view r.content.value := rfl
  rw [Store.payloadOf_of_still (hw.readOnce [] []) hw.takes,
    WriteRequest.payload_eq (by rw [hv]; exact h.value.view.isNone), hv, hw.wire]
  simp only [if_pos hw.depth]

end Sound

theorem equalOf_requests {s : Store} {a b : Address}
    {q q' : WriteRequest CredentialName Permission Value} (ha : s.view (.address a) = .request a q)
    (hb : s.view (.address b) = .request b q') (hq : q.value.hasLoop = false)
    (hq' : q'.value.hasLoop = false) :
    s.equalOf (.address a) (.address b) = .ok (decide (q.overwrite = q'.overwrite) &&
      q.name.same q'.name && decide (q.kind = q'.kind) && q.value.same q'.value &&
        decide (q.permissions = q'.permissions)) := by
  rw [Store.equalOf_of_hasLoop (by rw [ha]; exact hq) (by rw [hb]; exact hq'), ha, hb]
  rfl

theorem equalOf_objects {s : Store} {r t : Ref} {fs gs : List (String × WireJson)}
    (hr : Native (s.view r) (.object fs)) (ht : Native (s.view t) (.object gs)) :
    s.equalOf r t = .ok ((Json.object fs).same (.object gs)) := by
  have he : (s.view r).equal (s.view t) = (s.view r).same (s.view t) := by
    generalize s.view r = x at hr
    cases hr with
    | mapping a _ _ => rfl
  rw [Store.equalOf_of_hasLoop hr.hasLoop ht.hasLoop, he, hr.same ht]

/-- Requests that were built have payloads, and are equal exactly when these are. -/
theorem payloads_equal_as_requests {ka kb : CredentialKind} {ea eb : List Event} {s : Store}
    {a b : Held StoredRequest} (ha : Built ka ea s a) (hb : Built kb eb s b)
    (na : ka = .json → HoldsNative s a.content.value)
    (nb : kb = .json → HoldsNative s b.content.value) :
    ∃ j k equal, s.payloadOf a.content = (.ok j, s) ∧ s.payloadOf b.content = (.ok k, s) ∧
      s.equalOf a.ref b.ref = .ok equal ∧
      let x := s.place (.ofWire j)
      let y := x.2.place (.ofWire k)
      y.2.equalOf x.1 y.1 = .ok equal := by
  have sa := ha.sound
  have sb := hb.sound
  obtain ⟨w, hw⟩ := sa.written na
  obtain ⟨z, hz⟩ := sb.written nb
  obtain ⟨v, hv⟩ := Json.isNative_payload (s.viewRequest a.content) hw.isNative
  obtain ⟨u, hu⟩ := Json.isNative_payload (s.viewRequest b.content) hz.isNative
  obtain ⟨hx, hy⟩ := Store.native_view_place (s := s) hv hu
  have hr := equalOf_requests (sa.view_eq na) (sb.view_eq nb) hw.hasLoop hz.hasLoop
  refine ⟨_, _, _, sa.payloadOf_eq hw, sb.payloadOf_eq hz, hr, ?_⟩
  intro x y
  rw [equalOf_objects hx hy, WriteRequest.same_payloadEntries]
  -- Values of different kinds may be written alike, but then the kinds tell the requests apart.
  by_cases hk : ka = kb
  · subst hk
    have hs : (s.viewRequest a.content).value.same (s.viewRequest b.content).value = w.same z :=
      hw.same hz
    rw [hs]
  · have hne : (s.viewRequest a.content).kind ≠ (s.viewRequest b.content).kind := by
      intro h
      exact hk (sa.kind.symm.trans (h.trans sb.kind))
    rw [decide_eq_false hne]
    simp only [Bool.and_false, Bool.false_and]

/-- Two mappings with equal entries in two orders, and two names of one path. -/
def mappingStore : Store :=
  ⟨#[.mapping false [(.text "a", .scalar (.int 1)), (.text "b", .address 1)],
    .sequence .list [.bool true, .none],
    .mapping false [(.text "b", .address 3), (.text "a", .bool true)],
    .sequence .list [.scalar (.int 1), .none],
    .name plainName, .name { plainName with scheme := .simple }]⟩

theorem equal_payloads_of_mappings :
    ∃ ea eb s a b j k, Built .json ea s a ∧ Built .json eb s b ∧
      s.payloadOf a.content = (.ok j, s) ∧ s.payloadOf b.content = (.ok k, s) ∧
      s.equalOf a.ref b.ref = .ok true ∧
      let x := s.place (.ofWire j)
      let y := x.2.place (.ofWire k)
      y.2.equalOf x.1 y.1 = .ok true := by
  have hf := history_play .json mappingStore [.name (.address 4), .value (.address 0)]
  have hs := history_play .json mappingStore
    [.name (.address 4), .value (.address 0), .build, .name (.address 5), .value (.address 2)]
  have ha : Built .json _ _ ⟨8, _⟩ := ⟨_, _, hf, rfl, hs.coherent.evolves_perform .build⟩
  have hb : Built .json _ _ ⟨11, _⟩ := ⟨_, _, hs, rfl, .refl _⟩
  have na : Native (.mapping 0 false [(.scalar (.text "a"), .scalar (.int 1)),
      (.scalar (.text "b"), .sequence 1 .list [.scalar (.bool true), .scalar .none])]) _ :=
    .mapping 0 (.cons "a" (.int 1) (.cons "b" (.list 1 (.cons (.bool true) (.cons .none .nil)))
      .nil)) (by simp)
  have nb : Native (.mapping 2 false [(.scalar (.text "b"), .sequence 3 .list
      [.scalar (.int 1), .scalar .none]), (.scalar (.text "a"), .scalar (.bool true))]) _ :=
    .mapping 2 (.cons "b" (.list 3 (.cons (.int 1) (.cons .none .nil))) (.cons "a" (.bool true)
      .nil)) (by simp)
  obtain ⟨j, k, equal, hj, hk, he, hp⟩ := payloads_equal_as_requests ha hb
    (fun _ => ⟨_, na, by decide⟩) (fun _ => ⟨_, nb, by decide⟩)
  obtain rfl : equal = true := Except.ok.inj (he.symm.trans rfl)
  exact ⟨_, _, _, _, _, j, k, ha, hb, hj, hk, he, hp⟩

end RequestBuilder

end CredentialWrite
