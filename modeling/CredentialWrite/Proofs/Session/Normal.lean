import CredentialWrite.Proofs.Payload.Entries
import CredentialWrite.Proofs.Session.Records
import CredentialWrite.Proofs.Session.Sharing

/-!
# Values that a payload leaves as they are

A payload is a native tree. It holds a value that is one already as it is, unless the value is
nothing, for which there is no entry. So what a payload holds is written again as it is by every
later request that is made of it.
-/

namespace CredentialWrite

theorem Native.isNone_eq_false {v : Value} {w : WireJson} (h : Native v w) (hw : w ≠ .null) :
    v.isNone = false := by
  cases h <;> first | rfl | exact absurd rfl hw

namespace Store

theorem payload_of_native {s : Store} {q : StoredRequest} {w : WireJson}
    (h : Native (s.view q.value) w) (hd : w.depth ≤ nestingLimit) (hw : w ≠ .null) :
    (s.readRequest q).payload = .ok (.object ((s.readRequest q).payloadEntries w)) := by
  have read : (s.readRequest q).value = s.view q.value := congrArg Prod.fst (h.readOnce [] [])
  have value : (s.readRequest q).value.isNone = false := by
    rw [read]
    exact h.isNone_eq_false hw
  rw [WriteRequest.payload_eq value, read, h.wire .dropAbsent hd]
  simp only [if_pos hd]

/-- What is seen as a tree of entries is a mapping. -/
theorem exists_mapping_of_native {s : Store} {x : Ref} {fs : List (String × WireJson)}
    (h : Native (s.view x) (.object fs)) :
    ∃ c rs, x = .address c ∧ s.cell? c = some (.mapping false rs) := by
  cases x with
  | scalar y =>
    rw [view, viewBelow_scalar] at h
    cases h
  | address c =>
    obtain ⟨n, hn⟩ := s.exists_depthBound_eq
    rw [view, hn] at h
    obtain ⟨hp, ⟨items, hc⟩ | ⟨rs, hc⟩⟩ := cell?_of_native h
    · rw [viewBelow_list hc hp] at h
      cases h
    · exact ⟨c, rs, rfl, hc⟩

end Store

namespace Session

open Store RequestBuilder

variable {σ τ ω : Session} {p r x : Ref} {q : StoredRequest} {listed : Address} {w : WireJson}

def PayloadValue (σ : Session) (r : Ref) (w : WireJson) : Prop :=
  ∃ p x, (σ.perform (.toPayload r)).1 = .ok p ∧
    (σ.perform (.toPayload r)).2.store.item p (.text "value") = .ok x ∧
    Native ((σ.perform (.toPayload r)).2.store.view x) w

theorem payloadValue_of_native (hr : σ.store.cellOf? r = some (.request q listed))
    (h : Native (σ.store.view q.value) w) (hd : w.depth ≤ nestingLimit) (hw : w ≠ .null) :
    PayloadValue σ r w := by
  have performed := perform_toPayload hr (payload_of_native h hd hw)
  obtain ⟨x, hx, placed⟩ := (placed_place (σ.store.payloadOf q).2 _).exists_item
    ((σ.store.readRequest q).member?_payloadEntries w)
  refine ⟨_, x, by rw [performed], ?_⟩
  rw [performed]
  exact ⟨hx, placed.view h (size_le_depthBound _) (by simp)⟩

theorem sound_toPayload (hs : σ.store.Sound) (r : Ref) :
    (σ.perform (.toPayload r)).2.store.Sound := by
  have given : (Action.toPayload r).Given σ.store := by simp [Action.Given, Action.stored]
  exact (steps_perform hs given).sound hs given

theorem exists_payload_of_toPayload (hr : σ.store.cellOf? r = some (.request q listed))
    (hp : (σ.perform (.toPayload r)).1 = .ok p) : ∃ j, (σ.store.readRequest q).payload = .ok j := by
  cases payload : (σ.store.readRequest q).payload with
  | error fault =>
    rw [perform_toPayload_of_error hr payload] at hp
    cases hp
  | ok j => exact ⟨j, rfl⟩

/-- What a payload holds under a key is a native tree of its own without any iterator. -/
theorem exists_of_item_toPayload (hs : σ.store.Sound)
    (hr : σ.store.cellOf? r = some (.request q listed))
    (hp : (σ.perform (.toPayload r)).1 = .ok p) {key : String}
    (hx : (σ.perform (.toPayload r)).2.store.item p (.text key) = .ok x) :
    ∃ w, Native ((σ.perform (.toPayload r)).2.store.view x) w ∧ w.depth ≤ nestingLimit ∧
      (σ.perform (.toPayload r)).2.store.Has x ∧
      (σ.perform (.toPayload r)).2.store.NoIterators x := by
  obtain ⟨payload, hpayload⟩ := exists_payload_of_toPayload hr hp
  obtain ⟨es, rfl, -, fits⟩ := WriteRequest.exists_of_payload hpayload
  have made := made_toPayload hr hpayload
  have placed := placed_place (σ.store.payloadOf q).2 (.object es)
  have sound := sound_toPayload hs r
  rw [perform_toPayload hr hpayload] at hp hx made sound ⊢
  obtain rfl := Except.ok.inj hp
  obtain ⟨a, rs, w, ha, hc, hm, hw, placed⟩ := placed.of_item hx
  have part : x ∈ (Cell.mapping false rs).parts := List.mem_append_right _ hm
  obtain ⟨v, hv⟩ := ((WriteRequest.wellFormed_payload hpayload).member hw).isNative
  refine ⟨w, placed.view hv (size_le_depthBound _) (by simp), fits _ (Json.mem_of_member? hw),
    (sound.supports a _ hc).parts x part, fun b hb => made.noIterators b ?_⟩
  rw [ha]
  exact .of_part hc part hb

/-- A builder is given a value and builds a request at once, whose payload holds a tree as its
value. -/
structure Builds (ω : Session) (a : Address) (x : Ref) (w : WireJson) : Prop where
  accepted : (ω.perform (.callRequestBuilder (.address a) (.value x))).1 = .ok (.address a)
  built : let given := (ω.perform (.callRequestBuilder (.address a) (.value x))).2
    ∃ r, (given.perform (.callRequestBuilder (.address a) .build)).1 = .ok r ∧
      PayloadValue (given.perform (.callRequestBuilder (.address a) .build)).2 r w

theorem perform_value {b : RequestBuilder} {s : Store} (hk : b.kind = .json) {c : Address}
    {readOnly : Bool} {rs : List (Ref × Ref)} (hc : s.cell? c = some (.mapping readOnly rs)) :
    b.perform s (.value (.address c)) = ⟨.ok none, { b with value := some (.address c) }, s⟩ := by
  have accepted : accepts .json s (.address c) = true := by simp [accepts, cellOf?, hc]
  have set : b.setValue s (.address c) = .ok { b with value := some (.address c) } := by
    simp [setValue, hk, accepted, Ref.isNone]
  simp only [RequestBuilder.perform, set]

/-- A builder with a name and a value builds a request of this value. -/
theorem exists_of_build (hs : ω.store.Sound) {a : Address} {b : RequestBuilder}
    (hb : ω.store.cell? a = some (.requestBuilder b)) {n : Held CredentialName}
    (hn : b.name = some n) (hv : b.value = some x) :
    ∃ r q listed, (ω.perform (.callRequestBuilder (.address a) .build)).1 = .ok r ∧
      (ω.perform (.callRequestBuilder (.address a) .build)).2.store.cellOf? r =
        some (.request q listed) ∧ q.value = x := by
  have coherent : b.Coherent ω.store := (hs.supports a _ hb).holds
  obtain ⟨built, t, hbuild, content, -, -⟩ := coherent.build hn hv
  have result : (b.perform ω.store .build).result = .ok (some built) := by
    rw [result_perform_build, hbuild]
    rfl
  obtain ⟨listed, hr, -⟩ := (standsWhole_of_callRequestBuilder hs hb result).request
  rw [perform_callRequestBuilder hb, result_callRequestBuilder, result]
  exact ⟨built.ref, built.content, listed, rfl, hr, by rw [content]; rfl⟩

theorem builds_of_native (hs : τ.store.Sound) (hx : τ.store.Has x) (hi : τ.store.NoIterators x)
    {fs : List (String × WireJson)} (h : Native (τ.store.view x) (.object fs))
    (hd : (Json.object fs).depth ≤ nestingLimit)
    (k : Leads (fun _ y => y.Spares τ.store x) τ ω) {a : Address} {b : RequestBuilder}
    (hb : ω.store.cell? a = some (.requestBuilder b)) (hk : b.kind = .json)
    {n : Held CredentialName} (hn : b.name = some n) : Builds ω a x (.object fs) := by
  have spares (call : RequestBuilder.Call) :
      (Action.callRequestBuilder (.address a) call).Spares τ.store x := fun _ hu => nomatch hu
  -- Calls on builders update no container, so the value is seen as it was until the end.
  have view := k.view_eq hs hx hi
  obtain ⟨c, rs, rfl, hc⟩ := exists_mapping_of_native (view ▸ h)
  have performed := perform_callRequestBuilder hb (.value (.address c))
  have given := k.step (.of_builder? rfl) (spares (.value (.address c)))
  have holds : (ω.perform (.callRequestBuilder (.address a) (.value (.address c)))).2.store.cell? a =
      some (.requestBuilder { b with value := some (.address c) }) := by
    rw [performed, store_callRequestBuilder, perform_value hk hc]
    exact cell?_update_self (lt_size_of_cell? hb)
  refine ⟨?_, ?_⟩
  · rw [performed, result_callRequestBuilder, perform_value hk hc]
    rfl
  · obtain ⟨r, q, listed, hr, hq, hv⟩ := exists_of_build (given.sound hs) holds hn rfl
    have built := given.step (.of_builder? rfl) (spares .build)
    refine ⟨r, hr, payloadValue_of_native hq ?_ hd nofun⟩
    rw [hv, built.view_eq hs hx hi]
    exact h

/-- Every payload is a native tree, and it holds a native value of at most 254 containers in each
other as it is, if that is not nothing. So the same stands in the payload of every later request
for a mapping that a payload holds, and a builder for JSON makes one of it. -/
theorem payload_is_native_and_keeps_native (before : Runs initial σ)
    (hr : σ.store.cellOf? r = some (.request q listed)) :
    (∀ p, (σ.perform (.toPayload r)).1 = .ok p →
      ∃ j, Native ((σ.perform (.toPayload r)).2.store.view p) j) ∧
    (∀ w, Native (σ.store.view q.value) w → w.containers ≤ 254 → w ≠ .null →
      PayloadValue σ r w) ∧
    ∀ p x, (σ.perform (.toPayload r)).1 = .ok p →
      (σ.perform (.toPayload r)).2.store.item p (.text "value") = .ok x →
      (∃ w, Native ((σ.perform (.toPayload r)).2.store.view x) w) ∧
      ∀ fs, Native ((σ.perform (.toPayload r)).2.store.view x) (.object fs) →
      ∀ ω, Leads (fun _ y => y.Spares (σ.perform (.toPayload r)).2.store x)
        (σ.perform (.toPayload r)).2 ω →
      (∀ r' q' listed', ω.store.cellOf? r' = some (.request q' listed') → q'.value = x →
        PayloadValue ω r' (.object fs)) ∧
      ∀ a b, ω.store.cell? a = some (.requestBuilder b) → b.kind = .json → b.name.isSome →
        Builds ω a x (.object fs) := by
  have sound := before.sound sound_initial
  have read := sound_toPayload sound r
  refine ⟨fun p hp => ?_, fun w hw hc hn => ?_, fun p x hp hx => ?_⟩
  · have returned := toPayload_returns sound hr
    obtain ⟨j, hj⟩ := exists_payload_of_toPayload hr hp
    rw [hj] at returned
    obtain ⟨p', hp', native, -⟩ := returned
    obtain rfl := Except.ok.inj (hp.symm.trans hp')
    exact ⟨j, native⟩
  · exact payloadValue_of_native hr hw (Json.depth_le_nestingLimit hc) hn
  · obtain ⟨w, hw, hd, has, still⟩ := exists_of_item_toPayload sound hr hp hx
    refine ⟨⟨w, hw⟩, fun fs hfs ω k => ?_⟩
    obtain rfl := hw.unique hfs
    refine ⟨fun r' q' listed' hr' hv => ?_, fun a b hb hk hn => ?_⟩
    · refine payloadValue_of_native hr' ?_ hd nofun
      rw [hv, k.view_eq read has still]
      exact hw
    · obtain ⟨n, hn⟩ := Option.isSome_iff_exists.mp hn
      exact builds_of_native read has still hw hd k hb hk hn

/-- A request is built of a mapping that holds nothing under a key. -/
def hollowSession : Session :=
  ((sharingSession.perform (.setItem (.address 1) (.text "k") .none)).2.perform
    (.callRequestBuilder (.address 2) .build)).2

/-- The mapping in the payload is given to the same builder. -/
theorem payload_of_hollow_mapping :
    let read := hollowSession.perform (.toPayload (.address 5))
    let w : WireJson := .object [("k", .null)]
    hollowSession.store.view (.address 1) = .mapping 1 false [(.scalar (.text "k"), .scalar .none)] ∧
      PayloadValue hollowSession (.address 5) w ∧
      ∃ p x, read.1 = .ok p ∧ (∃ j, Native (read.2.store.view p) j) ∧
        read.2.store.item p (.text "value") = .ok x ∧ Builds read.2 2 x w := by
  intro read w
  have updated : Runs initial
      (sharingSession.perform (.setItem (.address 1) (.text "k") .none)).2 := by
    refine runs_sharingSession.step ?_ trivial
    simp [Action.Given, Action.stored, Ref.text, Ref.none, Has]
  have run : Runs initial hollowSession := updated.step (.of_builder? rfl) trivial
  obtain ⟨native, keeps, again⟩ := payload_is_native_and_keeps_native (r := .address 5) run rfl
  have seen : hollowSession.store.view (.address 1) =
      .mapping 1 false [(.scalar (.text "k"), .scalar .none)] := rfl
  have tree : Native (hollowSession.store.view (.address 1)) w := by
    rw [seen]
    exact .mapping 1 (.cons "k" .none .nil) (by simp)
  have filled : w ≠ .null := by simp [w]
  obtain ⟨p, x, hp, hx, hw⟩ := keeps w tree (by decide) filled
  obtain ⟨-, later⟩ := again p x hp hx
  exact ⟨seen, ⟨p, x, hp, hx, hw⟩, p, x, hp, native p hp, hx,
    (later _ hw _ (.start _)).2 2 _ rfl rfl rfl⟩

/-- A request can be made of nothing, which is native, but then its payload has no value. -/
theorem payload_of_nothing_has_no_value :
    let fields := [("credential_name", .address 0),
      ("value_type", .scalar (.member (.kind .value))), ("value", .none)]
    ∃ (r : Held StoredRequest) (s : Store) (listed : Address) (p : Ref),
      (Store.mk #[.name plainName]).makeRequest .any fields = (.ok r, s) ∧
      s.cellOf? r.ref = some (.request r.content listed) ∧
      Native (s.view r.content.value) .null ∧ (Json.null : WireJson).containers ≤ 254 ∧
      (({ initial with store := s } : Session).perform (.toPayload r.ref)).1 = .ok p ∧
      ∀ x, (({ initial with store := s } : Session).perform (.toPayload r.ref)).2.store.item p
        (.text "value") ≠ .ok x := by
  refine ⟨_, _, _, _, rfl, rfl, .none, by decide, rfl, fun x hx => ?_⟩
  cases hx

end Session

end CredentialWrite
