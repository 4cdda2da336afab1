import CredentialWrite.Proofs.Request.History
import CredentialWrite.Proofs.Value.Hashing

/-!
# Hashes of requests

Requests that are equal have one hash, whatever trees their values are, as long as both can be
hashed. A request cannot be hashed exactly when its value holds a buffer: then the failure names
the class of buffers, and there is no other failure.
-/

namespace CredentialWrite

namespace Value

variable {H : Hashing} {x : Value}

/-- A buffer stands in a value where hashing by content comes to it. -/
inductive HoldsBuffer : Value → Prop
  | buffer (a : Address) (content : List UInt8) : HoldsBuffer (.buffer a content)
  | item (a : Address) (shape : SequenceShape) {items : List Value} {x : Value} (hx : x ∈ items)
      (h : HoldsBuffer x) : HoldsBuffer (.sequence a shape items)
  | element (a : Address) {items : List Value} {x : Value} (hx : x ∈ items)
      (h : HoldsBuffer x) : HoldsBuffer (.set a items)
  | value (a : Address) (readOnly : Bool) {entries : List (Value × Value)} {e : Value × Value}
      (he : e ∈ entries) (h : HoldsBuffer e.2) : HoldsBuffer (.mapping a readOnly entries)
  | request (a : Address) {q : WriteRequest CredentialName Permission Value}
      (h : HoldsBuffer q.value) : HoldsBuffer (.request a q)

theorem IsKey.not_holdsBuffer (h : IsKey x) : ¬ HoldsBuffer x := by
  intro hb
  cases h with
  | scalar s => cases hb
  | tuple a ss =>
    cases hb with
    | item _ _ hx hb =>
      obtain ⟨s, -, rfl⟩ := List.mem_map.mp hx
      cases hb
  | record a r => cases hb

inductive Hashed (H : Hashing) (x : Value) : Prop
  | refused (h : HoldsBuffer x) (e : contentHash H x = .error (.unhashable "bytearray"))
  | done (h : ¬ HoldsBuffer x) (e : ∃ k, contentHash H x = .ok k)

theorem contentHashItems_hashed {items : List Value} (h : ∀ x ∈ items, Hashed H x) :
    (∃ x ∈ items, HoldsBuffer x) ∧
        contentHashItems H items = .error (.unhashable "bytearray") ∨
      (∀ x ∈ items, ¬ HoldsBuffer x) ∧ ∃ hs, contentHashItems H items = .ok hs := by
  induction items with
  | nil => exact .inr ⟨by simp, [], rfl⟩
  | cons x rest ih =>
    rw [contentHashItems]
    rcases h x List.mem_cons_self with ⟨hb, e⟩ | ⟨hb, k, e⟩
    · exact .inl ⟨⟨x, List.mem_cons_self, hb⟩, by rw [e]; rfl⟩
    · rcases ih fun y hy => h y (List.mem_cons_of_mem x hy) with ⟨⟨y, hy, hyb⟩, er⟩ | ⟨hr, ks, er⟩
      · exact .inl ⟨⟨y, List.mem_cons_of_mem x hy, hyb⟩, by rw [e, er]; rfl⟩
      · exact .inr ⟨List.forall_mem_cons.mpr ⟨hb, hr⟩, k :: ks, by rw [e, er]; rfl⟩

theorem contentHashEntries_hashed {entries : List (Value × Value)}
    (keys : ∀ e ∈ entries, IsKey e.1) (h : ∀ e ∈ entries, Hashed H e.2) :
    (∃ e ∈ entries, HoldsBuffer e.2) ∧
        contentHashEntries H entries = .error (.unhashable "bytearray") ∨
      (∀ e ∈ entries, ¬ HoldsBuffer e.2) ∧ ∃ hs, contentHashEntries H entries = .ok hs := by
  induction entries with
  | nil => exact .inr ⟨by simp, [], rfl⟩
  | cons e rest ih =>
    obtain ⟨k, hk⟩ := (keys e List.mem_cons_self).exists_hash (H := H)
    rw [contentHashEntries]
    rcases h e List.mem_cons_self with ⟨hb, he⟩ | ⟨hb, v, he⟩
    · exact .inl ⟨⟨e, List.mem_cons_self, hb⟩, by rw [he]; rfl⟩
    · rcases ih (fun f hf => keys f (List.mem_cons_of_mem e hf))
        fun f hf => h f (List.mem_cons_of_mem e hf) with ⟨⟨f, hf, hfb⟩, er⟩ | ⟨hr, ks, er⟩
      · exact .inl ⟨⟨f, List.mem_cons_of_mem e hf, hfb⟩, by rw [he, hk, er]; rfl⟩
      · exact .inr ⟨List.forall_mem_cons.mpr ⟨hb, hr⟩, H.sequence [k, H.int v] :: ks,
          by rw [he, hk, er]; rfl⟩

/-- On trees, hashing by content is refused for buffers alone. -/
theorem IsTree.hashed (h : IsTree x) : Hashed H x := by
  induction h with
  | scalar s => exact .done (fun h => by cases h) ⟨_, rfl⟩
  | buffer a content => exact .refused (.buffer a content) rfl
  | sequence a shape _ ih =>
    rcases contentHashItems_hashed ih with ⟨⟨x, hx, hb⟩, e⟩ | ⟨hn, hs, e⟩
    · exact .refused (.item a shape hx hb) (by rw [contentHash, e]; rfl)
    · refine .done ?_ ⟨_, by rw [contentHash, e]; rfl⟩
      rintro (_ | ⟨_, _, hx, hb⟩)
      exact hn _ hx hb
  | set a keys _ =>
    have hk := fun x hx =>
      Hashed.done (H := H) (keys x hx).not_holdsBuffer (keys x hx).exists_contentHash
    rcases contentHashItems_hashed hk with ⟨⟨x, hx, hb⟩, -⟩ | ⟨hn, hs, e⟩
    · exact absurd hb (keys x hx).not_holdsBuffer
    · refine .done ?_ ⟨_, by rw [contentHash, e]; rfl⟩
      rintro (_ | _ | ⟨_, hx, hb⟩)
      exact hn _ hx hb
  | mapping a readOnly keys _ _ ih =>
    rcases contentHashEntries_hashed keys ih with ⟨⟨e, he, hb⟩, er⟩ | ⟨hn, hs, er⟩
    · exact .refused (.value a readOnly he hb) (by rw [contentHash, er]; rfl)
    · refine .done ?_ ⟨_, by rw [contentHash, er]; rfl⟩
      rintro (_ | _ | _ | ⟨_, _, he, hb⟩)
      exact hn _ he hb
  | record a r => exact .done (fun h => by cases h) ⟨_, rfl⟩
  | request a _ ih =>
    rcases ih with ⟨hb, e⟩ | ⟨hb, k, e⟩
    · exact .refused (.request a hb) (by rw [contentHash, e]; rfl)
    · refine .done ?_ ⟨_, by rw [contentHash, e]; rfl⟩
      rintro (_ | _ | _ | _ | ⟨_, h⟩)
      exact hb h

end Value

namespace Store

variable {H : Hashing} {s : Store} {a b : Ref} {x y : Address}
  {p q : WriteRequest CredentialName Permission Value}

theorem equalOf_requests (ha : s.view a = .request x p) (hb : s.view b = .request y q)
    (hp : p.value.IsTree) (hq : q.value.IsTree) :
    s.equalOf a b = .ok ((Value.request x p).same (.request y q)) := by
  rw [equalOf_of_hasLoop (by rw [ha]; exact hp.hasLoop) (by rw [hb]; exact hq.hasLoop), ha, hb]
  rfl

theorem hashOf_request (ha : s.view a = .request x p) :
    s.hashOf H a = ((Value.request x p).contentHash H).mapError .unhashable := by
  have hh : (Value.request x p).hash H = (Value.request x p).contentHash H := rfl
  rw [hashOf, ha, hh]
  cases (Value.request x p).contentHash H <;> rfl

/-- Equal requests hash alike, whatever trees their values are and however scalars hash, as long as
equal ones do. A request cannot be hashed exactly when its value holds a buffer. -/
theorem equal_requests_hash_alike (L : H.Lawful) (ha : s.view a = .request x p)
    (hb : s.view b = .request y q) (hp : p.value.IsTree) (hq : q.value.IsTree) :
    (s.equalOf a b = .ok true →
      ∀ h k, s.hashOf H a = .ok h → s.hashOf H b = .ok k → h = k) ∧
    (s.hashOf H a = .error (.unhashable (.unhashable "bytearray")) ↔ p.value.HoldsBuffer) ∧
    ((∃ h, s.hashOf H a = .ok h) ↔ ¬ p.value.HoldsBuffer) := by
  have tree : (Value.request x p).IsTree := .request x hp
  have hold : (Value.request x p).HoldsBuffer ↔ p.value.HoldsBuffer :=
    ⟨fun h => by cases h; assumption, .request x⟩
  rw [hashOf_request ha, hashOf_request hb, equalOf_requests ha hb hp hq, ← hold]
  refine ⟨?_, ?_⟩
  · intro heq h k hh hk
    refine tree.contentHash_eq L (.request y hq) (Except.ok.inj heq) ?_ ?_
    · cases hc : (Value.request x p).contentHash H <;> simp_all [Except.mapError]
    · cases hc : (Value.request y q).contentHash H <;> simp_all [Except.mapError]
  · rcases tree.hashed (H := H) with ⟨hb, e⟩ | ⟨hb, k, e⟩
    · simp [e, hb, Except.mapError]
    · simp [e, hb, Except.mapError]

/-- Two names of one path, and values that are equal though the second is read-only, has its entries
in another order and numbers of other classes, and is kept in another request. -/
def twinStore : Store :=
  ⟨#[.name RequestBuilder.plainName, .name { RequestBuilder.plainName with scheme := .serviceInstance },
    .sequence .list [.scalar (.int 1), .bool false],
    .sequence .list [.scalar (.float (Binary64.ofRatio false 1 1) 0), .scalar (.int 0)],
    .mapping false [(.text "a", .address 2), (.scalar (.int 1), .text "x")],
    .mapping true [(.bool true, .text "x"), (.text "a", .address 3)],
    .sequence .tuple [],
    .request ⟨.any, true, true, ⟨0, RequestBuilder.plainName⟩, .json, .address 4, [], true⟩ 6,
    .request ⟨.text, true, true, ⟨1, { RequestBuilder.plainName with scheme := .serviceInstance }⟩,
      .json, .address 5, [], false⟩ 6]⟩

theorem twins_hash_alike :
    ∃ p q, twinStore.view (.address 7) = .request 7 p ∧ twinStore.view (.address 8) = .request 8 q ∧
      p.value.IsTree ∧ q.value.IsTree ∧ twinStore.equalOf (.address 7) (.address 8) = .ok true ∧
        ∃ h, twinStore.hashOf .standard (.address 7) = .ok h ∧
          twinStore.hashOf .standard (.address 8) = .ok h := by
  have first : (twinStore.viewRequest
      ⟨.any, true, true, ⟨0, RequestBuilder.plainName⟩, .json, .address 4, [], true⟩).value.IsTree :=
    .mapping 4 false
      (List.forall_mem_cons.mpr ⟨.scalar _, List.forall_mem_singleton.mpr (.scalar _)⟩)
      (by decide +kernel)
      (List.forall_mem_cons.mpr ⟨.sequence 2 .list
        (List.forall_mem_cons.mpr ⟨.scalar _, List.forall_mem_singleton.mpr (.scalar _)⟩),
        List.forall_mem_singleton.mpr (.scalar _)⟩)
  have second : (twinStore.viewRequest ⟨.text, true, true,
      ⟨1, ⟨.serviceInstance, "/a", by decide⟩⟩, .json, .address 5, [], false⟩).value.IsTree :=
    .mapping 5 true
      (List.forall_mem_cons.mpr ⟨.scalar _, List.forall_mem_singleton.mpr (.scalar _)⟩)
      (by decide +kernel)
      (List.forall_mem_cons.mpr ⟨.scalar _, List.forall_mem_singleton.mpr (.sequence 3 .list
        (List.forall_mem_cons.mpr ⟨.scalar _, List.forall_mem_singleton.mpr (.scalar _)⟩))⟩)
  have equal : twinStore.equalOf (.address 7) (.address 8) = .ok true := by decide +kernel
  have alike := (equal_requests_hash_alike Hashing.standard_lawful (s := twinStore)
    (a := .address 7) (b := .address 8) rfl rfl first second).1
  obtain ⟨h, hh⟩ : ∃ h, twinStore.hashOf .standard (.address 7) = .ok h := ⟨_, rfl⟩
  obtain ⟨k, hk⟩ : ∃ k, twinStore.hashOf .standard (.address 8) = .ok k := ⟨_, rfl⟩
  refine ⟨_, _, rfl, rfl, first, second, equal, h, hh, ?_⟩
  rw [alike equal h k hh hk, hk]

end Store

end CredentialWrite
