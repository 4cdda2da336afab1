import CredentialWrite.Proofs.Outcome
import CredentialWrite.Proofs.Value.Equivalence
import CredentialWrite.Session.Lookup
import Mathlib.Algebra.BigOperators.Group.List.Basic
import Mathlib.Data.List.Perm.Basic

/-!
# Hashes of equal values

Hashing by content keeps equal trees together: the hash of a collection does not depend on its
order, and equal collections have their elements in pairs, because no two elements of one are
equal. Equality of requests leaves out nothing that their hash counts. What has no hash is a buffer
alone, wherever hashing by content comes to it.
-/

namespace CredentialWrite

/-- A way of hashing that keeps equal scalars together and knows no order of collections. -/
structure Hashing.Lawful (H : Hashing) : Prop where
  scalar : ∀ s t : Scalar, s.equal t = true → H.scalar s = H.scalar t
  collection : ∀ hs ks : List Int, hs.Perm ks → H.collection hs = H.collection ks

theorem Hashing.standard_lawful : Hashing.standard.Lawful where
  scalar _ _ h := Scalar.scalarHash_of_equal h
  collection _ _ h := h.sum_eq

section Partners

variable {α β : Type} {P : α → β → Prop} {R : α → α → Prop} {xs ys : List α}

theorem eq_of_pairs {hs ks : List β} (pairs : List.Forall₂ R xs ys) (hx : List.Forall₂ P xs hs)
    (hy : List.Forall₂ P ys ks)
    (told : ∀ x ∈ xs, ∀ y ∈ ys, R x y → ∀ h k, P x h → P y k → h = k) : hs = ks := by
  induction pairs generalizing hs ks with
  | nil =>
    cases hx
    cases hy
    rfl
  | @cons x y xs ys hxy _ ih =>
    cases hx with
    | cons hxh hxs =>
      cases hy with
      | cons hyk hys =>
        rw [told x List.mem_cons_self y List.mem_cons_self hxy _ _ hxh hyk, ih hxs hys
          fun x' hx' y' hy' =>
            told x' (List.mem_cons_of_mem x hx') y' (List.mem_cons_of_mem y hy')]

/-- What is told alike of partners is told of both lists in some order. -/
theorem perm_of_partners {hs ks : List β} (hx : List.Forall₂ P xs hs) (hy : List.Forall₂ P ys ks)
    (length : xs.length = ys.length) (partner : ∀ x ∈ xs, ∃ y ∈ ys, R x y)
    (own : xs.Pairwise fun x x' => ∀ y ∈ ys, R x y → ¬ R x' y)
    (told : ∀ x ∈ xs, ∀ y ∈ ys, R x y → ∀ h k, P x h → P y k → h = k) : hs.Perm ks := by
  obtain ⟨zs, hp, hz⟩ := exists_matching length partner own
  obtain ⟨ls, hl, hlk⟩ := List.perm_comp_forall₂ hp hy
  rw [eq_of_pairs hz hx hl fun x hx y hy => told x hx y (hp.subset hy)]
  exact hlk

end Partners

theorem nodup_eraseDups (hs : List Int) : hs.eraseDups.Nodup := by
  cases hs with
  | nil => simp
  | cons h hs =>
    rw [List.eraseDups_cons, List.nodup_cons, List.mem_eraseDups]
    exact ⟨by simp, nodup_eraseDups _⟩
termination_by hs.length
decreasing_by exact Nat.lt_succ_of_le (List.length_filter_le _ _)

theorem perm_eraseDups {hs ks : List Int} (h : hs.Perm ks) : hs.eraseDups.Perm ks.eraseDups :=
  (List.perm_ext_iff_of_nodup (nodup_eraseDups hs) (nodup_eraseDups ks)).mpr fun a => by
    rw [List.mem_eraseDups, List.mem_eraseDups, h.mem_iff]

namespace Value

variable {H : Hashing} {x y : Value}

theorem contentHashItems_eq_ok {items : List Value} {hs : List Int}
    (h : contentHashItems H items = .ok hs) :
    List.Forall₂ (fun x h => contentHash H x = .ok h) items hs := by
  induction items generalizing hs with
  | nil =>
    cases h
    exact .nil
  | cons x rest ih =>
    rw [contentHashItems] at h
    obtain ⟨k, hx, h⟩ := exists_of_bind_eq_ok h
    obtain ⟨ks, hr, h⟩ := exists_of_bind_eq_ok h
    cases h
    exact .cons hx (ih hr)

def EntryHash (H : Hashing) (e : Value × Value) (h : Int) : Prop :=
  ∃ k v, hash H e.1 = .ok k ∧ contentHash H e.2 = .ok v ∧ h = H.sequence [k, H.int v]

theorem contentHashEntries_eq_ok {entries : List (Value × Value)} {hs : List Int}
    (h : contentHashEntries H entries = .ok hs) : List.Forall₂ (EntryHash H) entries hs := by
  induction entries generalizing hs with
  | nil =>
    cases h
    exact .nil
  | cons e rest ih =>
    rw [contentHashEntries] at h
    obtain ⟨v, hv, h⟩ := exists_of_bind_eq_ok h
    obtain ⟨k, hk, h⟩ := exists_of_bind_eq_ok h
    obtain ⟨ks, hr, h⟩ := exists_of_bind_eq_ok h
    cases h
    exact .cons ⟨k, v, hk, hv, rfl⟩ (ih hr)

/-- Two members of a collection are not the same as one thing. -/
theorem IsKey.not_same {z : Value} (hx : IsKey x) (hy : IsKey y) (hz : IsKey z)
    (h : x.same y = false) (hxz : x.same z = true) : ¬ y.same z = true := by
  intro hyz
  have := hx.isComparable.same_of_same hy.isComparable hz.isComparable hxz hyz
  simp [h] at this

end Value

namespace Hashing.Lawful

open Value

variable {H : Hashing} (L : H.Lawful)

include L

theorem scalar_same {s t : Scalar} (h : s.same t = true) : H.scalar s = H.scalar t := by
  rcases Bool.or_eq_true_iff.mp h with h | h
  · rw [of_decide_eq_true h]
  · exact L.scalar s t h

theorem scalars_same {ss ts : List Scalar} (h : List.Forall₂ (fun s t => s.same t = true) ss ts) :
    ss.map H.scalar = ts.map H.scalar := by
  induction h with
  | nil => rfl
  | cons hst _ ih => rw [List.map_cons, List.map_cons, L.scalar_same hst, ih]

omit L in
theorem slot_same {a b : Slot} (h : a.content? = b.content?) : H.slot a = H.slot b := by
  rw [slot, slot, h]

omit L in
theorem record_same {r s : Record} (h : r.same s = true) : H.record r = H.record s := by
  cases r <;> cases s <;> simp only [Record.same, Bool.false_eq_true, decide_eq_true_eq] at h
  · exact congrArg H.text (of_decide_eq_true h)
  · rw [h]
  · rw [h]
  · next c d =>
    cases c <;> cases d <;> simp only [Credential.same, Bool.false_eq_true, Bool.and_eq_true,
      decide_eq_true_eq] at h
    · simp [record, credential, Credential.fields, slot_same h.1, h.2]
    · obtain ⟨⟨⟨hc, ha⟩, hk⟩, hn⟩ := h
      simp [record, credential, Credential.fields, slot_same hc, slot_same ha, slot_same hk,
        slot_same hn]
    · simp [record, credential, Credential.fields, slot_same h.1.2, slot_same h.2]

end Hashing.Lawful

namespace Value

variable {H : Hashing} {x y : Value}

theorem sameItems_scalars (ss ts : List Scalar) :
    sameItems (ss.map .scalar) (ts.map .scalar) = true ↔
      List.Forall₂ (fun s t => s.same t = true) ss ts := by
  simp [sameItems_iff, same]

theorem hashItems_scalars (ss : List Scalar) :
    hashItems H (ss.map .scalar) = .ok (ss.map H.scalar) := by
  induction ss with
  | nil => rfl
  | cons s ss ih =>
    rw [List.map_cons, hashItems, ih]
    rfl

theorem contentHashItems_scalars (ss : List Scalar) :
    contentHashItems H (ss.map .scalar) = .ok (ss.map H.scalar) := by
  induction ss with
  | nil => rfl
  | cons s ss ih =>
    rw [List.map_cons, contentHashItems, ih]
    rfl

namespace IsKey

theorem exists_hash (hx : IsKey x) : ∃ h, hash H x = .ok h := by
  cases hx with
  | scalar s => exact ⟨_, rfl⟩
  | tuple a ss => exact ⟨_, by rw [hash, hashItems_scalars]; rfl⟩
  | record a r => exact ⟨_, rfl⟩

theorem exists_contentHash (hx : IsKey x) : ∃ h, contentHash H x = .ok h := by
  cases hx with
  | scalar s => exact ⟨_, rfl⟩
  | tuple a ss => exact ⟨_, by rw [contentHash, contentHashItems_scalars]; rfl⟩
  | record a r => exact ⟨_, rfl⟩

theorem hashes_eq (L : H.Lawful) (hx : IsKey x) (hy : IsKey y) (h : x.same y = true) :
    hash H x = hash H y ∧ contentHash H x = contentHash H y := by
  cases hx with
  | scalar s =>
    cases hy with
    | scalar t =>
      have hs : H.scalar s = H.scalar t := L.scalar_same h
      exact ⟨congrArg Except.ok hs, congrArg Except.ok hs⟩
    | _ => simp [same] at h
  | tuple a ss =>
    cases hy with
    | tuple b ts =>
      have hs : sameItems (ss.map .scalar) (ts.map .scalar) = true := by simpa [same] using h
      have hm := L.scalars_same ((sameItems_scalars ss ts).mp hs)
      simp only [hash, contentHash, hashItems_scalars, contentHashItems_scalars, hm, and_self]
    | _ => simp [same] at h
  | record a r =>
    cases hy with
    | record b s =>
      have hr : H.record r = H.record s := Hashing.Lawful.record_same h
      exact ⟨congrArg Except.ok hr, congrArg Except.ok hr⟩
    | _ => simp [same] at h

end IsKey

theorem contentHash_sequence {a : Address} {shape : SequenceShape} {items : List Value} {h : Int}
    (hh : contentHash H (.sequence a shape items) = .ok h) :
    ∃ hs, List.Forall₂ (fun x h => contentHash H x = .ok h) items hs ∧
      h = H.sequence (hs.map H.int) := by
  rw [contentHash] at hh
  obtain ⟨hs, hi, hh⟩ := exists_of_bind_eq_ok hh
  cases hh
  exact ⟨hs, contentHashItems_eq_ok hi, rfl⟩

theorem contentHash_set {a : Address} {items : List Value} {h : Int}
    (hh : contentHash H (.set a items) = .ok h) :
    ∃ hs, List.Forall₂ (fun x h => contentHash H x = .ok h) items hs ∧
      h = H.collection (hs.eraseDups.map H.int) := by
  rw [contentHash] at hh
  obtain ⟨hs, hi, hh⟩ := exists_of_bind_eq_ok hh
  cases hh
  exact ⟨hs, contentHashItems_eq_ok hi, rfl⟩

theorem contentHash_mapping {a : Address} {readOnly : Bool} {entries : List (Value × Value)}
    {h : Int} (hh : contentHash H (.mapping a readOnly entries) = .ok h) :
    ∃ hs, List.Forall₂ (EntryHash H) entries hs ∧ h = H.collection hs := by
  rw [contentHash] at hh
  obtain ⟨hs, hi, hh⟩ := exists_of_bind_eq_ok hh
  cases hh
  exact ⟨hs, contentHashEntries_eq_ok hi, rfl⟩

theorem contentHash_request {a : Address} {q : WriteRequest CredentialName Permission Value}
    {h : Int} (hh : contentHash H (.request a q) = .ok h) :
    ∃ v, contentHash H q.value = .ok v ∧ h = Number.wordHash
      (Hashing.fold q.overwrite
        [H.name q.name, H.kind q.kind, v, H.permissions q.permissions]) := by
  rw [contentHash] at hh
  obtain ⟨v, hv, hh⟩ := exists_of_bind_eq_ok hh
  cases hh
  exact ⟨v, hv, rfl⟩

/-- Equal trees that have hashes have the same hash. -/
theorem IsTree.contentHash_eq (L : H.Lawful) (hx : IsTree x) (hy : IsTree y)
    (hxy : x.same y = true) {h k : Int} (hh : contentHash H x = .ok h)
    (hk : contentHash H y = .ok k) : h = k := by
  induction hx generalizing y h k with
  | scalar s =>
    cases hy with
    | scalar t =>
      cases hh
      cases hk
      exact L.scalar_same hxy
    | buffer => cases hk
    | _ => simp [same] at hxy
  | buffer => cases hh
  | sequence a shape _ ih =>
    cases hy with
    | sequence b shape' hy' =>
      obtain ⟨hs, hx', rfl⟩ := contentHash_sequence hh
      obtain ⟨ks, hy'', rfl⟩ := contentHash_sequence hk
      rw [same, Bool.and_eq_true, sameItems_iff] at hxy
      rw [eq_of_pairs hxy.2 hx' hy'' fun x hx y hy hs _ _ hxh hyk =>
        ih x hx (hy' y hy) hs hxh hyk]
    | _ => simp [same] at hxy
  | set a keys distinct =>
    cases hy with
    | set b keys' =>
      obtain ⟨hs, hx', rfl⟩ := contentHash_set hh
      obtain ⟨ks, hy', rfl⟩ := contentHash_set hk
      rw [same, Bool.and_eq_true, decide_eq_true_eq, itemsWithin_iff] at hxy
      have hp : hs.Perm ks := by
        refine perm_of_partners hx' hy' hxy.1 hxy.2 ?_ ?_
        · exact distinct.imp_of_mem fun hx hx' hne z hz =>
            (keys _ hx).not_same (keys _ hx') (keys' _ hz) hne
        · intro x hx y hy hs h k hxh hyk
          rw [((keys x hx).hashes_eq L (keys' y hy) hs).2, hyk] at hxh
          exact (Except.ok.inj hxh).symm
      exact L.collection _ _ ((perm_eraseDups hp).map H.int)
    | _ => simp [same] at hxy
  | mapping a readOnly keys distinct _ ih =>
    cases hy with
    | mapping b readOnly' keys' _ hy' =>
      obtain ⟨hs, hx', rfl⟩ := contentHash_mapping hh
      obtain ⟨ks, hy'', rfl⟩ := contentHash_mapping hk
      rw [same, Bool.and_eq_true, decide_eq_true_eq, entriesWithin_iff] at hxy
      refine L.collection _ _ (perm_of_partners hx' hy'' hxy.1 hxy.2 ?_ ?_)
      · exact distinct.imp_of_mem fun he he' hne f hf hs hs' =>
          (keys _ he).not_same (keys _ he') (keys' _ hf) hne hs.1 hs'.1
      · rintro e he f hf ⟨hsk, hsv⟩ _ _ ⟨k, v, hek, hev, rfl⟩ ⟨k', v', hfk, hfv, rfl⟩
        rw [((keys e he).hashes_eq L (keys' f hf) hsk).1, hfk] at hek
        rw [Except.ok.inj hek, ih e he (hy' f hf) hsv hev hfv]
    | _ => simp [same] at hxy
  | record a r =>
    cases hy with
    | record b s =>
      cases hh
      cases hk
      exact Hashing.Lawful.record_same hxy
    | _ => simp [same] at hxy
  | @request a q _ ih =>
    cases hy with
    | @request b r hr =>
      obtain ⟨v, hv, rfl⟩ := contentHash_request hh
      obtain ⟨w, hw, rfl⟩ := contentHash_request hk
      obtain ⟨ho, hn, hkind, hs, hp⟩ := same_request.mp hxy
      rw [ho, Hashing.name, hn, hkind, ih hr hs hv hw, hp]
      rfl
    | _ => simp [same] at hxy

end Value

end CredentialWrite
