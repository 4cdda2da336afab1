import CredentialWrite.Proofs.Payload.Native
import CredentialWrite.Proofs.Store.Evolution
import Mathlib.Data.List.Perm.Subperm

/-!
# Native values in a store

The containers of a native value stand in each other and never inside themselves, so no path
through it is longer than the store has objects, and more fuel shows the same tree.
-/

namespace CredentialWrite

theorem NativeItems.exists_of_mem {vs : List Value} {js : List WireJson} :
    NativeItems vs js → ∀ v ∈ vs, ∃ j, Native v j
  | .nil, _, hv => nomatch hv
  | .cons h hs, v, hv => by
    rcases List.mem_cons.mp hv with rfl | hv
    · exact ⟨_, h⟩
    · exact hs.exists_of_mem v hv

theorem NativeEntries.exists_of_mem {es : List (Value × Value)} {fs : List (String × WireJson)} :
    NativeEntries es fs → ∀ e ∈ es, (∃ j, Native e.1 j) ∧ ∃ j, Native e.2 j
  | .nil, _, he => nomatch he
  | .cons key h hs, e, he => by
    rcases List.mem_cons.mp he with rfl | he
    · exact ⟨⟨_, .text key⟩, _, h⟩
    · exact hs.exists_of_mem e he

namespace Store

variable {s t : Store} {a : Address} {path : List Address} {n : Nat}

theorem exists_depthBound_eq (s : Store) : ∃ n, s.depthBound = n + 1 :=
  ⟨(s.cells.size + 1) * s.cells.size + s.cells.size, rfl⟩

theorem size_le_depthBound (s : Store) : s.cells.size ≤ s.depthBound := by
  rw [depthBound, Nat.add_one_mul]
  omega

@[simp] theorem viewBelow_scalar (s : Store) (n : Nat) (path : List Address) (x : Scalar) :
    s.viewBelow n path (.scalar x) = .scalar x := by
  cases n <;> rfl

theorem viewBelow_list {items : List Ref} (h : s.cell? a = some (.sequence .list items))
    (ha : a ∉ path) : s.viewBelow (n + 1) path (.address a) =
      .sequence a .list (items.map (s.viewBelow n (a :: path))) := by
  simp [viewBelow, h, ha]

theorem viewBelow_mapping {readOnly : Bool} {entries : List (Ref × Ref)}
    (h : s.cell? a = some (.mapping readOnly entries)) (ha : a ∉ path) :
    s.viewBelow (n + 1) path (.address a) = .mapping a readOnly
      (entries.map fun e => (s.viewBelow n (a :: path) e.1, s.viewBelow n (a :: path) e.2)) := by
  simp [viewBelow, h, ha]

theorem viewBelow_permission {p : Permission} {x y : Address}
    (h : s.cell? a = some (.permission p x y)) (n : Nat) (path : List Address) :
    s.viewBelow (n + 1) path (.address a) = .record a (.permission p) := by
  simp only [viewBelow, h]

theorem view_permission {p : Permission} {x y : Address}
    (h : s.cell? a = some (.permission p x y)) :
    s.view (.address a) = .record a (.permission p) := by
  obtain ⟨n, hn⟩ := s.exists_depthBound_eq
  rw [view, hn, viewBelow_permission h]

theorem view_name {n : CredentialName} (h : s.cell? a = some (.name n)) :
    s.view (.address a) = .record a (.name n) := by
  obtain ⟨k, hk⟩ := s.exists_depthBound_eq
  simp only [view, hk, viewBelow, h]

theorem view_actor {x : Actor} (h : s.cell? a = some (.actor x)) :
    s.view (.address a) = .record a (.actor x) := by
  obtain ⟨k, hk⟩ := s.exists_depthBound_eq
  simp only [view, hk, viewBelow, h]

/-- Only lists and mappings are seen as native containers, and not below themselves. -/
theorem cell?_of_native {j : WireJson} (h : Native (s.viewBelow (n + 1) path (.address a)) j) :
    a ∉ path ∧ ((∃ items, s.cell? a = some (.sequence .list items)) ∨
      ∃ entries, s.cell? a = some (.mapping false entries)) := by
  cases hc : s.cell? a with
  | none =>
    simp only [viewBelow, hc] at h
    cases h
  | some c =>
    cases c with
    | sequence shape items =>
      cases shape with
      | list =>
        simp only [viewBelow, hc] at h
        split at h
        · cases h
        · next hp => exact ⟨by simpa using hp, .inl ⟨items, rfl⟩⟩
      | tuple =>
        simp only [viewBelow, hc] at h
        split at h <;> cases h
    | mapping readOnly entries =>
      simp only [viewBelow, hc] at h
      split at h
      · cases h
      · next hp =>
        cases h
        exact ⟨by simpa using hp, .inr ⟨entries, rfl⟩⟩
    | set items =>
      simp only [viewBelow, hc] at h
      split at h <;> cases h
    | iterator items =>
      simp only [viewBelow, hc] at h
      split at h <;> cases h
    | delayed source =>
      simp only [viewBelow, hc] at h
      split at h
      · split at h <;> cases h
      · cases h
    | _ =>
      simp only [viewBelow, hc] at h
      cases h

/-- A path through a store is no longer than the store has objects. -/
theorem length_le_size (hn : path.Nodup) (hp : ∀ a ∈ path, a < s.cells.size) :
    path.length ≤ s.cells.size := by
  have hs : path ⊆ List.range s.cells.size := fun a ha => List.mem_range.mpr (hp a ha)
  simpa using (List.subperm_of_subset hn hs).length_le

/-- A native value is seen alike with all fuel that is enough for every path. -/
theorem viewBelow_of_native {r : Ref} {j : WireJson} (h : Native (s.viewBelow n path r) j)
    (hn : path.Nodup) (hp : ∀ a ∈ path, a < s.cells.size) {k : Nat}
    (hk : s.cells.size < k + path.length) : s.viewBelow k path r = s.viewBelow n path r := by
  induction n generalizing path r j k with
  | zero =>
    cases r with
    | scalar x => rw [viewBelow_scalar, viewBelow_scalar]
    | address a => cases h
  | succ n ih =>
    cases r with
    | scalar x => rw [viewBelow_scalar, viewBelow_scalar]
    | address a =>
      -- The path does not repeat an object, so it ends before the fuel does.
      have hl := length_le_size hn hp
      obtain ⟨k, rfl⟩ : ∃ m, k = m + 1 := ⟨k - 1, by omega⟩
      obtain ⟨ha, hc⟩ := cell?_of_native h
      have hlt : a < s.cells.size := by
        rcases hc with ⟨_, hc⟩ | ⟨_, hc⟩
        · exact lt_size_of_cell? hc
        · exact lt_size_of_cell? hc
      have hn' : (a :: path).Nodup := List.nodup_cons.mpr ⟨ha, hn⟩
      have hp' : ∀ b ∈ a :: path, b < s.cells.size := List.forall_mem_cons.mpr ⟨hlt, hp⟩
      have hk' : s.cells.size < k + (a :: path).length := by
        rw [List.length_cons]
        omega
      rcases hc with ⟨items, hc⟩ | ⟨entries, hc⟩
      · rw [viewBelow_list hc ha] at h ⊢
        rw [viewBelow_list hc ha]
        cases h with
        | list _ hs =>
          congr 1
          apply List.map_congr_left
          intro r hr
          obtain ⟨i, hi⟩ := hs.exists_of_mem _ (List.mem_map_of_mem hr)
          exact ih hi hn' hp' hk'
      · rw [viewBelow_mapping hc ha] at h ⊢
        rw [viewBelow_mapping hc ha]
        cases h with
        | mapping _ hs _ =>
          congr 1
          apply List.map_congr_left
          intro e he
          obtain ⟨⟨i, hi⟩, j, hj⟩ := hs.exists_of_mem _ (List.mem_map_of_mem he)
          rw [ih hi hn' hp' hk', ih hj hn' hp' hk']

end Store

end CredentialWrite
