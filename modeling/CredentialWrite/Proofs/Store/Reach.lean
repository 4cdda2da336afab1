import CredentialWrite.Proofs.Store.Viewing

/-!
# What a value is seen through

An object reaches its parts and what these reach. A view reads nothing else: two stores that look
alike wherever a reference reaches show the same value there. More objects give more fuel, but no
deeper view: containers stand on a path once, and between two of them every request is older than
the one whose value it is.
-/

namespace CredentialWrite

namespace Cell

/-- The objects that an object refers to. What builders and clients hold is not seen through
them. -/
def parts : Cell → List Ref
  | sequence _ items => items
  | set items => items
  | mapping _ entries => entries.map Prod.fst ++ entries.map Prod.snd
  | iterator rest => rest
  | delayed source => [.address source]
  | permission _ actorAt operationsAt => [.address actorAt, .address operationsAt]
  | request r permissionsAt => [r.name.ref, r.value, .address permissionsAt]
  | _ => []

/-- What looks the same: all is, but for what a builder holds. -/
inductive Alike : Cell → Cell → Prop
  | refl (c : Cell) : Alike c c
  | requestBuilder {b b' : RequestBuilder} (h : b'.kind = b.kind) :
      Alike (.requestBuilder b) (.requestBuilder b')
  | permissionBuilder (b b' : PermissionBuilder) :
      Alike (.permissionBuilder b) (.permissionBuilder b')

theorem Alike.parts {c d : Cell} (h : c.Alike d) : d.parts = c.parts := by
  cases h <;> rfl

end Cell

namespace Store

inductive Reaches (s : Store) (r : Ref) : Address → Prop
  | here {a : Address} (h : r = .address a) : Reaches s r a
  | part {a b : Address} {c : Cell} (h : Reaches s r a) (hc : s.cell? a = some c)
      (hb : .address b ∈ c.parts) : Reaches s r b

variable {s t : Store} {a b : Address} {r : Ref} {c : Cell}

theorem Reaches.of_part (hc : s.cell? a = some c) (hr : r ∈ c.parts) (h : s.Reaches r b) :
    s.Reaches (.address a) b := by
  induction h with
  | here h => exact .part (.here rfl) hc (h ▸ hr)
  | part _ hd hb ih => exact .part ih hd hb

def AlikeFrom (s t : Store) (r : Ref) : Prop :=
  ∀ a, s.Reaches r a → ∃ c d, s.cell? a = some c ∧ t.cell? a = some d ∧ c.Alike d

theorem AlikeFrom.part (h : s.AlikeFrom t (.address a)) (hc : s.cell? a = some c)
    (hr : r ∈ c.parts) : s.AlikeFrom t r :=
  fun b hb => h b (.of_part hc hr hb)

theorem viewBelow_eq_of_alike (h : s.AlikeFrom t r) (n : Nat) (path : List Address) :
    t.viewBelow n path r = s.viewBelow n path r := by
  induction n generalizing path r with
  | zero => cases r <;> rfl
  | succ n ih =>
    cases r with
    | scalar x => rfl
    | address a =>
      obtain ⟨c, d, hc, hd, hcd⟩ := h a (.here rfl)
      have below {r : Ref} (hr : r ∈ c.parts) (path : List Address) :
          t.viewBelow n path r = s.viewBelow n path r := ih (h.part hc hr) path
      have among {rs : List Ref} (hr : ∀ r ∈ rs, r ∈ c.parts) :
          rs.map (t.viewBelow n (a :: path)) = rs.map (s.viewBelow n (a :: path)) :=
        List.map_congr_left fun r hm => below (hr r hm) (a :: path)
      cases hcd with
      | requestBuilder hk => simp only [viewBelow, hc, hd, hk]
      | permissionBuilder b b' => simp only [viewBelow, hc, hd]
      | refl c =>
        cases c with
        | sequence shape items =>
          have he := among fun r (hr : r ∈ items) => hr
          cases shape <;> simp only [viewBelow, hc, hd, he]
        | set items =>
          have he := among fun r (hr : r ∈ items) => hr
          simp only [viewBelow, hc, hd, he]
        | mapping readOnly entries =>
          have he : entries.map (fun e => (t.viewBelow n (a :: path) e.1,
              t.viewBelow n (a :: path) e.2)) = entries.map fun e =>
              (s.viewBelow n (a :: path) e.1, s.viewBelow n (a :: path) e.2) := by
            refine List.map_congr_left fun e he => ?_
            rw [below (List.mem_append_left _ (List.mem_map_of_mem he)),
              below (List.mem_append_right _ (List.mem_map_of_mem he))]
          simp only [viewBelow, hc, hd, he]
        | iterator rest =>
          have he := among fun r (hr : r ∈ rest) => hr
          simp only [viewBelow, hc, hd, he]
        | delayed source =>
          have hsource := h.part hc (List.mem_singleton.mpr rfl)
          obtain ⟨c', d', hc', hd', hcd'⟩ := hsource source (.here rfl)
          simp only [viewBelow, hc, hd, hc', hd']
          cases hcd' with
          | refl c' =>
            cases c' with
            | iterator rest =>
              have he : rest.map (t.viewBelow n (source :: path)) =
                  rest.map (s.viewBelow n (source :: path)) :=
                List.map_congr_left fun r hr => ih (hsource.part hc' hr) (source :: path)
              simp only [he]
            | _ => rfl
          | _ => rfl
        | request q listed =>
          have hv := below (r := q.value) (by simp [Cell.parts]) path
          simp only [viewBelow, hc, hd, WriteRequest.map, hv]
        | _ => simp only [viewBelow, hc, hd]

def RequestsYounger (s : Store) : Prop :=
  ∀ a q listed, s.cell? a = some (.request q listed) → ∀ b, q.value = .address b → b < a

/-- The levels that are enough for a view below a path. -/
def levels (s : Store) (path : List Address) : Ref → Nat
  | .scalar _ => 0
  | .address a =>
    (s.cells.size - path.length) * (s.cells.size + 1) + min a s.cells.size + 1

theorem levels_le (s : Store) (path : List Address) (r : Ref) :
    s.levels path r ≤ (s.cells.size - path.length + 1) * (s.cells.size + 1) := by
  rw [Nat.add_one_mul]
  cases r with
  | scalar x => exact Nat.zero_le _
  | address a =>
    simp only [levels]
    omega

theorem levels_le_depthBound (s : Store) (r : Ref) : s.levels [] r ≤ s.depthBound :=
  s.levels_le [] r

/-- Below one more container fewer levels are left. -/
theorem levels_cons_lt {path : List Address} (ha : a ∉ path) (hn : path.Nodup)
    (hp : ∀ b ∈ path, b < s.cells.size) (hlt : a < s.cells.size) (b : Address) (r : Ref) :
    s.levels (a :: path) r < s.levels path (.address b) := by
  have hl : (a :: path).length ≤ s.cells.size :=
    length_le_size (List.nodup_cons.mpr ⟨ha, hn⟩) (List.forall_mem_cons.mpr ⟨hlt, hp⟩)
  have he : s.cells.size - (a :: path).length + 1 = s.cells.size - path.length := by
    rw [List.length_cons] at hl ⊢
    omega
  have h := s.levels_le (a :: path) r
  rw [he] at h
  simp only [levels] at h ⊢
  omega

theorem viewBelow_eq_of_levels (hs : s.RequestsYounger) {n k : Nat} {path : List Address}
    (hd : path.Nodup) (hp : ∀ b ∈ path, b < s.cells.size) (hn : s.levels path r ≤ n)
    (hk : s.levels path r ≤ k) : s.viewBelow n path r = s.viewBelow k path r := by
  induction n generalizing path r k with
  | zero =>
    cases r with
    | scalar x => rw [viewBelow_scalar, viewBelow_scalar]
    | address a => simp [levels] at hn
  | succ n ih =>
    cases r with
    | scalar x => rw [viewBelow_scalar, viewBelow_scalar]
    | address a =>
      obtain ⟨k, rfl⟩ : ∃ m, k = m + 1 := ⟨k - 1, by simp only [levels] at hk; omega⟩
      -- What stands below an object that is entered has fewer levels than the object.
      have enter {b : Address} {c : Cell} (hb : s.cell? b = some c) (hnot : b ∉ path) :
          s.viewBelow n (b :: path) = s.viewBelow k (b :: path) := by
        funext r
        have hlt := lt_size_of_cell? hb
        have hl := levels_cons_lt hnot hd hp hlt a r
        exact ih (List.nodup_cons.mpr ⟨hnot, hd⟩) (List.forall_mem_cons.mpr ⟨hlt, hp⟩) (by omega)
          (by omega)
      cases hc : s.cell? a with
      | none => simp only [viewBelow, hc]
      | some c =>
        cases c with
        | sequence shape items =>
          cases shape <;> simp only [viewBelow, hc] <;> split
          · rfl
          · next hm => simp only [enter hc (by simpa using hm)]
          · rfl
          · next hm => simp only [enter hc (by simpa using hm)]
        | set items =>
          simp only [viewBelow, hc]
          split
          · rfl
          · next hm => simp only [enter hc (by simpa using hm)]
        | mapping readOnly entries =>
          simp only [viewBelow, hc]
          split
          · rfl
          · next hm => simp only [enter hc (by simpa using hm)]
        | iterator rest =>
          simp only [viewBelow, hc]
          split
          · rfl
          · next hm => simp only [enter hc (by simpa using hm)]
        | delayed source =>
          simp only [viewBelow, hc]
          split
          · next hi =>
            split
            · rfl
            · next hm => simp only [enter hi (by simpa using hm)]
          · rfl
        | request q listed =>
          have hlt := lt_size_of_cell? hc
          have hv : s.levels path q.value < s.levels path (.address a) := by
            cases hq : q.value with
            | scalar x => simp [levels]
            | address b =>
              have hb := hs a q listed hc b hq
              simp only [levels, Nat.min_eq_left (Nat.le_of_lt hlt),
                Nat.min_eq_left (Nat.le_of_lt (Nat.lt_trans hb hlt))]
              exact Nat.succ_lt_succ (Nat.add_lt_add_left hb _)
          have hq := ih hd hp (r := q.value) (by omega) (k := k) (by omega)
          simp only [viewBelow, hc, WriteRequest.map, hq]
        | _ => simp only [viewBelow, hc]

/-- A value is seen alike in a store of more objects that looks alike wherever the value leads. -/
theorem view_eq_of_alike (hs : s.RequestsYounger) (hsize : s.cells.size ≤ t.cells.size)
    (h : s.AlikeFrom t r) : t.view r = s.view r := by
  have hbound : s.depthBound ≤ t.depthBound :=
    Nat.mul_le_mul (Nat.succ_le_succ hsize) (Nat.succ_le_succ hsize)
  rw [view, viewBelow_eq_of_alike h]
  exact viewBelow_eq_of_levels hs List.nodup_nil (by simp)
    (Nat.le_trans (s.levels_le_depthBound r) hbound) (s.levels_le_depthBound r)

end Store

end CredentialWrite
