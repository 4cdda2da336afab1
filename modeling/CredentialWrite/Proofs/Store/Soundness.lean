import CredentialWrite.Permission.Builder
import CredentialWrite.Proofs.Request.Coherence
import CredentialWrite.Proofs.Store.Placement
import CredentialWrite.Proofs.Store.Reach

/-!
# Sound stores

In a sound store every object is made of objects that exist, a request is younger than its value,
and builders hold what stands in the store. A store grows while objects are made, items are taken
from iterators and builders go on; this keeps it sound, and so does a change of a container in
place that stores what exists.
-/

namespace CredentialWrite

namespace Cell

variable {c d e : Cell}

theorem Alike.trans (h : c.Alike d) (k : d.Alike e) : c.Alike e := by
  cases h with
  | refl => exact k
  | requestBuilder hk =>
    cases k with
    | refl => exact .requestBuilder hk
    | requestBuilder hk' => exact .requestBuilder (hk'.trans hk)
  | permissionBuilder b b' =>
    cases k with
    | refl => exact .permissionBuilder b b'
    | permissionBuilder _ b'' => exact .permissionBuilder b b''

theorem Alike.becomes (h : c.Alike d) : c.Becomes d := by
  cases h with
  | refl => exact .refl c
  | requestBuilder hk => exact ⟨by simp [className, hk], by simp [isFrozen]⟩
  | permissionBuilder b b' => exact ⟨rfl, by simp [isFrozen]⟩

theorem parts_dropItems_subset (n : Nat) (c : Cell) : (c.dropItems n).parts ⊆ c.parts := by
  cases c with
  | iterator rest => exact List.drop_subset n rest
  | _ => exact List.Subset.refl _

theorem Changed.parts {stored : List Ref} (h : c.Changed stored d) {r : Ref} (hr : r ∈ d.parts) :
    r ∈ c.parts ∨ r ∈ stored := by
  cases h with
  | buffer xs ys => simp [Cell.parts] at hr
  | list hys => exact hys r hr
  | mapping hfs =>
    rcases List.mem_append.mp hr with hr | hr
    · obtain ⟨f, hf, rfl⟩ := List.mem_map.mp hr
      exact (hfs f hf).1.imp_left (List.mem_append_left _)
    · obtain ⟨f, hf, rfl⟩ := List.mem_map.mp hr
      exact (hfs f hf).2.imp_left (List.mem_append_right _)

/-- What an object is later, with nothing stored in it: an iterator may have yielded items, and a
builder may hold something else. -/
def Aged (c d : Cell) : Prop := ∃ n, (c.dropItems n).Alike d

theorem Aged.refl (c : Cell) : c.Aged c := ⟨0, by rw [dropItems_zero]; exact .refl c⟩

theorem Aged.becomes (h : c.Aged d) : c.Becomes d := by
  obtain ⟨n, hn⟩ := h
  exact (becomes_dropItems n c).trans hn.becomes

theorem Aged.parts_subset (h : c.Aged d) : d.parts ⊆ c.parts := by
  obtain ⟨n, hn⟩ := h
  rw [hn.parts]
  exact parts_dropItems_subset n c

theorem Aged.alike (h : c.Aged d) (hi : ∀ rest, c ≠ .iterator rest) : c.Alike d := by
  obtain ⟨n, hn⟩ := h
  cases c with
  | iterator rest => exact absurd rfl (hi rest)
  | _ => exact hn

end Cell

def PermissionBuilder.Coherent (b : PermissionBuilder) (s : Store) : Prop :=
  ∀ x, b.actor = some x → s.cell? x.address = some (.actor x.content)

namespace Store

variable {s t u : Store} {a b : Address} {r : Ref} {c d : Cell} {items : List Ref}

def Has (s : Store) : Ref → Prop
  | .scalar _ => True
  | .address a => a < s.cells.size

theorem Has.mono (h : s.Has r) (k : s.Evolves t) : t.Has r := by
  cases r with
  | scalar x => trivial
  | address a => exact Nat.lt_of_lt_of_le h k.size_le

theorem exists_cell?_of_lt (h : a < s.cells.size) : ∃ c, s.cell? a = some c :=
  ⟨_, Array.getElem?_eq_getElem h⟩

theorem has_of_cell? (h : s.cell? a = some c) : s.Has (.address a) := lt_size_of_cell? h

def HoldsWhatStands (s : Store) : Cell → Prop
  | .requestBuilder b => b.Coherent s
  | .permissionBuilder b => b.Coherent s
  | _ => True

structure Supports (s : Store) (c : Cell) : Prop where
  parts : ∀ r ∈ c.parts, s.Has r
  holds : s.HoldsWhatStands c

theorem Supports.evolves (h : s.Supports c) (k : s.Evolves t) : t.Supports c := by
  refine ⟨fun r hr => (h.parts r hr).mono k, ?_⟩
  have holds := h.holds
  cases c with
  | requestBuilder b => exact RequestBuilder.Coherent.evolves holds k
  | permissionBuilder b => exact fun x hx => k.cell?_eq (holds x hx) rfl
  | _ => trivial

structure Sound (s : Store) : Prop where
  supports : ∀ a c, s.cell? a = some c → s.Supports c
  younger : s.RequestsYounger

theorem sound_empty : empty.Sound :=
  ⟨fun a c h => by simp [empty, cell?] at h, fun a q l h => by simp [empty, cell?] at h⟩

theorem cell?_alloc {s : Store} (c : Cell) (h : (s.alloc c).2.cell? a = some d) :
    s.cell? a = some d ∨ (a = s.cells.size ∧ d = c) := by
  by_cases ha : a < s.cells.size
  · exact .inl ((cell?_alloc_of_lt ha).symm.trans h)
  · have hlt : a < s.cells.size + 1 := size_alloc s c ▸ lt_size_of_cell? h
    obtain rfl : a = s.cells.size := Nat.le_antisymm (Nat.le_of_lt_succ hlt) (Nat.le_of_not_lt ha)
    exact .inr ⟨rfl, (Option.some.inj ((cell?_alloc_self s c).symm.trans h)).symm⟩

theorem Sound.alloc (hs : s.Sound) (hc : s.Supports c) : (s.alloc c).2.Sound := by
  have grown := evolves_alloc s c
  constructor
  · intro a d hd
    rcases cell?_alloc c hd with hd | ⟨-, rfl⟩
    · exact (hs.supports a d hd).evolves grown
    · exact hc.evolves grown
  · intro a q listed hq b hb
    rcases cell?_alloc c hq with hq | ⟨rfl, rfl⟩
    · exact hs.younger a q listed hq b hb
    · have hv : s.Has q.value := hc.parts _ (by simp [Cell.parts])
      rw [hb] at hv
      exact hv

theorem Sound.update (hs : s.Sound) (ha : s.cell? a = some c) (hcd : c.Becomes d)
    (hd : s.Supports d) (hq : ∀ q listed, d = .request q listed → c = d) :
    (s.update a d).Sound := by
  have grown := evolves_update ha hcd
  have cells {b : Address} {e : Cell} (he : (s.update a d).cell? b = some e) :
      s.cell? b = some e ∨ (b = a ∧ e = d) := by
    by_cases hab : a = b
    · subst hab
      rw [cell?_update_self (lt_size_of_cell? ha)] at he
      exact .inr ⟨rfl, (Option.some.inj he).symm⟩
    · exact .inl ((cell?_update_of_ne hab).symm.trans he)
  constructor
  · intro b e he
    rcases cells he with he | ⟨-, rfl⟩
    · exact (hs.supports b e he).evolves grown
    · exact hd.evolves grown
  · intro b q listed he x hx
    rcases cells he with he | ⟨rfl, rfl⟩
    · exact hs.younger b q listed he x hx
    · exact hs.younger b q listed (hq q listed rfl ▸ ha) x hx

theorem Sound.change {container : Ref} {stored : List Ref} (hs : s.Sound)
    (h : s.ChangesOne t container stored) (hst : ∀ r ∈ stored, s.Has r) : t.Sound := by
  obtain ⟨a, c, d, -, ha, hcd, rfl⟩ := h
  refine hs.update ha hcd.becomes ⟨?_, ?_⟩ ?_
  · intro r hr
    exact (hcd.parts hr).elim ((hs.supports a c ha).parts r) (hst r)
  · cases hcd <;> trivial
  · cases hcd <;> simp

inductive Grows : Store → Store → Prop
  | refl (s : Store) : Grows s s
  | make {s t : Store} {c : Cell} (h : Grows s t) (hc : t.Supports c) : Grows s (t.alloc c).2
  | take {s t : Store} {a : Address} {items : List Ref} (h : Grows s t)
      (ha : t.cell? a = some (.iterator items)) (n : Nat) :
      Grows s (t.update a (.iterator (items.drop n)))

theorem Grows.trans (h : s.Grows t) (k : t.Grows u) : s.Grows u := by
  induction k with
  | refl => exact h
  | make _ hc ih => exact .make ih hc
  | take _ ha n ih => exact .take ih ha n

theorem Grows.sound (h : s.Grows t) (hs : s.Sound) : t.Sound := by
  induction h with
  | refl => exact hs
  | make _ hc ih => exact ih.alloc hc
  | @take t a items _ ha n ih =>
    refine ih.update ha (Cell.becomes_dropItems n (.iterator items)) ⟨?_, trivial⟩ (by simp)
    intro r hr
    exact (ih.supports a _ ha).parts r (List.mem_of_mem_drop hr)

/-- Iterators yield items, and nothing else changes. -/
theorem Grows.cell (h : s.Grows t) (hc : s.cell? a = some c) :
    ∃ n, t.cell? a = some (c.dropItems n) := by
  induction h with
  | refl => exact ⟨0, by rw [hc, Cell.dropItems_zero]⟩
  | make _ _ ih =>
    obtain ⟨n, hn⟩ := ih
    exact ⟨n, cell?_alloc_of_cell? hn⟩
  | take _ hb m ih =>
    obtain ⟨n, hn⟩ := ih
    exact ⟨_, (RequestBuilder.cell?_update_iterator m hb hn).trans
      (congrArg some (Cell.dropItems_dropItems n _ c))⟩

theorem Grows.evolves (h : s.Grows t) : s.Evolves t := by
  intro a c hc
  obtain ⟨n, hn⟩ := h.cell hc
  exact ⟨_, hn, Cell.becomes_dropItems n c⟩

theorem Grows.alloc (hc : s.Supports c) : s.Grows (s.alloc c).2 := .make (.refl s) hc

theorem grows_take (ha : s.cell? a = some (.iterator items)) (n : Nat) :
    s.Grows (s.update a (.iterator (items.drop n))) :=
  .take (.refl s) ha n

theorem grows_takes (s : Store) (as : List Address) : s.Grows (s.take as) := by
  induction as generalizing s with
  | nil => exact .refl s
  | cons a rest ih =>
    simp only [take]
    split
    · next ha => exact (grows_take ha 1).trans (ih _)
    · exact ih s

theorem grows_payloadOf (s : Store) (q : StoredRequest) : s.Grows (s.payloadOf q).2 :=
  s.grows_takes _

theorem grows_newPairs (fields : List (String × Ref)) (h : ∀ field ∈ fields, s.Has field.2) :
    s.Grows (s.newPairs fields).2 := by
  induction fields generalizing s with
  | nil => exact .refl s
  | cons field rest ih =>
    have step : s.Grows (s.alloc (.sequence .tuple [.text field.1, field.2])).2 := by
      refine .alloc ⟨?_, trivial⟩
      intro r hr
      rcases List.mem_pair.mp hr with rfl | rfl
      · trivial
      · exact h field List.mem_cons_self
    exact step.trans (ih fun f hf => (h f (List.mem_cons_of_mem field hf)).mono step.evolves)

end Store

namespace Cell

/-- The fields of a record refer to its parts. -/
theorem fields?_parts {c : Cell} {fields : List (String × Ref)} (h : c.fields? = some fields) :
    ∀ field ∈ fields, field.2 ∈ c.parts ∨ ∃ x, field.2 = .scalar x := by
  intro field hf
  cases c with
  | name n =>
    cases h
    obtain rfl := List.mem_singleton.mp hf
    exact .inr ⟨_, rfl⟩
  | actor x =>
    cases h
    rcases List.mem_pair.mp hf with rfl | rfl <;> exact .inr ⟨_, rfl⟩
  | permission p actorAt operationsAt =>
    cases h
    rcases List.mem_pair.mp hf with rfl | rfl <;> simp [parts]
  | credential c =>
    cases h
    obtain ⟨⟨name, slot⟩, -, rfl⟩ := List.mem_map.mp hf
    refine .inr ?_
    cases slot <;> exact ⟨_, rfl⟩
  | request q listed =>
    cases h
    simp only [List.mem_cons, List.not_mem_nil, or_false] at hf
    rcases hf with rfl | rfl | rfl | rfl | rfl <;> simp [parts, Ref.bool]
  | _ => cases h

end Cell

end CredentialWrite
