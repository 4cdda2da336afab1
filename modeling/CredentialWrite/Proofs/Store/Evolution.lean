import CredentialWrite.Payload.Reading
import CredentialWrite.Store.Update

/-!
# What can become of a store

A store evolves while objects are made and changed: every object stays at its address and keeps
its class, and a frozen one keeps its content. Every operation on a store that this library has
is such a step, so what depends on classes and frozen objects alone holds at any later time.
-/

namespace CredentialWrite

def Cell.isFrozen : Cell → Bool
  | .buffer _ | .sequence .list _ | .set _ | .mapping _ _ | .iterator _ => false
  | .requestBuilder _ | .permissionBuilder _ => false
  | _ => true

def Cell.dropItems (n : Nat) : Cell → Cell
  | .iterator items => .iterator (items.drop n)
  | c => c

structure Cell.Becomes (c d : Cell) : Prop where
  className : d.className = c.className
  content : c.isFrozen = true → d = c

namespace Cell

theorem Becomes.refl (c : Cell) : c.Becomes c := ⟨rfl, fun _ => rfl⟩

theorem Becomes.trans {c d e : Cell} (h : c.Becomes d) (k : d.Becomes e) : c.Becomes e := by
  refine ⟨k.className.trans h.className, ?_⟩
  intro hc
  have hd : d = c := h.content hc
  subst hd
  exact k.content hc

theorem becomes_dropItems (n : Nat) (c : Cell) : c.Becomes (c.dropItems n) := by
  cases c <;> exact ⟨rfl, by simp [isFrozen, dropItems]⟩

/-- What a change in place makes of a container; the new parts are among those stored. -/
inductive Changed (stored : List Ref) : Cell → Cell → Prop
  | buffer (xs ys : List UInt8) : Changed stored (.buffer xs) (.buffer ys)
  | list {xs ys : List Ref} (h : ∀ r ∈ ys, r ∈ xs ∨ r ∈ stored) :
      Changed stored (.sequence .list xs) (.sequence .list ys)
  | mapping {es fs : List (Ref × Ref)} (h : ∀ f ∈ fs,
      (f.1 ∈ es.map Prod.fst ∨ f.1 ∈ stored) ∧ (f.2 ∈ es.map Prod.snd ∨ f.2 ∈ stored)) :
      Changed stored (.mapping false es) (.mapping false fs)

theorem Changed.becomes {stored : List Ref} {c d : Cell} (h : c.Changed stored d) :
    c.Becomes d := by
  cases h <;> exact ⟨rfl, by simp [isFrozen]⟩

theorem dropItems_dropItems (m n : Nat) (c : Cell) :
    (c.dropItems m).dropItems n = c.dropItems (m + n) := by
  cases c <;> simp [dropItems]

@[simp] theorem dropItems_zero (c : Cell) : c.dropItems 0 = c := by
  cases c <;> simp [dropItems]

/-- A mapping has a class of its own. -/
theorem eq_mapping_of_className {c : Cell} {readOnly : Bool} {entries : List (Ref × Ref)}
    (h : c.className = (mapping readOnly entries).className) :
    ∃ entries', c = mapping readOnly entries' := by
  cases c with
  | mapping ro es => cases ro <;> cases readOnly <;> simp_all [className]
  | sequence shape _ => cases shape <;> cases readOnly <;> simp [className] at h
  | name n =>
    cases hs : n.scheme <;> cases readOnly <;> simp [className, NameScheme.className, hs] at h
  | credential c =>
    cases c with
    | keyPair p =>
      cases hs : p.scheme <;> cases readOnly <;> simp [className, Credential.className, hs] at h
    | _ => cases readOnly <;> simp [className, Credential.className] at h
  | request r _ =>
    cases hd : r.declared <;> cases readOnly <;>
      simp [className, ValueDeclaration.className, hd] at h
  | requestBuilder b =>
    cases hk : b.kind <;> cases readOnly <;>
      simp [className, ObjectClass.className, ObjectClass.builderName, hk] at h
  | _ => cases readOnly <;> simp [className, ObjectClass.className] at h

end Cell

namespace Store

def Evolves (s t : Store) : Prop :=
  ∀ a c, s.cell? a = some c → ∃ d, t.cell? a = some d ∧ c.Becomes d

variable {s t u : Store} {a : Address}

theorem Evolves.refl (s : Store) : s.Evolves s := fun _ c h => ⟨c, h, .refl c⟩

theorem Evolves.trans (h : s.Evolves t) (k : t.Evolves u) : s.Evolves u := by
  intro a c hc
  obtain ⟨d, hd, hcd⟩ := h a c hc
  obtain ⟨e, he, hde⟩ := k a d hd
  exact ⟨e, he, hcd.trans hde⟩

theorem lt_size_of_cell? {c : Cell} (h : s.cell? a = some c) : a < s.cells.size :=
  (Array.getElem?_eq_some_iff.mp h).1

theorem Evolves.size_le (h : s.Evolves t) : s.cells.size ≤ t.cells.size := by
  refine Nat.le_of_not_lt fun hlt => ?_
  obtain ⟨d, hd, -⟩ := h t.cells.size _ (Array.getElem?_eq_getElem hlt)
  exact Nat.lt_irrefl _ (lt_size_of_cell? hd)

/-- A frozen object is found again. -/
theorem Evolves.cell?_eq {c : Cell} (h : s.Evolves t) (hc : s.cell? a = some c)
    (hf : c.isFrozen = true) : t.cell? a = some c := by
  obtain ⟨d, hd, hcd⟩ := h a c hc
  rw [hd, hcd.content hf]

def Extends (s t : Store) : Prop := ∀ a c, s.cell? a = some c → t.cell? a = some c

theorem Extends.refl (s : Store) : s.Extends s := fun _ _ h => h

theorem Extends.trans (h : s.Extends t) (k : t.Extends u) : s.Extends u :=
  fun a c hc => k a c (h a c hc)

theorem Extends.evolves (h : s.Extends t) : s.Evolves t := fun a c hc => ⟨c, h a c hc, .refl c⟩

theorem exists_of_cellOf? {r : Ref} {c : Cell} (h : s.cellOf? r = some c) :
    ∃ a, r = .address a ∧ s.cell? a = some c := by
  cases r with
  | scalar x => simp [cellOf?] at h
  | address a => exact ⟨a, rfl, h⟩

theorem cell?_alloc_of_cell? {c d : Cell} (h : s.cell? a = some c) :
    (s.alloc d).2.cell? a = some c := by
  rw [cell?_alloc_of_lt (lt_size_of_cell? h), h]

theorem extends_alloc (s : Store) (c : Cell) : s.Extends (s.alloc c).2 :=
  fun _ _ h => cell?_alloc_of_cell? h

theorem size_alloc (s : Store) (c : Cell) : (s.alloc c).2.cells.size = s.cells.size + 1 :=
  Array.size_push c

theorem evolves_alloc (s : Store) (c : Cell) : s.Evolves (s.alloc c).2 :=
  (extends_alloc s c).evolves

theorem evolves_update {c d : Cell} (h : s.cell? a = some c) (hcd : c.Becomes d) :
    s.Evolves (s.update a d) := by
  intro b e he
  by_cases hab : a = b
  · subst hab
    obtain rfl : c = e := Option.some.inj (h.symm.trans he)
    exact ⟨d, cell?_update_self (lt_size_of_cell? h), hcd⟩
  · exact ⟨e, by rw [cell?_update_of_ne hab, he], .refl e⟩

theorem update_of_cell? {c : Cell} (h : s.cell? a = some c) : s.update a c = s := by
  obtain ⟨ha, hc⟩ := Array.getElem?_eq_some_iff.mp h
  cases s
  simp only [update, mk.injEq]
  subst hc
  simp [Array.setIfInBounds]

theorem extends_newPairs (s : Store) (fields : List (String × Ref)) :
    s.Extends (s.newPairs fields).2 := by
  induction fields generalizing s with
  | nil => exact .refl s
  | cons field rest ih => exact (extends_alloc s _).trans (ih _)

theorem cellOf?_newPairs {s : Store} {fields : List (String × Ref)} {r : Ref}
    (h : r ∈ (s.newPairs fields).1) :
    ∃ items, (s.newPairs fields).2.cellOf? r = some (.sequence .tuple items) := by
  induction fields generalizing s with
  | nil => simp [newPairs] at h
  | cons field rest ih =>
    rcases List.mem_cons.mp h with rfl | h
    · exact ⟨_, extends_newPairs _ rest _ _ (cell?_alloc_self s _)⟩
    · exact ih h

theorem newPairs_ne_nil {fields : List (String × Ref)} (h : fields ≠ []) :
    (s.newPairs fields).1 ≠ [] := by
  cases fields with
  | nil => exact absurd rfl h
  | cons field rest => simp [newPairs]

/-- Reading anything but an iterator makes pairs of the fields of a record, or nothing. -/
theorem elements?_eq_some {items : List Ref} (hi : ∀ rest, s.cell? a ≠ some (.iterator rest))
    (h : s.elements? (.address a) = some (items, t)) :
    t = s ∨ ∃ c fields, s.cell? a = some c ∧ c.fields? = some fields ∧ fields ≠ [] ∧
      s.newPairs fields = (items, t) := by
  unfold elements? at h
  cases hc : s.cell? a with
  | none => simp [hc] at h
  | some c =>
    cases c with
    | iterator rest => exact absurd hc (hi rest)
    | buffer _ | sequence _ _ | set _ | mapping _ _ =>
      simp only [hc, Option.some.injEq, Prod.mk.injEq] at h
      exact .inl h.2.symm
    | credential c =>
      simp only [hc, Option.map_eq_some_iff] at h
      obtain ⟨fields, hf, hp⟩ := h
      refine .inr ⟨_, fields, rfl, hf, ?_, hp⟩
      cases c <;> cases hf <;> simp [Credential.fields]
    | _ =>
      simp only [hc, Option.map_eq_some_iff] at h
      obtain ⟨fields, hf, hp⟩ := h
      refine .inr ⟨_, fields, rfl, hf, ?_, hp⟩
      cases hf <;> simp

theorem extends_elements? {items : List Ref} (hi : ∀ rest, s.cell? a ≠ some (.iterator rest))
    (h : s.elements? (.address a) = some (items, t)) : s.Extends t := by
  rcases elements?_eq_some hi h with rfl | ⟨_, fields, -, -, -, hp⟩
  · exact .refl t
  · have hx := extends_newPairs s fields
    rwa [hp] at hx

theorem mem_putEntry {s : Store} {entries : List (Ref × Ref)} {key value : Ref} {e : Ref × Ref}
    (h : e ∈ s.putEntry entries key value) :
    (e.1 ∈ entries.map Prod.fst ∨ e.1 = key) ∧ (e.2 ∈ entries.map Prod.snd ∨ e.2 = value) := by
  induction entries with
  | nil =>
    obtain rfl := List.mem_singleton.mp h
    exact ⟨.inr rfl, .inr rfl⟩
  | cons entry rest ih =>
    rw [putEntry] at h
    split at h
    · rcases List.mem_cons.mp h with rfl | h
      · exact ⟨.inl List.mem_cons_self, .inr rfl⟩
      · exact ⟨.inl (List.mem_cons_of_mem _ (List.mem_map_of_mem h)),
          .inl (List.mem_cons_of_mem _ (List.mem_map_of_mem h))⟩
    · rcases List.mem_cons.mp h with rfl | h
      · exact ⟨.inl List.mem_cons_self, .inl List.mem_cons_self⟩
      · exact ⟨(ih h).1.imp_left (List.mem_cons_of_mem _),
          (ih h).2.imp_left (List.mem_cons_of_mem _)⟩

/-- A container of the store is changed in place, by what is stored in it. -/
structure ChangesOne (s t : Store) (container : Ref) (stored : List Ref) : Prop where
  one : ∃ a c d, container = .address a ∧ s.cell? a = some c ∧ c.Changed stored d ∧ t = s.update a d

theorem changesOne_setItem {container key value : Ref}
    (h : s.setItem container key value = .ok t) : s.ChangesOne t container [key, value] := by
  unfold setItem at h
  split at h
  · cases h
  · next a =>
    split at h
    · next entries ha =>
      split at h
      · cases h
      · cases h
        refine ⟨a, _, _, rfl, ha, .mapping fun e he => ?_, rfl⟩
        obtain ⟨hk, hv⟩ := mem_putEntry he
        exact ⟨hk.imp_right fun h => by simp [h], hv.imp_right fun h => by simp [h]⟩
    · next items ha =>
      cases hn : s.readIndex (.address a) key with
      | error e => simp [hn, bind, Except.bind] at h
      | ok n =>
        simp only [hn, bind, Except.bind] at h
        split at h <;> cases h
        exact ⟨a, _, _, rfl, ha, .list fun r hr =>
          (List.mem_or_eq_of_mem_set hr).imp_right fun h => by simp [h], rfl⟩
    · next content ha =>
      cases hn : s.readIndex (.address a) key with
      | error e => simp [hn, bind, Except.bind] at h
      | ok n =>
        cases ho : s.readOctet value with
        | error e => simp [hn, ho, bind, Except.bind] at h
        | ok octet =>
          simp only [hn, ho, bind, Except.bind] at h
          split at h <;> cases h
          exact ⟨a, _, _, rfl, ha, .buffer _ _, rfl⟩
    · cases h

theorem changesOne_append {container value : Ref} (h : s.append container value = .ok t) :
    s.ChangesOne t container [value] := by
  unfold append at h
  split at h
  · next items ha =>
    cases h
    exact ⟨_, _, _, rfl, ha, .list fun r hr => List.mem_append.mp hr, rfl⟩
  · next content ha =>
    cases ho : s.readOctet value with
    | error e => simp [ho, bind, Except.bind] at h
    | ok octet =>
      simp only [ho, bind, Except.bind, Except.ok.injEq] at h
      subst h
      exact ⟨_, _, _, rfl, ha, .buffer _ _, rfl⟩
  · cases h

end Store

end CredentialWrite
