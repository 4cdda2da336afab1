import CredentialWrite.Proofs.Request.History
import CredentialWrite.Proofs.Store.Soundness

/-!
# What makes a store grow

Calls on builders, reading and placing payloads: each makes objects of what exists, takes items
from iterators and does nothing else to a sound store.
-/

namespace CredentialWrite

namespace Store

variable {s t : Store} {a : Address} {r : Ref}

theorem Sound.grows_elements? (hs : s.Sound) {items : List Ref}
    (hi : ∀ rest, s.cell? a ≠ some (.iterator rest))
    (h : s.elements? (.address a) = some (items, t)) : s.Grows t := by
  rcases elements?_eq_some hi h with rfl | ⟨c, fields, hc, hf, -, hp⟩
  · exact .refl t
  · have step : s.Grows (s.newPairs fields).2 := by
      refine grows_newPairs fields fun field hm => ?_
      rcases Cell.fields?_parts hf field hm with hr | ⟨x, hx⟩
      · exact (hs.supports a c hc).parts _ hr
      · rw [hx]
        trivial
    rwa [hp] at step

end Store

theorem Fits.has {s : Store} {kind : CredentialKind} {r : Ref} (h : Fits s kind r) : s.Has r := by
  cases h with
  | value t | password t h => trivial
  | json h | user h | certificate h | rsa h hs | ssh h hs => exact Store.has_of_cell? h

namespace RequestBuilder

open Store

variable {b : RequestBuilder} {s : Store} {r : Ref}

theorem grows_readArgument (hs : s.Sound) (r : Ref) : s.Grows (readArgument s r).2 := by
  unfold readArgument
  split
  · exact .refl s
  · split
    · next items _ ha =>
      split
      · have step := grows_take ha items.length
        rwa [List.drop_length] at step
      · next ht =>
        rw [(takePermissions_some ht none).2]
        exact grows_take ha _
    · split
      · next hsource => exact grows_take hsource 1
      · exact .refl s
    · next a c hi hd =>
      split
      · exact .refl s
      · next he =>
        have step := hs.grows_elements? (fun rest hc => hi rest hc) he
        split <;> exact step
    · exact .refl s

theorem grows_readArguments (hs : s.Sound) (rs : List Ref) : s.Grows (readArguments s rs).2 := by
  induction rs generalizing s with
  | nil => exact .refl s
  | cons r rest ih =>
    have first := grows_readArgument hs r
    cases hr : readArgument s r with
    | mk result t =>
      rw [hr] at first
      cases result with
      | error e =>
        rw [readArguments_of_error hr]
        exact first
      | ok ps =>
        rw [readArguments_of_ok hr]
        exact first.trans (ih (first.sound hs))

theorem Coherent.has_permissions (h : Coherent b s) :
    ∀ r ∈ (b.permissions.getD []).map Held.ref, s.Has r := by
  intro r hr
  obtain ⟨p, hp, rfl⟩ := List.mem_map.mp hr
  obtain ⟨-, x, y, hc⟩ := permission?_eq_some (h.permissions p hp)
  exact has_of_cell? hc

theorem Coherent.grows_build (h : Coherent b s) : s.Grows (b.build s).2 := by
  cases hn : b.name with
  | none =>
    rw [build_nameUnset hn]
    exact .refl s
  | some n =>
    cases hv : b.value with
    | none =>
      rw [build_valueUnset hn hv]
      exact .refl s
    | some v =>
      rw [h.build_eq hn hv]
      have first := Grows.alloc (s := s) (c := .sequence .tuple _) ⟨h.has_permissions, trivial⟩
      have second := Grows.alloc (c := .sequence .tuple _)
        ⟨(h.evolves first.evolves).has_permissions, trivial⟩
      refine .make (first.trans second) ⟨?_, trivial⟩
      intro r hr
      have grown := (first.trans second).evolves
      simp only [Cell.parts, List.mem_cons, List.not_mem_nil, or_false] at hr
      rcases hr with rfl | rfl | rfl
      · exact (has_of_cell? (h.name n hn)).mono grown
      · exact (h.value _ hv).has.mono grown
      · simp [Has, size_alloc]

theorem Coherent.grows_perform (h : Coherent b s) (hs : s.Sound) (call : Call) :
    s.Grows (b.perform s call).store := by
  cases call with
  | overwrite flag => exact .refl s
  | name r | value r | permission r =>
    simp only [RequestBuilder.perform]
    split <;> exact .refl s
  | permissions rs =>
    rw [store_perform_permissions]
    exact grows_readArguments hs rs
  | build =>
    rw [store_perform_build]
    exact h.grows_build

end RequestBuilder

namespace PermissionBuilder

open Store

variable {b : PermissionBuilder} {s : Store}

theorem Coherent.evolves {t : Store} (h : b.Coherent s) (k : s.Evolves t) : b.Coherent t :=
  fun x hx => k.cell?_eq (h x hx) rfl

structure Goes (s : Store) (o : Outcome) : Prop where
  grows : s.Grows o.store
  coherent : o.builder.Coherent o.store

theorem Coherent.goes_setActor (h : b.Coherent s) (kind : ActorKind) (id : Ref) :
    Goes s (b.setActor (Actor.make s kind id)) := by
  unfold setActor Actor.make
  cases s.checkActor [("type", .scalar (.member (.actorKind kind))), ("id", id)] with
  | error faults => exact ⟨.refl s, h⟩
  | ok x =>
    refine ⟨.alloc ⟨by simp [Cell.parts], trivial⟩, ?_⟩
    intro y hy
    cases hy
    exact cell?_alloc_self s _

theorem Coherent.goes_addOperations (h : b.Coherent s) (os : List Ref) :
    Goes s (b.addOperations s os) := by
  induction os generalizing b with
  | nil => exact ⟨.refl s, h⟩
  | cons r rest ih =>
    rw [addOperations]
    split
    · next b' hb =>
      refine ih ?_
      unfold addOperation at hb
      split at hb <;> cases hb
      exact h
    · exact ⟨.refl s, h⟩

theorem perform_operation (b : PermissionBuilder) (s : Store) (r : Ref) :
    b.perform s (.operation r) = b.addOperations s [r] := rfl

theorem checkOperations_eq {o : Operation} {os : List Operation} {a : Address}
    {shape : SequenceShape} (ha : s.cell? a = some (.sequence shape
      ((o :: os).map fun o => .scalar (.member (.operation o))))) :
    s.checkOperations (.address a) = (.ok ⟨o :: os, List.cons_ne_nil o os⟩, s) := by
  have ht : s.tupleItems? (.address a) =
      some ((o :: os).map fun o => .scalar (.member (.operation o)), s) := by
    simp [tupleItems?, cellOf?, elements?, ha]
  have hc : ((o :: os).map fun o => Ref.scalar (.member (.operation o))).map checkOperation =
      (o :: os).map Except.ok := by
    simp [Function.comp_def, checkOperation]
  simp only [checkOperations, ht, hc, Checked.all_ok]

/-- A permission is made of an actor and of its operations in a sequence. -/
theorem makePermission_eq {x : Held Actor} {o : Operation} {os : List Operation} {a : Address}
    {shape : SequenceShape} (hx : s.cell? x.address = some (.actor x.content))
    (ha : s.cell? a = some (.sequence shape
      ((o :: os).map fun o => .scalar (.member (.operation o))))) :
    s.makePermission [("actor", x.ref), ("operations", .address a)] =
      (.ok (s.newPermission x (o :: os) (List.cons_ne_nil o os)).1,
        (s.newPermission x (o :: os) (List.cons_ne_nil o os)).2) := by
  have hactor : s.heldActor x.ref = (.ok x, s) := by
    simp only [heldActor, Held.ref, cellOf?, hx]
  have hc : s.checkPermission [("actor", x.ref), ("operations", .address a)] =
      (.ok (x, ⟨o :: os, List.cons_ne_nil o os⟩), s) := by
    simp [checkPermission, List.lookup_cons, hactor, checkOperations_eq ha]
  simp only [makePermission, hc]

theorem Coherent.build_eq (h : b.Coherent s) {x : Held Actor} (hx : b.actor = some x)
    {o : Operation} {os : List Operation} (ho : b.operations = o :: os) :
    let s₁ := (s.alloc (.sequence .tuple
      ((o :: os).map fun o => .scalar (.member (.operation o))))).2
    b.build s = (.ok (s₁.newPermission x (o :: os) (List.cons_ne_nil o os)).1,
      (s₁.newPermission x (o :: os) (List.cons_ne_nil o os)).2) := by
  intro s₁
  have hc : s₁.cell? x.address = some (.actor x.content) := h.evolves (evolves_alloc s _) x hx
  simp only [build, hx, ho, newSequence]
  rw [makePermission_eq hc (cell?_alloc_self s _)]

theorem Coherent.grows_build (h : b.Coherent s) : s.Grows (b.build s).2 := by
  cases hx : b.actor with
  | none =>
    simp only [build, hx]
    exact .refl s
  | some x =>
    cases ho : b.operations with
    | nil =>
      simp only [build, hx, ho]
      exact .refl s
    | cons o os =>
      rw [h.build_eq hx ho]
      have words (t : Store) : t.Supports (.sequence .tuple
          ((o :: os).map fun o => .scalar (.member (.operation o)))) := by
        refine ⟨fun r hr => ?_, trivial⟩
        obtain ⟨o, -, rfl⟩ := List.mem_map.mp hr
        trivial
      have made := (Grows.alloc (words s)).trans (.alloc (words _))
      refine .make made ⟨fun r hr => ?_, trivial⟩
      rcases List.mem_pair.mp hr with rfl | rfl
      · exact (has_of_cell? (h x hx)).mono made.evolves
      · simp [Has, size_alloc]

theorem Coherent.goes_perform (h : b.Coherent s) (call : Call) : Goes s (b.perform s call) := by
  cases call with
  | app id => exact h.goes_setActor .app id
  | user id zone => exact h.goes_setActor .user _
  | client id => exact h.goes_setActor .client id
  | operation o =>
    rw [perform_operation]
    exact h.goes_addOperations [o]
  | operations os => exact h.goes_addOperations os
  | build =>
    have step := h.grows_build
    simp only [perform]
    cases hb : b.build s with
    | mk result t =>
      rw [hb] at step
      cases result <;> exact ⟨step, h.evolves step.evolves⟩

end PermissionBuilder

namespace Store

variable {s t u : Store} {m : Address}

/-- From an address on there are no iterators, and all objects are made of objects from there on. -/
def ClosedFrom (s : Store) (m : Address) : Prop :=
  ∀ a c, m ≤ a → s.cell? a = some c →
    (∀ rest, c ≠ .iterator rest) ∧ ∀ b, .address b ∈ c.parts → m ≤ b

theorem closedFrom_size (s : Store) : s.ClosedFrom s.cells.size :=
  fun _ _ ha hc => absurd (lt_size_of_cell? hc) (Nat.not_lt_of_le ha)

theorem ClosedFrom.alloc {c : Cell} (h : s.ClosedFrom m) (hi : ∀ rest, c ≠ .iterator rest)
    (hc : ∀ b, .address b ∈ c.parts → m ≤ b) : (s.alloc c).2.ClosedFrom m := by
  intro a d ha hd
  rcases cell?_alloc c hd with hd | ⟨-, rfl⟩
  · exact h a d ha hd
  · exact ⟨hi, hc⟩

/-- What was made in a store from an address on: references to objects from there on, with all that
these are made of. -/
structure Made (s : Store) (m : Address) (rs : List Ref) (t : Store) : Prop where
  grows : s.Grows t
  has : ∀ r ∈ rs, t.Has r
  closed : t.ClosedFrom m
  fresh : ∀ a, .address a ∈ rs → m ≤ a

theorem ClosedFrom.made (h : s.ClosedFrom m) : s.Made m [] s :=
  ⟨.refl s, by simp, h, by simp⟩

theorem Made.scalar {rs : List Ref} (h : s.Made m rs t) (x : Scalar) :
    s.Made m (.scalar x :: rs) t :=
  ⟨h.grows, List.forall_mem_cons.mpr ⟨trivial, h.has⟩, h.closed,
    fun a ha => h.fresh a (by simpa using ha)⟩

theorem Made.append {rs rs' : List Ref} (h : s.Made m rs t) (k : t.Made m rs' u) :
    s.Made m (rs ++ rs') u where
  grows := h.grows.trans k.grows
  has r hr := (List.mem_append.mp hr).elim (fun hr => (h.has r hr).mono k.grows.evolves) (k.has r)
  closed := k.closed
  fresh a ha := (List.mem_append.mp ha).elim (h.fresh a) (k.fresh a)

theorem Made.subset {rs rs' : List Ref} (h : s.Made m rs t) (hr : rs' ⊆ rs) : s.Made m rs' t :=
  ⟨h.grows, fun r h' => h.has r (hr h'), h.closed, fun a ha => h.fresh a (hr ha)⟩

theorem Made.alloc {c : Cell} (h : s.Made m c.parts t) (hm : m ≤ s.cells.size)
    (hi : ∀ rest, c ≠ .iterator rest) (hc : t.HoldsWhatStands c) :
    s.Made m [.address t.cells.size] (t.alloc c).2 where
  grows := .make h.grows ⟨h.has, hc⟩
  has r hr := by
    obtain rfl := List.mem_singleton.mp hr
    simp [Has, size_alloc]
  closed := h.closed.alloc hi h.fresh
  fresh a ha := by
    obtain rfl : a = t.cells.size := by simpa using ha
    exact Nat.le_trans hm h.grows.evolves.size_le

mutual

theorem made_place {s : Store} (hm : m ≤ s.cells.size) (hc : s.ClosedFrom m) : ∀ j : WireJson,
    s.Made m [(s.place (.ofWire j)).1] (s.place (.ofWire j)).2
  | .null | .bool _ | .int _ | .number _ | .text _ => hc.made.scalar _
  | .array items => (made_placeItems hm hc items).alloc hm (by simp) trivial
  | .object entries => (made_placeEntries hm hc entries).alloc hm (by simp) trivial

theorem made_placeItems {s : Store} (hm : m ≤ s.cells.size) (hc : s.ClosedFrom m) :
    ∀ js : List WireJson,
    s.Made m (s.placeItems (Draft.ofWireItems js)).1 (s.placeItems (Draft.ofWireItems js)).2
  | [] => hc.made
  | j :: rest => by
    have first := made_place hm hc j
    exact first.append
      (made_placeItems (Nat.le_trans hm first.grows.evolves.size_le) first.closed rest)

theorem made_placeEntries {s : Store} (hm : m ≤ s.cells.size) (hc : s.ClosedFrom m) :
    ∀ es : List (String × WireJson),
      s.Made m (Cell.mapping false (s.placeEntries (Draft.ofWireEntries es)).1).parts
        (s.placeEntries (Draft.ofWireEntries es)).2
  | [] => hc.made
  | (key, j) :: rest => by
    have first := made_place hm hc j
    have others := made_placeEntries (Nat.le_trans hm first.grows.evolves.size_le) first.closed rest
    refine ((first.append others).scalar (.text key)).subset ?_
    exact List.cons_subset_cons _ (List.perm_middle.subset)

end

end Store

end CredentialWrite
