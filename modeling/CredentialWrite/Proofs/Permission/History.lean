import CredentialWrite.Payload.Reading
import CredentialWrite.Proofs.Permission.Twins
import CredentialWrite.Proofs.Permission.Zones

/-!
# Histories of builders of permissions

What a builder of permissions builds is told by the calls before: the actor of the last call that
made one, and all operations that were taken, in their order, those of refused calls included. A
call that makes no actor leaves the last one. What is built cannot be told from a permission that
is made at once of the same actor and the same operations, then or at any later time.
-/

namespace CredentialWrite

open Store

def Operation.ref (o : Operation) : Ref := .scalar (.member (.operation o))

structure Indistinguishable (s : Store) (r q : Ref) : Prop where
  equal : s.equalOf r q = .ok true
  hash : ∀ H, ∃ h, s.hashOf H r = .ok h ∧ s.hashOf H q = .ok h
  dump : ∀ o, ∃ d, s.dumpOf? o r = some (.ok d, s) ∧ s.dumpOf? o q = some (.ok d, s)

namespace Store

variable {s : Store} {a b : Address} {p : Permission} {x y z w : Address}

theorem dumpOf?_permission (h : s.cell? a = some (.permission p x y)) (o : DumpOptions) :
    s.dumpOf? o (.address a) = some (.ok (match o.mode with
      | .wire => .ofWire (.object (Value.selectedEntries o.selection (Value.permissionWire p)))
      | .plain => .mapping (selectedCopies o.selection (permissionCopy p))), s) := by
  have seen := view_permission h
  cases hm : o.mode with
  | wire =>
    have read : s.readRecord (.address a) = .record a (.permission p) := by
      simp only [readRecord, cellOf?, h, seen]
    simp only [dumpOf?, hm, read]
    rfl
  | plain =>
    simp only [dumpOf?, hm, copiedEntriesOf?, cellOf?, h, seen]
    rfl

theorem equalOf_permissions {q : Permission} (ha : s.cell? a = some (.permission p x y))
    (hb : s.cell? b = some (.permission q z w)) :
    s.equalOf (.address a) (.address b) = .ok (decide (p = q)) :=
  equalOf_records (view_permission ha) (view_permission hb)

theorem indistinguishable_permissions (ha : s.cell? a = some (.permission p x y))
    (hb : s.cell? b = some (.permission p z w)) :
    Indistinguishable s (.address a) (.address b) where
  equal := by rw [equalOf_permissions ha hb, decide_eq_true rfl]
  hash H := ⟨H.permission p, by rw [hashOf, view_permission ha]; rfl,
    by rw [hashOf, view_permission hb]; rfl⟩
  dump o := ⟨_, dumpOf?_permission ha o, dumpOf?_permission hb o⟩

end Store

structure StandsFor (s : Store) (r : Ref) (x : Held Actor) (os : List Operation) : Prop where
  nonempty : os ≠ []
  permission : ∃ a listed, r = .address a ∧
    s.cell? a = some (.permission ⟨x.content, os, nonempty⟩ x.address listed) ∧
    s.cell? listed = some (.sequence .tuple (os.map Operation.ref))
  actor : s.cell? x.address = some (.actor x.content)

/-- A permission as it is seen: the very actor that it was built with, and its operations. It
cannot be told from one that is made of an equal actor and of these operations in a sequence. -/
structure Grants (s : Store) (r : Ref) (x : Held Actor) (os : List Operation) : Prop where
  actor : s.part r "actor" = .ok x.ref ∧ s.cellOf? x.ref = some (.actor x.content)
  operations : ∃ a, s.part r "operations" = .ok (.address a) ∧
    s.cell? a = some (.sequence .tuple (os.map Operation.ref))
  made : ∀ actor listed shape, s.cellOf? actor = some (.actor x.content) →
    s.cellOf? listed = some (.sequence shape (os.map Operation.ref)) →
    ∃ q t, s.make .permission [("actor", actor), ("operations", listed)] = (.ok q, t) ∧
      Indistinguishable t r q

namespace StandsFor

variable {s t : Store} {r : Ref} {x : Held Actor} {os : List Operation}

theorem evolves (h : StandsFor s r x os) (k : s.Evolves t) : StandsFor t r x os := by
  obtain ⟨a, listed, rfl, hp, hl⟩ := h.permission
  exact ⟨h.nonempty, ⟨a, listed, rfl, k.cell?_eq hp rfl, k.cell?_eq hl rfl⟩,
    k.cell?_eq h.actor rfl⟩

theorem newPermission (ho : os ≠ []) (hx : s.cell? x.address = some (.actor x.content)) :
    StandsFor (s.newPermission x os ho).2 (s.newPermission x os ho).1.ref x os := by
  let s₁ := (s.alloc (.sequence .tuple (os.map Operation.ref))).2
  let s₂ := (s₁.alloc (.permission ⟨x.content, os, ho⟩ x.address s.cells.size)).2
  have first : s.Extends s₁ := extends_alloc s _
  have second : s₁.Extends s₂ := extends_alloc s₁ _
  refine ⟨ho, ⟨_, s.cells.size, rfl, cell?_alloc_self s₁ _, ?_⟩, ?_⟩
  · exact second _ _ (cell?_alloc_self s _)
  · exact second _ _ (first _ _ hx)

theorem indistinguishable {y : Held Actor} {q : Ref} (h : StandsFor s r x os)
    (k : StandsFor s q y os) (hxy : x.content = y.content) : Indistinguishable s r q := by
  obtain ⟨at_x, content⟩ := x
  obtain ⟨at_y, content'⟩ := y
  obtain rfl : content = content' := hxy
  obtain ⟨a, _, rfl, ha, -⟩ := h.permission
  obtain ⟨b, _, rfl, hb, -⟩ := k.permission
  exact indistinguishable_permissions ha hb

end StandsFor

theorem Store.extends_newPermission (s : Store) (x : Held Actor) {os : List Operation}
    (ho : os ≠ []) : s.Extends (s.newPermission x os ho).2 :=
  (extends_alloc s _).trans (extends_alloc _ _)

theorem StandsFor.grants {s : Store} {r : Ref} {x : Held Actor} {os : List Operation}
    (h : StandsFor s r x os) : Grants s r x os := by
  obtain ⟨a, listed, rfl, hp, hl⟩ := h.permission
  refine ⟨⟨RequestBuilder.part_of_lookup hp rfl, h.actor⟩,
    ⟨listed, RequestBuilder.part_of_lookup hp rfl, hl⟩, ?_⟩
  intro actor listed' shape hactor hlisted
  obtain ⟨b, rfl, hb⟩ := exists_of_cellOf? hactor
  obtain ⟨l, rfl, hl'⟩ := exists_of_cellOf? hlisted
  obtain ⟨o, os, rfl⟩ := List.exists_cons_of_ne_nil h.nonempty
  let y : Held Actor := ⟨b, x.content⟩
  have made : s.make .permission [("actor", y.ref), ("operations", .address l)] =
      (.ok (s.newPermission y (o :: os) h.nonempty).1.ref,
        (s.newPermission y (o :: os) h.nonempty).2) := by
    have checked := PermissionBuilder.makePermission_eq (x := y) hb hl'
    simp only [Store.make, checked]
  have later := h.evolves (s.extends_newPermission y h.nonempty).evolves
  refine ⟨_, _, made, ?_⟩
  exact later.indistinguishable (.newPermission h.nonempty hb) rfl

namespace PermissionBuilder

def Call.made? (s : Store) : Call → Option (Except Failure (Held Actor))
  | app id => some (Actor.make s .app id).1
  | user id zone => some (Actor.user s id zone).1
  | client id => some (Actor.make s .client id).1
  | _ => none

/-- A call on a builder, with the store that it found and whether it was accepted. -/
structure Event where
  store : Store
  call : Call
  accepted : Bool

namespace Event

def actor? (e : Event) : Option (Held Actor) :=
  if e.accepted then (e.call.made? e.store).bind Except.toOption else none

/-- The operations that a call takes, whether it is refused after them or not. -/
def operations (e : Event) : List Operation :=
  match e.call with
  | .operation r => (operation? r).toList
  | .operations rs => leadingOperations rs
  | _ => []

end Event

def lastActor (es : List Event) : Option (Held Actor) := (es.filterMap Event.actor?).getLast?

def granted (es : List Event) : List Operation := es.flatMap Event.operations

def event (b : PermissionBuilder) (s : Store) (call : Call) : Event :=
  ⟨s, call, (b.perform s call).result.isOk⟩

/-- What becomes of a builder by calls, where anything may happen to the store between them. -/
inductive Continues (b₀ : PermissionBuilder) (s₀ : Store) :
    List Event → PermissionBuilder → Store → Prop
  | start : Continues b₀ s₀ [] b₀ s₀
  | call {es : List Event} {b : PermissionBuilder} {s : Store} (h : Continues b₀ s₀ es b s)
      (call : Call) :
      Continues b₀ s₀ (es ++ [b.event s call]) (b.perform s call).builder (b.perform s call).store
  | meanwhile {es : List Event} {b : PermissionBuilder} {s t : Store}
      (h : Continues b₀ s₀ es b s) (k : s.Evolves t) : Continues b₀ s₀ es b t

structure Sets (b : PermissionBuilder) (e : Event) (b' : PermissionBuilder) : Prop where
  actor : b'.actor = e.actor?.or b.actor
  operations : b'.operations = b.operations ++ e.operations

/-- A call for an actor is accepted when the actor can be made, and then sets it. -/
theorem perform_of_made? (b : PermissionBuilder) (s : Store) {call : Call}
    {made : Except Failure (Held Actor)} (h : call.made? s = some made) :
    (b.perform s call).result = made.map (fun _ => none) ∧
      (b.perform s call).builder = { b with actor := made.toOption.or b.actor } := by
  have set (x : Except Failure (Held Actor) × Store) :
      (b.setActor x).result = x.1.map (fun _ => none) ∧
      (b.setActor x).builder = { b with actor := x.1.toOption.or b.actor } := by
    rcases x with ⟨e | x, t⟩ <;> exact ⟨rfl, rfl⟩
  cases call with
  | app id | user id zone | client id =>
    cases h
    exact set _
  | _ => cases h

theorem isSome_made?_iff {call : Call} {s : Store} : (call.made? s).isSome ↔ call.SetsActor := by
  cases call <;> simp [Call.made?, Call.SetsActor]

theorem actor?_event_of_made? {b : PermissionBuilder} {s : Store} {call : Call}
    {made : Except Failure (Held Actor)} (h : call.made? s = some made) :
    (b.event s call).actor? = made.toOption := by
  rw [Event.actor?, event, (perform_of_made? b s h).1]
  cases made <;> simp [h, Except.map, Except.isOk, Except.toBool, Except.toOption]

theorem actor?_event_of_not_setsActor {b : PermissionBuilder} {s : Store} {call : Call}
    (h : ¬ call.SetsActor) : (b.event s call).actor? = none := by
  rw [← isSome_made?_iff (s := s), Option.not_isSome_iff_eq_none] at h
  simp [Event.actor?, event, h]

theorem leadingOperations_singleton (r : Ref) :
    leadingOperations [r] = (operation? r).toList := by
  cases h : operation? r <;> simp [leadingOperations, h]

theorem perform_sets (b : PermissionBuilder) (s : Store) (call : Call) :
    Sets b (b.event s call) (b.perform s call).builder := by
  by_cases hc : call.SetsActor
  · obtain ⟨made, hm⟩ := Option.isSome_iff_exists.mp ((isSome_made?_iff (s := s)).mpr hc)
    rw [(perform_of_made? b s hm).2]
    refine ⟨by rw [actor?_event_of_made? hm], ?_⟩
    cases call with
    | app id | user id zone | client id => exact (List.append_nil _).symm
    | _ => exact hc.elim
  · have unset := actor?_event_of_not_setsActor (b := b) (s := s) hc
    cases call with
    | app id | user id zone | client id => exact absurd trivial hc
    | operation r =>
      rw [perform_operation, builder_addOperations, leadingOperations_singleton]
      exact ⟨by rw [unset, Option.none_or], rfl⟩
    | operations rs =>
      rw [perform, builder_addOperations]
      exact ⟨by rw [unset, Option.none_or], rfl⟩
    | build =>
      rw [builder_perform_build]
      exact ⟨by rw [unset, Option.none_or], (List.append_nil _).symm⟩

theorem actor?_event_eq_none_iff {b : PermissionBuilder} {s : Store} {call : Call} :
    (b.event s call).actor? = none ↔ (call.SetsActor → (b.event s call).accepted = false) := by
  by_cases hc : call.SetsActor
  · obtain ⟨made, hm⟩ := Option.isSome_iff_exists.mp ((isSome_made?_iff (s := s)).mpr hc)
    rw [actor?_event_of_made? hm, event, (perform_of_made? b s hm).1]
    cases made <;> simp [hc, Except.map, Except.isOk, Except.toBool, Except.toOption]
  · simp [hc, actor?_event_of_not_setsActor hc]

theorem perform_build (b : PermissionBuilder) (s : Store) :
    b.perform s .build = ⟨(b.build s).1.map some, b, (b.build s).2⟩ := by
  simp only [perform]
  rcases b.build s with ⟨e | p, t⟩ <;> rfl

structure Tells (es : List Event) (b : PermissionBuilder) : Prop where
  actor : b.actor = lastActor es
  operations : b.operations = granted es

namespace Continues

variable {b₀ b : PermissionBuilder} {s₀ s : Store} {es : List Event}

theorem coherent (h : Continues b₀ s₀ es b s) (h₀ : b₀.Coherent s₀) : b.Coherent s := by
  induction h with
  | start => exact h₀
  | call h call ih => exact (ih.goes_perform call).coherent
  | meanwhile h k ih => exact ih.evolves k

theorem evolves (h : Continues b₀ s₀ es b s) (h₀ : b₀.Coherent s₀) : s₀.Evolves s := by
  induction h with
  | start => exact .refl s₀
  | call h call ih => exact ih.trans ((h.coherent h₀).goes_perform call).grows.evolves
  | meanwhile h k ih => exact ih.trans k

theorem tells (h : Continues new s₀ es b s) : Tells es b := by
  induction h with
  | start => exact ⟨rfl, rfl⟩
  | @call es b s h call ih =>
    have sets := perform_sets b s call
    constructor
    · rw [sets.actor, ih.actor, lastActor, lastActor, getLast?_filterMap_append]
    · rw [sets.operations, ih.operations, granted, granted, List.flatMap_append,
        List.flatMap_singleton]
  | meanwhile h k ih => exact ih

theorem lastActor_eq_none_iff (h : Continues b₀ s₀ es b s) :
    lastActor es = none ↔ ∀ e ∈ es, e.call.SetsActor → e.accepted = false := by
  rw [lastActor, List.getLast?_eq_none_iff, List.filterMap_eq_nil_iff]
  refine forall₂_congr ?_
  induction h with
  | start => simp
  | call h call ih =>
    intro e he
    rcases List.mem_append.mp he with he | he
    · exact ih e he
    · obtain rfl := List.mem_singleton.mp he
      exact actor?_event_eq_none_iff
  | meanwhile h k ih => exact ih

end Continues

theorem coherent_new (s : Store) : new.Coherent s := fun _ h => nomatch h

/-- A coherent builder with an actor and operations builds a permission that stands for them. -/
theorem Coherent.standsFor_build {b : PermissionBuilder} {s : Store} (h : b.Coherent s)
    {x : Held Actor} (hx : b.actor = some x) (ho : b.operations ≠ []) :
    ∃ p, (b.build s).1 = .ok p ∧ StandsFor (b.build s).2 p.ref x b.operations := by
  obtain ⟨o, os, ho⟩ := List.exists_cons_of_ne_nil ho
  rw [h.build_eq hx ho, ho]
  exact ⟨_, rfl, .newPermission _ (h.evolves (evolves_alloc s _) x hx)⟩

/-- A builder refuses to build exactly while no actor was made or no operation was taken, the actor
first. Otherwise it builds what the calls before tell, and this stays as it was built, whatever is
called after. -/
theorem build_tells_calls {s₀ s : Store} {es : List Event} {b : PermissionBuilder}
    (h : Continues new s₀ es b s) :
    let after := b.perform s .build
    (lastActor es = none ↔ ∀ e ∈ es, e.call.SetsActor → e.accepted = false) ∧
    match lastActor es, granted es with
    | none, _ => after.result = .error (.request .actorUnset)
    | some _, [] => after.result = .error (.request .operationsUnset)
    | some x, o :: os => ∃ p, after.result = .ok (some p) ∧
        ∀ es' b' t, Continues after.builder after.store es' b' t → Grants t p.ref x (o :: os) := by
  refine ⟨h.lastActor_eq_none_iff, ?_⟩
  have coherent := h.coherent (coherent_new s₀)
  rw [← h.tells.actor, ← h.tells.operations]
  simp only [perform_build]
  cases hx : b.actor with
  | none => simp only [build, hx]; rfl
  | some x =>
    cases ho : b.operations with
    | nil => simp only [build, hx, ho]; rfl
    | cons o os =>
      obtain ⟨p, hp, stands⟩ := coherent.standsFor_build hx (by simp [ho])
      refine ⟨p, by rw [hp]; rfl, fun es' b' t later => ?_⟩
      rw [ho] at stands
      have built : b.Coherent (b.build s).2 := coherent.evolves coherent.grows_build.evolves
      exact (stands.evolves (later.evolves built)).grants

def play (b : PermissionBuilder) (s : Store) : List Call → List Event × PermissionBuilder × Store
  | [] => ([], b, s)
  | call :: rest =>
    let (es, last) := (b.perform s call).builder.play (b.perform s call).store rest
    (b.event s call :: es, last)

theorem Continues.play {b₀ b : PermissionBuilder} {s₀ s : Store} {es : List Event}
    (h : Continues b₀ s₀ es b s) (calls : List Call) :
    Continues b₀ s₀ (es ++ (b.play s calls).1) (b.play s calls).2.1 (b.play s calls).2.2 := by
  induction calls generalizing es b s with
  | nil => simpa [PermissionBuilder.play] using h
  | cons call rest ih =>
    have hrest := ih (h.call call)
    rw [List.append_assoc, List.singleton_append] at hrest
    exact hrest

theorem continues_play (b : PermissionBuilder) (s : Store) (calls : List Call) :
    Continues b s (b.play s calls).1 (b.play s calls).2.1 (b.play s calls).2.2 :=
  Continues.start.play calls

/-- The second and the third call are refused, the third one after an operation. The permission
that is built then is not changed by the calls after. -/
theorem permission_of_accepted_actor_and_refused_operations :
    let before := new.play .empty [.app (.text "guid"), .user (.text "") .none,
      .operations [Operation.read.ref, .text "admin", Operation.write.ref],
      .operation Operation.delete.ref]
    let built := before.2.1.perform before.2.2 .build
    let after := built.builder.play built.store
      [.client (.text "other"), .operation Operation.write.ref]
    ∃ p x, built.result = .ok (some p) ∧ x.content.identity = "mtls-app:guid" ∧
      Grants after.2.2 p.ref x [.read, .delete] := by
  intro before built after
  have run : Continues new .empty before.1 before.2.1 before.2.2 := continues_play new .empty _
  have last : lastActor before.1 = some ⟨0, .app, "guid", by decide⟩ := rfl
  have taken : granted before.1 = [.read, .delete] := rfl
  have told := (build_tells_calls run).2
  rw [last, taken] at told
  obtain ⟨p, hp, stays⟩ := told
  exact ⟨p, _, hp, rfl, stays _ _ _ (continues_play _ _ _)⟩

end PermissionBuilder

end CredentialWrite
