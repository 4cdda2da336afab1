import CredentialWrite.Proofs.Store.Growth

/-!
# Refused calls on builders of permissions

A refused call leaves the actor of the builder as it was. It leaves the operations as they were too,
unless it came with several objects at once: those that stand before the first object that is no
operation have been taken by then, and a permission that is built later grants them.
-/

namespace CredentialWrite

def operation? : Ref → Option Operation
  | .scalar (.member (.operation o)) => some o
  | _ => none

theorem operation?_eq_some {r : Ref} {o : Operation} :
    operation? r = some o ↔ r = .scalar (.member (.operation o)) := by
  unfold operation?
  split
  · simp
  · next hr =>
    simp only [reduceCtorEq, false_iff]
    exact hr o

/-- The operations that stand before the first object that is none. -/
def leadingOperations : List Ref → List Operation
  | [] => []
  | r :: rest => match operation? r with
    | some o => o :: leadingOperations rest
    | none => []

theorem leadingOperations_eq_nil_iff {rs : List Ref} :
    leadingOperations rs = [] ↔ ∀ o rest, rs ≠ .scalar (.member (.operation o)) :: rest := by
  cases rs with
  | nil => simp [leadingOperations]
  | cons r rest =>
    cases ho : operation? r with
    | none =>
      simp only [leadingOperations, ho, true_iff]
      rintro o rest' heq
      rw [operation?_eq_some.mpr (List.cons.inj heq).1] at ho
      cases ho
    | some o =>
      simp only [leadingOperations, ho, reduceCtorEq, false_iff, not_forall, not_not]
      exact ⟨o, rest, by rw [operation?_eq_some.mp ho]⟩

namespace PermissionBuilder

variable {b : PermissionBuilder} {s : Store}

/-- The operations that a call has come to when it is refused. -/
def Call.leading : Call → List Operation
  | operations rs => leadingOperations rs
  | _ => []

theorem addOperation_of_none (b : PermissionBuilder) (s : Store) {r : Ref}
    (h : operation? r = none) :
    b.addOperation s r = .error (.unknownOperation (s.view r).printed) := by
  unfold addOperation
  split
  · cases h
  · rfl

theorem builder_addOperations (b : PermissionBuilder) (s : Store) (rs : List Ref) :
    (b.addOperations s rs).builder =
      { b with operations := b.operations ++ leadingOperations rs } := by
  induction rs generalizing b with
  | nil => simp [addOperations, leadingOperations]
  | cons r rest ih =>
    cases ho : operation? r with
    | none => simp [addOperations, leadingOperations, ho, addOperation_of_none b s ho]
    | some o =>
      obtain rfl := operation?_eq_some.mp ho
      simp [addOperations, addOperation, leadingOperations, ho, ih]

theorem builder_setActor_of_error {made : Except Failure (Held Actor) × Store} {e : Failure}
    (h : (b.setActor made).result = .error e) : (b.setActor made).builder = b := by
  unfold setActor at h ⊢
  split at h
  · cases h
  · rfl

theorem builder_perform_build (b : PermissionBuilder) (s : Store) :
    (b.perform s .build).builder = b := by
  simp only [perform]
  rcases b.build s with ⟨e | x, t⟩ <;> rfl

theorem builder_perform_of_error {call : Call} {e : Failure}
    (h : (b.perform s call).result = .error e) :
    (b.perform s call).builder = { b with operations := b.operations ++ call.leading } := by
  cases call with
  | app id | user id zone | client id =>
    simp only [Call.leading, List.append_nil]
    exact builder_setActor_of_error h
  | operation r =>
    cases ho : operation? r with
    | none => simp [perform, Call.leading, addOperation_of_none b s ho]
    | some o =>
      obtain rfl := operation?_eq_some.mp ho
      cases h
  | operations rs => exact builder_addOperations b s rs
  | build =>
    simp only [Call.leading, List.append_nil]
    exact builder_perform_build b s

/-- Whatever call is refused, the actor stays, and the operations before the first object that is
none are added. So the builder is as it was unless several objects came at once and the first of
them is an operation. -/
theorem refusal_keeps_actor_and_adds_leading_operations (b : PermissionBuilder) (s : Store)
    (call : Call) {e : Failure} (h : (b.perform s call).result = .error e) :
    (b.perform s call).builder.actor = b.actor ∧
    (b.perform s call).builder.operations = b.operations ++ call.leading ∧
    ((b.perform s call).builder = b ↔
      ∀ o rest, call ≠ .operations (.scalar (.member (.operation o)) :: rest)) := by
  rw [builder_perform_of_error h]
  refine ⟨rfl, rfl, ?_⟩
  have kept : ({ b with operations := b.operations ++ call.leading } : PermissionBuilder) = b ↔
      call.leading = [] := by
    obtain ⟨actor, os⟩ := b
    simp
  rw [kept]
  cases call with
  | operations rs => simpa [Call.leading] using leadingOperations_eq_nil_iff
  | _ => simp [Call.leading]

/-- Two operations come before a text, and one after it. -/
theorem refusal_at_text_adds_two_operations :
    let calls := Call.operations [.scalar (.member (.operation .read)),
      .scalar (.member (.operation .delete)), .text "admin", .scalar (.member (.operation .write))]
    (new.perform .empty calls).result = .error (.request (.unknownOperation "'admin'")) ∧
      (new.perform .empty calls).builder.operations = [.read, .delete] := by
  intro calls
  have refused : (new.perform .empty calls).result =
      .error (.request (.unknownOperation "'admin'")) := rfl
  exact ⟨refused,
    (refusal_keeps_actor_and_adds_leading_operations new .empty calls refused).2.1⟩

/-- A builder with an actor and no operation grants none. After a call that is refused it grants the
operation that came first in the call. -/
theorem refused_operations_are_granted :
    let named := new.perform .empty (.app (.text "guid"))
    let refused := named.builder.perform named.store
      (.operations [.scalar (.member (.operation .delete)), .text "admin"])
    (named.builder.perform named.store .build).result = .error (.request .operationsUnset) ∧
      refused.result = .error (.request (.unknownOperation "'admin'")) ∧
      refused.builder ≠ named.builder ∧
      ∃ held, (refused.builder.perform refused.store .build).result = .ok (some held) ∧
        held.content.operations = [.delete] := by
  refine ⟨rfl, rfl, fun same => ?_, _, rfl, rfl⟩
  exact absurd (congrArg PermissionBuilder.operations same) (List.cons_ne_nil _ _)

end PermissionBuilder

end CredentialWrite
