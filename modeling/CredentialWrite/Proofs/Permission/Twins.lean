import CredentialWrite.Proofs.Permission.Refusal

/-!
# Twin builders of permissions

Two builders of permissions are twins when both or neither have an actor and both have as many
operations. Calls that set an actor alike, and grant as many operations, keep them twins and are
refused for the same reason.
-/

namespace CredentialWrite

def Failure.requestFault? : Failure → Option RequestFault
  | .request fault => some fault
  | _ => none

def fault? {α : Type} : Except Failure α → Option RequestFault
  | .error e => e.requestFault?
  | .ok _ => none

namespace PermissionBuilder

variable {b b' : PermissionBuilder} {s s' : Store}

structure Twin (b b' : PermissionBuilder) : Prop where
  actor : b'.actor.isSome = b.actor.isSome
  count : b'.operations.length = b.operations.length

def Call.SetsActor : Call → Prop
  | app _ | user _ _ | client _ => True
  | _ => False

def operationFault? (s : Store) : Ref → Option RequestFault
  | .scalar (.member (.operation _)) => none
  | r => some (.unknownOperation (s.view r).printed)

/-- The same call on two builders, but for the actor and for which operations are granted. -/
inductive AlikeCalls (b b' : PermissionBuilder) (s s' : Store) : Call → Call → Prop
  | actor {call call' : Call} (hc : call.SetsActor) (hc' : call'.SetsActor)
      (ha : (b'.perform s' call').result.isOk = (b.perform s call).result.isOk) :
      AlikeCalls b b' s s' call call'
  | operation {r r' : Ref} (h : operationFault? s' r' = operationFault? s r) :
      AlikeCalls b b' s s' (.operation r) (.operation r')
  | operations {rs rs' : List Ref}
      (h : rs'.map (operationFault? s') = rs.map (operationFault? s)) :
      AlikeCalls b b' s s' (.operations rs) (.operations rs')
  | build : AlikeCalls b b' s s' .build .build

structure TwinOutcomes (o o' : Outcome) : Prop where
  fault : fault? o'.result = fault? o.result
  builder : Twin o.builder o'.builder

theorem perform_setsActor (b : PermissionBuilder) (s : Store) {call : Call} (h : call.SetsActor) :
    fault? (b.perform s call).result = none ∧
      (b.perform s call).builder.operations = b.operations ∧
      (b.perform s call).builder.actor.isSome =
        ((b.perform s call).result.isOk || b.actor.isSome) := by
  have set (kind : ActorKind) (id : Ref) :
      fault? (b.setActor (Actor.make s kind id)).result = none ∧
      (b.setActor (Actor.make s kind id)).builder.operations = b.operations ∧
      (b.setActor (Actor.make s kind id)).builder.actor.isSome =
        ((b.setActor (Actor.make s kind id)).result.isOk || b.actor.isSome) := by
    unfold setActor Actor.make
    cases s.checkActor [("type", .scalar (.member (.actorKind kind))), ("id", id)] <;>
      simp [fault?, Failure.requestFault?, Except.isOk, Except.toBool]
  cases call with
  | app id | user id zone | client id => exact set _ _
  | _ => exact h.elim

theorem addOperation_eq (b : PermissionBuilder) (s : Store) (r : Ref) :
    match operationFault? s r with
    | none => ∃ o, b.addOperation s r = .ok { b with operations := b.operations ++ [o] }
    | some e => b.addOperation s r = .error e := by
  cases r with
  | address a => rfl
  | scalar x =>
    cases x with
    | member m =>
      cases m with
      | operation o => exact ⟨o, rfl⟩
      | _ => rfl
    | _ => rfl

theorem Twin.addOperations (h : Twin b b') {rs rs' : List Ref}
    (hr : rs'.map (operationFault? s') = rs.map (operationFault? s)) :
    TwinOutcomes (b.addOperations s rs) (b'.addOperations s' rs') := by
  induction rs generalizing b b' rs' with
  | nil =>
    obtain rfl : rs' = [] := by simpa using hr
    exact ⟨rfl, h⟩
  | cons r rest ih =>
    cases rs' with
    | nil => simp at hr
    | cons r' rest' =>
      rw [List.map_cons, List.map_cons, List.cons.injEq] at hr
      have added := addOperation_eq b s r
      have added' := addOperation_eq b' s' r'
      rw [hr.1] at added'
      cases hf : operationFault? s r with
      | some e =>
        simp only [hf] at added added'
        simp only [PermissionBuilder.addOperations, added, added']
        exact ⟨rfl, h⟩
      | none =>
        simp only [hf] at added added'
        obtain ⟨o, ho⟩ := added
        obtain ⟨o', ho'⟩ := added'
        simp only [PermissionBuilder.addOperations, ho, ho']
        have twin : Twin { b with operations := b.operations ++ [o] }
            { b' with operations := b'.operations ++ [o'] } := ⟨h.actor, by simp [h.count]⟩
        exact ih twin hr.2

theorem fault?_perform_build (b : PermissionBuilder) (s : Store) :
    fault? (b.perform s .build).result = if b.actor.isNone then some .actorUnset
      else if b.operations.isEmpty then some .operationsUnset else none := by
  have built : fault? (b.build s).1 = if b.actor.isNone then some .actorUnset
      else if b.operations.isEmpty then some .operationsUnset else none := by
    unfold build
    cases b.actor with
    | none => rfl
    | some x =>
      cases b.operations with
      | nil => rfl
      | cons o os =>
        simp only
        split <;> rfl
  rw [← built]
  simp only [perform]
  rcases b.build s with ⟨e | x, t⟩ <;> rfl

theorem Twin.perform (h : Twin b b') {call call' : Call}
    (hc : AlikeCalls b b' s s' call call') :
    TwinOutcomes (b.perform s call) (b'.perform s' call') := by
  cases hc with
  | actor hc hc' ha =>
    obtain ⟨fault, operations, actor⟩ := perform_setsActor b s hc
    obtain ⟨fault', operations', actor'⟩ := perform_setsActor b' s' hc'
    refine ⟨fault'.trans fault.symm, ?_, ?_⟩
    · rw [actor, actor', ha, h.actor]
    · rw [operations, operations', h.count]
  | operation hr =>
    rw [perform_operation, perform_operation]
    exact h.addOperations (by simpa using hr)
  | operations hr => exact h.addOperations hr
  | build =>
    refine ⟨?_, by rw [builder_perform_build, builder_perform_build]; exact h⟩
    have actors : b'.actor.isNone = b.actor.isNone := by simp [← Option.not_isSome, h.actor]
    have counts : b'.operations.isEmpty = b.operations.isEmpty := by
      rw [Bool.eq_iff_iff, List.isEmpty_iff_length_eq_zero, List.isEmpty_iff_length_eq_zero,
        h.count]
    rw [fault?_perform_build, fault?_perform_build, actors, counts]

end PermissionBuilder

end CredentialWrite
