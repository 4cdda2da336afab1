import CredentialWrite.Failure
import CredentialWrite.Validation.Record
import CredentialWrite.Value.Printed

/-!
# Building permissions

A permission is built step by step: an actor, where the last one counts, and operations in order.
Every call gives the builder back, or the permission when it is built. A list of operations is
taken up to the first object that is no operation.
-/

namespace CredentialWrite

/-- An actor from its kind and an id of any class. -/
def Actor.make (s : Store) (kind : ActorKind) (id : Ref) : Except Failure (Held Actor) × Store :=
  match s.checkActor [("type", .scalar (.member (.actorKind kind))), ("id", id)] with
  | .ok x => let (held, s) := s.newActor x; (.ok held, s)
  | .error faults => (.error (.validation ⟨"Actor", faults⟩), s)

/-- The id of a user: below the zone, where there is one. -/
def Actor.userId (s : Store) (user zone : Ref) : Ref :=
  if s.isTrue zone then .text (Actor.zoned (s.view zone).shown (s.view user).shown) else user

/-- A user, in a zone or alone. -/
def Actor.user (s : Store) (id zone : Ref) : Except Failure (Held Actor) × Store :=
  Actor.make s .user (Actor.userId s id zone)

namespace PermissionBuilder

def new : PermissionBuilder := ⟨none, []⟩

inductive Call where
  | app (id : Ref)
  | user (id zone : Ref)
  | client (id : Ref)
  | operation (o : Ref)
  | operations (os : List Ref)
  | build

structure Outcome where
  result : Except Failure (Option (Held Permission))
  builder : PermissionBuilder
  store : Store

def setActor (b : PermissionBuilder) : Except Failure (Held Actor) × Store → Outcome
  | (.ok actor, s) => ⟨.ok none, { b with actor := some actor }, s⟩
  | (.error e, s) => ⟨.error e, b, s⟩

def addOperation (b : PermissionBuilder) (s : Store) (r : Ref) :
    Except RequestFault PermissionBuilder :=
  match r with
  | .scalar (.member (.operation o)) => .ok { b with operations := b.operations ++ [o] }
  | r => .error (.unknownOperation (s.view r).printed)

/-- Takes operations until one is refused; those before it are kept. -/
def addOperations (b : PermissionBuilder) (s : Store) : List Ref → Outcome
  | [] => ⟨.ok none, b, s⟩
  | r :: rest => match b.addOperation s r with
    | .ok b => b.addOperations s rest
    | .error e => ⟨.error (.request e), b, s⟩

def build (b : PermissionBuilder) (s : Store) : Except Failure (Held Permission) × Store :=
  match b.actor, b.operations with
  | none, _ => (.error (.request .actorUnset), s)
  | some _, [] => (.error (.request .operationsUnset), s)
  | some actor, o :: os =>
    let (listed, s) := s.newSequence .tuple
      ((o :: os).map fun o => .scalar (.member (.operation o)))
    match s.makePermission [("actor", actor.ref), ("operations", listed)] with
    | (.ok held, s) => (.ok held, s)
    | (.error faults, s) => (.error (.validation ⟨"AdditionalPermission", faults⟩), s)

def perform (b : PermissionBuilder) (s : Store) : Call → Outcome
  | .app id => b.setActor (Actor.make s .app id)
  | .user id zone => b.setActor (Actor.user s id zone)
  | .client id => b.setActor (Actor.make s .client id)
  | .operation o => match b.addOperation s o with
    | .ok b => ⟨.ok none, b, s⟩
    | .error e => ⟨.error (.request e), b, s⟩
  | .operations os => b.addOperations s os
  | .build => match b.build s with
    | (.ok held, s) => ⟨.ok (some held), b, s⟩
    | (.error e, s) => ⟨.error e, b, s⟩

end PermissionBuilder

end CredentialWrite
