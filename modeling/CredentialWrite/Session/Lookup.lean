import CredentialWrite.Failure
import CredentialWrite.Store.Comparison

/-!
# Looking things up

The parts of an object by name, the fixed words by their wire form, equality, and the hash of an
object.
Records and requests tell their fields and a few properties made from these; none of them can be
changed under any name.
-/

namespace CredentialWrite

namespace Cell

/-- What a record or a request tells beyond its fields. -/
def properties : Cell → List (String × Ref)
  | actor a => [("identity", .text a.identity)]
  | request r _ => [("name", .text r.name.content.path), ("type", .text r.kind.wire)]
  | credentialClient http => [("http", http)]
  | _ => []

end Cell

namespace Store

/-- The part of an object under a name: a field, or a property made from the fields. -/
def part (s : Store) (r : Ref) (name : String) : Except Failure Ref :=
  let parts : List (String × Ref) := match r with
    | .scalar (.member m) => [("name", .text m.label), ("value", .text m.wire)]
    | r => match s.cellOf? r with
      | some c => c.properties ++ c.fields?.getD []
      | none => []
  match parts.lookup name with
  | some x => .ok x
  | none => .error (.noAttribute (s.className r) name)

/-- Why an object does not answer a call under a name: what stands there is no operation, or nothing
does. -/
def callRefusal (s : Store) (r : Ref) (name : String) : Failure :=
  match s.part r name with
  | .ok x => .notCallable (s.className x)
  | .error e => e

/-- The word that an object stands for: itself, or the one with that wire form. -/
def memberOf (s : Store) (family : MemberFamily) (r : Ref) : Except Failure Member :=
  let found : Option Member := match r with
    | .scalar (.member m) => if m.family = family then some m else none
    | .scalar (.text t) => family.ofWire? t
    | _ => none
  match found with
  | some m => .ok m
  | none => .error (.notMember (s.view r).printed family.className)

/-- The refusal to change a part of a record or a request. -/
def changeRefusal? (s : Store) (r : Ref) (name : String) : Option Failure :=
  ((s.cellOf? r).bind Cell.fields?).map fun _ =>
    .validation ⟨s.className r, [⟨[.field name], .frozen⟩]⟩

def equalOf (s : Store) (r t : Ref) : Except Failure Bool :=
  match s.equal? r t with
  | some b => .ok b
  | none => .error .endlessComparison

/-- Whether two objects are unequal, where that is asked for. -/
def unequalOf (s : Store) (r t : Ref) : Except Failure Bool := (s.equalOf r t).map (!·)

/-- Objects that are in no container inside itself are compared by what they show. -/
theorem equalOf_of_hasLoop {s : Store} {r t : Ref} (hr : (s.view r).hasLoop = false)
    (ht : (s.view t).hasLoop = false) : s.equalOf r t = .ok ((s.view r).equal (s.view t)) := by
  simp [equalOf, equal?, hr, ht]

theorem equalOf_records {s : Store} {r t : Ref} {a b : Address} {p q : Record}
    (hr : s.view r = .record a p) (ht : s.view t = .record b q) :
    s.equalOf r t = .ok (p.same q) := by
  rw [equalOf_of_hasLoop (by rw [hr]; rfl) (by rw [ht]; rfl), hr, ht]
  rfl

def hashOf (s : Store) (H : Hashing) (r : Ref) : Except Failure Int :=
  match (s.view r).hash H with
  | .ok h => .ok h
  | .error e => .error (.unhashable e)

/-- The combination of a request's hashes, before it is cut to the size of a hash. -/
def foldOf (s : Store) (H : Hashing) (r : Ref) : Except Failure Int :=
  match s.cellOf? r with
  | some (.request q _) => match Value.requestFold H (s.viewRequest q) with
    | .ok h => .ok h
    | .error e => .error (.unhashable e)
  | _ => s.hashOf H r

end Store

end CredentialWrite
