import CredentialWrite.Store.View
import CredentialWrite.Validation.Field

/-!
# Making records from fields

Names, actors, permissions and credentials from fields by name. A field for a record takes a record
of its class or a mapping of that record's fields; a field for a tuple takes lists, tuples, sets
and iterators, which it reads to their end, and the fields of a record. The rule over a whole
credential is checked only when each of its fields is right.
-/

namespace CredentialWrite.Store

def checkName (s : Store) (scheme : NameScheme) (fields : List (String × Ref)) :
    Checked CredentialName :=
  (Checked.required fields "name" s.checkFilledText).map fun ⟨path, h⟩ => ⟨scheme, path, h⟩

def checkActor (s : Store) (fields : List (String × Ref)) : Checked Actor :=
  (Checked.both (Checked.required fields "type" checkActorKind)
    (Checked.required fields "id" s.checkFilledText)).map fun (kind, ⟨id, h⟩) => ⟨kind, id, h⟩

def checkUser (s : Store) (fields : List (String × Ref)) : Checked UserCredential :=
  (Checked.both (Checked.optional fields "username" .leftOut s.checkSlot)
    (Checked.required fields "password" s.checkFilledText)).map
      fun (username, ⟨password, h⟩) => ⟨username, password, h⟩

def checkCertificate (s : Store) (fields : List (String × Ref)) :
    Checked CertificateCredential :=
  let slot (name : String) := Checked.optional fields name .leftOut s.checkSlot
  match Checked.both (Checked.both (slot "certificate") (slot "ca"))
      (Checked.both (slot "private_key") (slot "ca_name")) with
  | .error faults => .error faults
  | .ok ((certificate, ca), (privateKey, caName)) =>
    if h : (certificate.isFilled || ca.isFilled) = true then
      .ok ⟨certificate, ca, privateKey, caName, h⟩
    else .fault .noCertificate

def checkKeyPair (s : Store) (scheme : KeyScheme) (fields : List (String × Ref)) :
    Checked KeyPair :=
  let slot (name : String) := Checked.optional fields name .leftOut s.checkSlot
  match Checked.both (slot "public_key") (slot "private_key") with
  | .error faults => .error faults
  | .ok (publicKey, privateKey) =>
    if h : (publicKey.isFilled || privateKey.isFilled) = true then
      .ok ⟨scheme, publicKey, privateKey, h⟩
    else .fault .noKey

/-- An actor, or a new one from a mapping of its fields. -/
def heldActor (s : Store) (r : Ref) : Checked (Held Actor) × Store :=
  match r, s.cellOf? r with
  | .address a, some (.actor x) => (.ok ⟨a, x⟩, s)
  | _, some (.mapping _ entries) => match s.checkActor (fieldsOfEntries entries) with
    | .ok x => let (held, s) := s.newActor x; (.ok held, s)
    | .error faults => (.error faults, s)
  | _, _ => (.fault (.notRecord "Actor"), s)

def heldName (s : Store) (r : Ref) : Checked (Held CredentialName) × Store :=
  match r, s.cellOf? r with
  | .address a, some (.name n) => (.ok ⟨a, n⟩, s)
  | _, some (.mapping _ entries) => match s.checkName .plain (fieldsOfEntries entries) with
    | .ok n => let (held, s) := s.newName n; (.ok held, s)
    | .error faults => (.error faults, s)
  | _, _ => (.fault (.notRecord "CredentialName"), s)

/-- The items that a field for a tuple reads. -/
def tupleItems? (s : Store) (r : Ref) : Option (List Ref × Store) :=
  match s.cellOf? r with
  | some (.sequence ..) | some (.set _) | some (.iterator _) => s.elements? r
  | some c => if c.fields?.isSome then s.elements? r else none
  | none => none

/-- At least one operation. -/
def checkOperations (s : Store) (r : Ref) :
    Checked { os : List Operation // os ≠ [] } × Store :=
  match s.tupleItems? r with
  | none => (.fault .notTuple, s)
  | some (items, s) =>
    let checked := items.map checkOperation
    let short : Bool := checked.all fun
      | .ok _ => false
      | .error _ => true
    match Checked.all 0 checked with
    | .error faults => (.error (if short then faults ++ [⟨[], .emptyTuple⟩] else faults), s)
    | .ok [] => (.fault .emptyTuple, s)
    | .ok (o :: os) => (.ok ⟨o :: os, List.cons_ne_nil o os⟩, s)

/-- The actor and the operations of a permission to be made. -/
def checkPermission (s : Store) (fields : List (String × Ref)) :
    Checked (Held Actor × { os : List Operation // os ≠ [] }) × Store :=
  let (actor, s) := match fields.lookup "actor" with
    | some r => s.heldActor r
    | none => (.fault .missing, s)
  let (operations, s) := match fields.lookup "operations" with
    | some r => s.checkOperations r
    | none => (.fault .missing, s)
  (.both (actor.under (.field "actor")) (operations.under (.field "operations")), s)

/-- A new permission from its fields. -/
def makePermission (s : Store) (fields : List (String × Ref)) :
    Checked (Held Permission) × Store :=
  match s.checkPermission fields with
  | (.ok (actor, ⟨operations, h⟩), s) =>
    let (held, s) := s.newPermission actor operations h
    (.ok held, s)
  | (.error faults, s) => (.error faults, s)

def heldPermission (s : Store) (r : Ref) : Checked (Held Permission) × Store :=
  match r, s.cellOf? r with
  | .address a, some (.permission p _ _) => (.ok ⟨a, p⟩, s)
  | _, some (.mapping _ entries) => s.makePermission (fieldsOfEntries entries)
  | _, _ => (.fault (.notRecord "AdditionalPermission"), s)

/-- A key pair of the RSA scheme, or a new one from a mapping of its fields. -/
def rsaValue (s : Store) (r : Ref) : Checked Ref × Store :=
  match s.cellOf? r with
  | some (.credential (.keyPair c)) =>
    if c.scheme = .rsa then (.ok r, s) else (.fault (.notRecord "RsaCredential"), s)
  | some (.mapping _ entries) => match s.checkKeyPair .rsa (fieldsOfEntries entries) with
    | .ok c => let (a, s) := s.alloc (.credential (.keyPair c)); (.ok (.address a), s)
    | .error faults => (.error faults, s)
  | _ => (.fault (.notRecord "RsaCredential"), s)

end CredentialWrite.Store
