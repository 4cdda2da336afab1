import CredentialWrite.Validation.Record

/-!
# Making requests from fields

A request needs a name, a kind and a value; overwriting is off and there are no permissions unless
given. The value is kept as it is, unless the request is declared for text or for RSA key pairs.
`RecordClass` lists everything that can be made from fields by name.
-/

namespace CredentialWrite

inductive RecordClass where
  | name (scheme : NameScheme)
  | actor
  | permission
  | user
  | certificate
  | keyPair (scheme : KeyScheme)
  | request (declared : ValueDeclaration)
  deriving DecidableEq

namespace RecordClass

def className : RecordClass → String
  | name scheme => scheme.className
  | actor => "Actor"
  | permission => "AdditionalPermission"
  | user => "UserCredential"
  | certificate => "CertificateCredential"
  | keyPair .plain => "KeyPairCredential"
  | keyPair .rsa => "RsaCredential"
  | keyPair .ssh => "SshCredential"
  | request declared => declared.className

end RecordClass

namespace Store

def heldPermissions (s : Store) : List Ref → List (Checked (Held Permission)) × Store
  | [] => ([], s)
  | r :: rest =>
    let (p, s) := s.heldPermission r
    let (ps, s) := s.heldPermissions rest
    (p :: ps, s)

def checkPermissions (s : Store) (r : Ref) : Checked (List (Held Permission)) × Store :=
  match s.tupleItems? r with
  | none => (.fault .notTuple, s)
  | some (items, s) =>
    let (checked, s) := s.heldPermissions items
    (.all 0 checked, s)

def checkValue (s : Store) (declared : ValueDeclaration) (r : Ref) : Checked Ref × Store :=
  match declared with
  | .any => (.ok r, s)
  | .text => ((s.checkText r).map Ref.text, s)
  | .rsa => s.rsaValue r

def checkRequest (s : Store) (declared : ValueDeclaration) (fields : List (String × Ref)) :
    Checked StoredRequest × Store :=
  let overwrite := Checked.optional fields "overwrite" false checkFlag
  let (name, s) := match fields.lookup "credential_name" with
    | some r => s.heldName r
    | none => (.fault .missing, s)
  let kind := Checked.required fields "value_type" checkKind
  let (value, s) := match fields.lookup "value" with
    | some r => s.checkValue declared r
    | none => (.fault .missing, s)
  let (permissions, s) := match fields.lookup "additional_permissions" with
    | some r => s.checkPermissions r
    | none => (.ok [], s)
  let checked := Checked.both (.both overwrite (name.under (.field "credential_name")))
    (.both (.both kind (value.under (.field "value")))
      (permissions.under (.field "additional_permissions")))
  (checked.map fun ((overwrite, name), ((kind, value), permissions)) =>
    { declared, overwrite, name, kind, value, permissions
      overwriteGiven := (fields.lookup "overwrite").isSome
      permissionsGiven := (fields.lookup "additional_permissions").isSome }, s)

/-- A new request from its fields. -/
def makeRequest (s : Store) (declared : ValueDeclaration) (fields : List (String × Ref)) :
    Except ValidationFailure (Held StoredRequest) × Store :=
  match s.checkRequest declared fields with
  | (.ok r, s) => let (held, s) := s.newRequest r; (.ok held, s)
  | (.error faults, s) => (.error ⟨declared.className, faults⟩, s)

/-- A new object of a class from its fields. -/
def make (s : Store) (c : RecordClass) (fields : List (String × Ref)) :
    Except ValidationFailure Ref × Store :=
  let stored (checked : Checked Cell) : Except ValidationFailure Ref × Store :=
    match checked with
    | .ok cell => let (a, s) := s.alloc cell; (.ok (.address a), s)
    | .error faults => (.error ⟨c.className, faults⟩, s)
  match c with
  | .name scheme => stored ((s.checkName scheme fields).map .name)
  | .actor => stored ((s.checkActor fields).map .actor)
  | .user => stored ((s.checkUser fields).map fun x => .credential (.user x))
  | .certificate => stored ((s.checkCertificate fields).map fun x => .credential (.certificate x))
  | .keyPair scheme =>
    stored ((s.checkKeyPair scheme fields).map fun x => .credential (.keyPair x))
  | .permission => match s.makePermission fields with
    | (.ok held, s) => (.ok held.ref, s)
    | (.error faults, s) => (.error ⟨c.className, faults⟩, s)
  | .request declared => match s.makeRequest declared fields with
    | (.ok held, s) => (.ok held.ref, s)
    | (.error e, s) => (.error e, s)

end Store

end CredentialWrite
