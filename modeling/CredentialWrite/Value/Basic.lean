import CredentialWrite.Binary64.Basic
import CredentialWrite.Credential
import CredentialWrite.Name
import CredentialWrite.Permission.Basic
import CredentialWrite.Request.Basic

/-!
# Values

What a credential may hold: scalars, containers, the records of this library and requests. A value
is the content of an object at one moment, as a tree; containers keep the address of the object
that they were read from, so that an object found again inside itself can be marked by a `loop`
and a copy can point back to what it leaves as it is. An iterator also keeps the address of the
one that it takes its items from. A float carries a number that tells apart
floats made separately, because a NaN equals only itself.
-/

namespace CredentialWrite

/-- One of the fixed words of this library. -/
inductive Member where
  | kind (k : CredentialKind)
  | operation (o : Operation)
  | actorKind (k : ActorKind)
  deriving DecidableEq

namespace Member

def label : Member → String
  | kind k => k.label
  | operation o => o.label
  | actorKind k => k.label

def wire : Member → String
  | kind k => k.wire
  | operation o => o.wire
  | actorKind k => k.wire

end Member

/-- The families of fixed words. -/
inductive MemberFamily where
  | kind
  | operation
  | actorKind
  deriving DecidableEq

namespace MemberFamily

def className : MemberFamily → String
  | kind => "ValueType"
  | operation => "Operation"
  | actorKind => "ActorType"

/-- The words of a family in order. -/
def members : MemberFamily → List Member
  | kind => CredentialKind.all.map .kind
  | operation => Operation.all.map .operation
  | actorKind => ActorKind.all.map .actorKind

def ofLabel? (f : MemberFamily) (label : String) : Option Member :=
  f.members.find? (·.label = label)

def ofWire? (f : MemberFamily) (wire : String) : Option Member := f.members.find? (·.wire = wire)

end MemberFamily

namespace Member

def family : Member → MemberFamily
  | kind _ => .kind
  | operation _ => .operation
  | actorKind _ => .actorKind

def className (m : Member) : String := m.family.className

end Member

abbrev Address := Nat

inductive Scalar where
  | none
  | bool (b : Bool)
  | int (n : Int)
  | float (x : Binary64) (copy : Nat)
  | text (s : String)
  | octets (content : List UInt8)
  | member (m : Member)
  deriving DecidableEq

/-- Records without any parts that can change. -/
inductive Record where
  | name (n : CredentialName)
  | actor (a : Actor)
  | permission (p : Permission)
  | credential (c : Credential)
  deriving DecidableEq

inductive SequenceShape where
  | list
  | tuple
  deriving DecidableEq

inductive ContainerShape where
  | list
  | tuple
  | set
  | mapping
  | readOnlyMapping
  deriving DecidableEq

/-- The objects of this library that a value may refer to without holding their content. -/
inductive ObjectClass where
  | requestBuilder (k : CredentialKind)
  | permissionBuilder
  | httpClient
  | credentialClient
  | preparedRequest
  deriving DecidableEq

inductive Value where
  | scalar (s : Scalar)
  | buffer (addr : Address) (content : List UInt8)
  | sequence (addr : Address) (shape : SequenceShape) (items : List Value)
  | set (addr : Address) (items : List Value)
  | mapping (addr : Address) (readOnly : Bool) (entries : List (Value × Value))
  | iterator (addr source : Address) (rest : List Value)
  | record (addr : Address) (r : Record)
  | request (addr : Address) (r : WriteRequest CredentialName Permission Value)
  | object (addr : Address) (class_ : ObjectClass)
  | loop (addr : Address) (shape : ContainerShape)
  deriving Inhabited

namespace NameScheme

def className : NameScheme → String
  | plain => "CredentialName"
  | simple => "SimpleCredentialName"
  | serviceInstance => "ServiceInstanceCredentialName"

end NameScheme

namespace Credential

def className : Credential → String
  | .user _ => "UserCredential"
  | .certificate _ => "CertificateCredential"
  | .keyPair c => match c.scheme with
    | .plain => "KeyPairCredential"
    | .rsa => "RsaCredential"
    | .ssh => "SshCredential"

end Credential

namespace ValueDeclaration

def className : ValueDeclaration → String
  | any => "WriteRequest"
  | text => "WriteRequest[str]"
  | rsa => "WriteRequest[RsaCredential]"

end ValueDeclaration

namespace Record

def className : Record → String
  | name n => n.scheme.className
  | actor _ => "Actor"
  | permission _ => "AdditionalPermission"
  | credential c => c.className

end Record

namespace Scalar

def className : Scalar → String
  | none => "NoneType"
  | bool _ => "bool"
  | int _ => "int"
  | float _ _ => "float"
  | text _ => "str"
  | octets _ => "bytes"
  | member m => m.className

end Scalar

namespace ContainerShape

def className : ContainerShape → String
  | list => "list"
  | tuple => "tuple"
  | set => "set"
  | mapping => "dict"
  | readOnlyMapping => "mappingproxy"

end ContainerShape

namespace ObjectClass

def builderName : CredentialKind → String
  | .value => "ValueCredentialRequestBuilder"
  | .json => "JsonCredentialRequestBuilder"
  | .password => "PasswordCredentialRequestBuilder"
  | .user => "UserCredentialRequestBuilder"
  | .certificate => "CertificateCredentialRequestBuilder"
  | .rsa => "RsaCredentialRequestBuilder"
  | .ssh => "SshCredentialRequestBuilder"

def className : ObjectClass → String
  | requestBuilder k => builderName k
  | permissionBuilder => "AdditionalPermissionBuilder"
  | httpClient => "AsyncClient"
  | credentialClient => "CredHubClient"
  | preparedRequest => "Request"

/-- The class name with the package that defines it. -/
def qualifiedName (c : ObjectClass) : String :=
  let package := match c with
    | requestBuilder _ => "credhub.support.builders."
    | permissionBuilder => "credhub.support.permissions."
    | httpClient => "httpx."
    | credentialClient => "credhub.services.credhub."
    | preparedRequest => "httpx."
  package ++ c.className

end ObjectClass

namespace Value

def className : Value → String
  | scalar s => s.className
  | buffer _ _ => "bytearray"
  | sequence _ .list _ => "list"
  | sequence _ .tuple _ => "tuple"
  | set _ _ => "set"
  | mapping _ false _ => "dict"
  | mapping _ true _ => "mappingproxy"
  | iterator _ _ _ => "list_iterator"
  | record _ r => r.className
  | request _ r => r.declared.className
  | object _ c => c.className
  | loop _ shape => shape.className

def isNone : Value → Bool
  | scalar .none => true
  | _ => false

def address? : Value → Option Address
  | scalar _ => .none
  | buffer a _ | sequence a _ _ | set a _ | mapping a _ _ | iterator a _ _ | record a _
  | request a _ | object a _ | loop a _ => some a

end Value

end CredentialWrite
