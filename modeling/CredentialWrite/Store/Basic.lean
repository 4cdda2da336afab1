import CredentialWrite.Url.Basic
import CredentialWrite.Value.Basic

/-!
# Stores

Objects that are shared by reference. A scalar needs no place of its own; every other object is a
cell at an address and refers to its parts. Records, requests and their parts never change; lists,
mappings, iterators and builders do. A delayed copy of an iterator takes its items from it. A
builder and a request keep what they hold of names and permissions together with its address, so
that it can be used without looking it up and is still the very object that was given.
-/

namespace CredentialWrite

inductive Ref where
  | scalar (s : Scalar)
  | address (a : Address)
  deriving DecidableEq, Inhabited

namespace Ref

def none : Ref := scalar .none

def bool (b : Bool) : Ref := scalar (.bool b)

def text (s : String) : Ref := scalar (.text s)

def isNone : Ref → Bool
  | scalar .none => true
  | _ => false

end Ref

/-- An object that never changes, with its address. -/
structure Held (α : Type) where
  address : Address
  content : α

namespace Held

def ref {α : Type} (h : Held α) : Ref := .address h.address

end Held

/-- A request whose value is shared. -/
abbrev StoredRequest := WriteRequest (Held CredentialName) (Held Permission) Ref

/-- A request under construction. The list of permissions is made when it is first needed. -/
structure RequestBuilder where
  kind : CredentialKind
  name : Option (Held CredentialName)
  overwrite : Bool
  value : Option Ref
  permissions : Option (List (Held Permission))

/-- A permission under construction. -/
structure PermissionBuilder where
  actor : Option (Held Actor)
  operations : List Operation

/-- How many connections a client may have, how many unused ones it keeps, and for how many
seconds. -/
structure ConnectionLimits where
  connections : Nat
  kept : Nat
  keptSeconds : Nat
  deriving DecidableEq

/-- A client for one service. The time limits are those for connecting, reading, writing and waiting
for a connection. -/
structure HttpClient where
  base : Url
  authorization : Option String
  timeouts : List Ref
  followsRedirects : Bool
  trustsEnvironment : Bool
  usesHttp2 : Bool
  limits : ConnectionLimits

/-- A request that is ready to be sent. -/
structure PreparedRequest where
  method : String
  url : Url
  headers : List (String × String)
  body : String

inductive Cell where
  | buffer (content : List UInt8)
  | sequence (shape : SequenceShape) (items : List Ref)
  | set (items : List Ref)
  | mapping (readOnly : Bool) (entries : List (Ref × Ref))
  | iterator (rest : List Ref)
  | delayed (source : Address)
  | name (n : CredentialName)
  | actor (a : Actor)
  | permission (p : Permission) (actorAt operationsAt : Address)
  | credential (c : Credential)
  | request (r : StoredRequest) (permissionsAt : Address)
  | requestBuilder (b : RequestBuilder)
  | permissionBuilder (b : PermissionBuilder)
  | httpClient (c : HttpClient)
  | credentialClient (http : Ref)
  | preparedRequest (p : PreparedRequest)

namespace Slot

def ref (s : Slot) : Ref :=
  match s.content? with
  | some t => .text t
  | none => .none

end Slot

namespace Cell

def className : Cell → String
  | buffer _ => "bytearray"
  | sequence .list _ => "list"
  | sequence .tuple _ => "tuple"
  | set _ => "set"
  | mapping false _ => "dict"
  | mapping true _ => "mappingproxy"
  | iterator _ => "list_iterator"
  | delayed _ => "SerializationIterator"
  | name n => n.scheme.className
  | actor _ => "Actor"
  | permission _ _ _ => "AdditionalPermission"
  | credential c => c.className
  | request r _ => r.declared.className
  | requestBuilder b => (ObjectClass.requestBuilder b.kind).className
  | permissionBuilder _ => ObjectClass.permissionBuilder.className
  | httpClient _ => ObjectClass.httpClient.className
  | credentialClient _ => ObjectClass.credentialClient.className
  | preparedRequest _ => ObjectClass.preparedRequest.className

/-- The fields of a record or a request, in order. -/
def fields? : Cell → Option (List (String × Ref))
  | name n => some [("name", .text n.path)]
  | actor a => some [("type", .scalar (.member (.actorKind a.kind))), ("id", .text a.id)]
  | permission _ actorAt operationsAt =>
    some [("actor", .address actorAt), ("operations", .address operationsAt)]
  | credential c => some (c.fields.map fun field => (field.1, field.2.ref))
  | request r permissionsAt =>
    some [("overwrite", .bool r.overwrite), ("credential_name", r.name.ref),
      ("value_type", .scalar (.member (.kind r.kind))), ("value", r.value),
      ("additional_permissions", .address permissionsAt)]
  | _ => none

/-- Empty containers count as false, every other object as true. -/
def isTrue : Cell → Bool
  | buffer content => !content.isEmpty
  | sequence _ items => !items.isEmpty
  | set items => !items.isEmpty
  | mapping _ entries => !entries.isEmpty
  | _ => true

end Cell

structure Store where
  cells : Array Cell

namespace Store

def empty : Store := ⟨#[]⟩

def cell? (s : Store) (a : Address) : Option Cell := s.cells[a]?

/-- A new object and the store that holds it. -/
def alloc (s : Store) (c : Cell) : Address × Store := (s.cells.size, ⟨s.cells.push c⟩)

/-- The store with another content at an address. -/
def update (s : Store) (a : Address) (c : Cell) : Store := ⟨s.cells.setIfInBounds a c⟩

def className (s : Store) : Ref → String
  | .scalar x => x.className
  | .address a => match s.cell? a with
    | some c => c.className
    | none => "object"

def isTrue (s : Store) : Ref → Bool
  | .scalar .none => false
  | .scalar (.bool b) => b
  | .scalar (.int n) => n ≠ 0
  | .scalar (.float x _) => !x.isZero
  | .scalar (.text t) => t ≠ ""
  | .scalar (.octets content) => !content.isEmpty
  | .scalar (.member _) => true
  | .address a => match s.cell? a with
    | some c => c.isTrue
    | none => true

def cellOf? (s : Store) : Ref → Option Cell
  | .scalar _ => none
  | .address a => s.cell? a

@[simp] theorem cell?_alloc_self (s : Store) (c : Cell) :
    (s.alloc c).2.cell? (s.alloc c).1 = some c := by
  simp [alloc, cell?]

theorem cell?_alloc_of_lt {s : Store} {c : Cell} {a : Address} (h : a < s.cells.size) :
    (s.alloc c).2.cell? a = s.cell? a := by
  simp [alloc, cell?, Array.getElem?_push_lt h, h]

theorem cell?_update_self {s : Store} {a : Address} {c : Cell} (h : a < s.cells.size) :
    (s.update a c).cell? a = some c := by
  simp [update, cell?, h]

theorem cell?_update_of_ne {s : Store} {a b : Address} {c : Cell} (h : a ≠ b) :
    (s.update a c).cell? b = s.cell? b := by
  simp [update, cell?, Array.getElem?_setIfInBounds_ne h]

/-- A new name. -/
def newName (s : Store) (n : CredentialName) : Held CredentialName × Store :=
  let (a, s) := s.alloc (.name n)
  (⟨a, n⟩, s)

def newActor (s : Store) (x : Actor) : Held Actor × Store :=
  let (a, s) := s.alloc (.actor x)
  (⟨a, x⟩, s)

/-- A new permission for an actor that exists. -/
def newPermission (s : Store) (actor : Held Actor) (operations : List Operation)
    (h : operations ≠ []) : Held Permission × Store :=
  let p : Permission := ⟨actor.content, operations, h⟩
  let (listed, s) := s.alloc
    (.sequence .tuple (operations.map fun o => .scalar (.member (.operation o))))
  let (a, s) := s.alloc (.permission p actor.address listed)
  (⟨a, p⟩, s)

/-- A new request, with its permissions as a tuple of their own. -/
def newRequest (s : Store) (r : StoredRequest) : Held StoredRequest × Store :=
  let (listed, s) := s.alloc (.sequence .tuple (r.permissions.map Held.ref))
  let (a, s) := s.alloc (.request r listed)
  (⟨a, r⟩, s)

end Store

end CredentialWrite
