import CredentialWrite.Failure
import CredentialWrite.Validation.Request

/-!
# Building requests

A builder makes requests of one kind. Of names and values the last accepted one counts,
permissions add up in the order of the calls, and a call that is refused leaves the builder as it
was. Permissions may be given one by one or in containers; a container is read up to the first
object that is no permission, and what an iterator has yielded by then is gone. A builder can go
on after a request is built.
-/

namespace CredentialWrite.RequestBuilder

def new (kind : CredentialKind) : RequestBuilder := ⟨kind, none, false, none, none⟩

inductive Call where
  | name (n : Ref)
  | overwrite (flag : Ref)
  | value (v : Ref)
  | permission (p : Ref)
  | permissions (ps : List Ref)
  | build

structure Outcome where
  result : Except Failure (Option (Held StoredRequest))
  builder : RequestBuilder
  store : Store

def setName (b : RequestBuilder) (s : Store) (r : Ref) : Except RequestFault RequestBuilder :=
  if r.isNone then .error .nameIsNone
  else match r, s.cellOf? r with
    | .address a, some (.name n) => .ok { b with name := some ⟨a, n⟩ }
    | _, _ => .error (.wrongName (s.className r))

def setOverwrite (b : RequestBuilder) (s : Store) (r : Ref) : RequestBuilder :=
  { b with overwrite := s.isTrue r }

/-- Whether an object has the class that a kind of credential asks for. -/
def accepts (kind : CredentialKind) (s : Store) (r : Ref) : Bool :=
  match kind, r, s.cellOf? r with
  | .value, .scalar (.text _), _ => true
  | .password, .scalar (.text _), _ => true
  | .json, _, some (.mapping _ _) => true
  | .user, _, some (.credential (.user _)) => true
  | .certificate, _, some (.credential (.certificate _)) => true
  | .rsa, _, some (.credential (.keyPair c)) => c.scheme = .rsa
  | .ssh, _, some (.credential (.keyPair c)) => c.scheme = .ssh
  | _, _, _ => false

def setValue (b : RequestBuilder) (s : Store) (r : Ref) : Except RequestFault RequestBuilder :=
  if r.isNone then .error (.valueIsNone b.kind)
  else if !accepts b.kind s r then .error (.wrongValue b.kind (s.className r))
  else if b.kind = .password && !s.isTrue r then .error .emptyPassword
  else .ok { b with value := some r }

def permission? (s : Store) (r : Ref) : Option (Held Permission) :=
  match r, s.cellOf? r with
  | .address a, some (.permission p _ _) => some ⟨a, p⟩
  | _, _ => none

/-- The permissions before the first other object, and that object with what follows it. -/
def takePermissions (s : Store) : List Ref → List (Held Permission) × Option (Ref × List Ref)
  | [] => ([], none)
  | r :: rest => match permission? s r with
    | none => ([], some (r, rest))
    | some p =>
      let (ps, stop) := takePermissions s rest
      (p :: ps, stop)

/-- The class of the copy that a delayed iterator gives of an item. A record is copied to a mapping
of its fields, so no copy is a permission. -/
def copiedClassName (s : Store) (r : Ref) : String :=
  match s.cellOf? r with
  | some (.iterator _) => (Cell.delayed 0).className
  | some c => if c.fields?.isSome then (Cell.mapping false []).className else c.className
  | none => s.className r

/-- The permissions that one argument gives. -/
def readArgument (s : Store) (r : Ref) : Except RequestFault (List (Held Permission)) × Store :=
  match permission? s r with
  | some p => (.ok [p], s)
  | none => match r, s.cellOf? r with
    | .address a, some (.iterator items) => match takePermissions s items with
      | (ps, none) => (.ok ps, s.update a (.iterator []))
      | (_, some (other, rest)) =>
        (.error (.wrongPermission (s.className other)), s.update a (.iterator rest))
    | .address _, some (.delayed source) => match s.cell? source with
      | some (.iterator (item :: rest)) =>
        (.error (.wrongPermission (copiedClassName s item)), s.update source (.iterator rest))
      | _ => (.ok [], s)
    | .address _, _ => match s.elements? r with
      | none => (.error (.wrongPermission (s.className r)), s)
      | some (items, s) => match takePermissions s items with
        | (ps, none) => (.ok ps, s)
        | (_, some (other, _)) => (.error (.wrongPermission (s.className other)), s)
    | .scalar _, _ => (.error (.wrongPermission (s.className r)), s)

/-- The permissions of all arguments, read from left to right up to a refusal. -/
def readArguments (s : Store) : List Ref → Except RequestFault (List (Held Permission)) × Store
  | [] => (.ok [], s)
  | r :: rest => match readArgument s r with
    | (.error e, s) => (.error e, s)
    | (.ok ps, s) => match readArguments s rest with
      | (.error e, s) => (.error e, s)
      | (.ok qs, s) => (.ok (ps ++ qs), s)

def addPermissions (b : RequestBuilder) (ps : List (Held Permission)) : RequestBuilder :=
  { b with permissions := some (b.permissions.getD [] ++ ps) }

def build (b : RequestBuilder) (s : Store) : Except Failure (Held StoredRequest) × Store :=
  match b.name, b.value with
  | none, _ => (.error (.request .nameUnset), s)
  | some _, none => (.error (.request .valueUnset), s)
  | some name, some value =>
    let (listed, s) := s.newSequence .tuple ((b.permissions.getD []).map Held.ref)
    match s.makeRequest .any
      [("credential_name", name.ref), ("overwrite", .bool b.overwrite),
        ("value_type", .scalar (.member (.kind b.kind))), ("value", value),
        ("additional_permissions", listed)] with
    | (.ok held, s) => (.ok held, s)
    | (.error e, s) => (.error (.validation e), s)

def perform (b : RequestBuilder) (s : Store) : Call → Outcome
  | .name n => match b.setName s n with
    | .ok b => ⟨.ok none, b, s⟩
    | .error e => ⟨.error (.request e), b, s⟩
  | .overwrite flag => ⟨.ok none, b.setOverwrite s flag, s⟩
  | .value v => match b.setValue s v with
    | .ok b => ⟨.ok none, b, s⟩
    | .error e => ⟨.error (.request e), b, s⟩
  | .permission p => match permission? s p with
    | some held => ⟨.ok none, b.addPermissions [held], s⟩
    | none => ⟨.error (.request (.wrongPermission (s.className p))), b, s⟩
  | .permissions ps => match readArguments s ps with
    | (.ok held, s) => ⟨.ok none, b.addPermissions held, s⟩
    | (.error e, s) => ⟨.error (.request e), b, s⟩
  | .build => match b.build s with
    | (.ok held, s) => ⟨.ok (some held), b, s⟩
    | (.error e, s) => ⟨.error e, b, s⟩

end CredentialWrite.RequestBuilder
