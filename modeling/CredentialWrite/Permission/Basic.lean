/-!
# Permissions

Access that a write request grants to another actor: an application with a certificate, a user or a
client of the account service. A permission lists at least one operation, in the order given and with
repetitions. On the wire an actor is its kind, a colon and its id.
-/

namespace CredentialWrite

inductive Operation where
  | read
  | write
  | delete
  | readAcl
  | writeAcl
  deriving DecidableEq

namespace Operation

def all : List Operation := [read, write, delete, readAcl, writeAcl]

def label : Operation → String
  | read => "READ"
  | write => "WRITE"
  | delete => "DELETE"
  | readAcl => "READ_ACL"
  | writeAcl => "WRITE_ACL"

def wire : Operation → String
  | read => "read"
  | write => "write"
  | delete => "delete"
  | readAcl => "read_acl"
  | writeAcl => "write_acl"

def ofWire? (s : String) : Option Operation := all.find? (·.wire = s)

@[simp] theorem ofWire?_wire (o : Operation) : ofWire? o.wire = some o := by
  cases o <;> decide

theorem wire_injective {a b : Operation} (h : a.wire = b.wire) : a = b :=
  Option.some.inj (by rw [← ofWire?_wire a, ← ofWire?_wire b, h])

end Operation

inductive ActorKind where
  | app
  | user
  | client
  deriving DecidableEq

namespace ActorKind

def all : List ActorKind := [app, user, client]

def label : ActorKind → String
  | app => "APP"
  | user => "USER"
  | client => "CLIENT"

def wire : ActorKind → String
  | app => "mtls-app"
  | user => "uaa-user"
  | client => "uaa-client"

def ofWire? (s : String) : Option ActorKind := all.find? (·.wire = s)

@[simp] theorem ofWire?_wire (k : ActorKind) : ofWire? k.wire = some k := by
  cases k <;> decide

end ActorKind

structure Actor where
  kind : ActorKind
  id : String
  id_ne_empty : id ≠ ""

namespace Actor

def identity (a : Actor) : String := a.kind.wire ++ ":" ++ a.id

/-- The id of a user in a zone. -/
def zoned (zone user : String) : String := zone ++ "/" ++ user

@[ext] theorem ext {a b : Actor} (hk : a.kind = b.kind) (hi : a.id = b.id) : a = b := by
  cases a; cases b; simp_all

instance : DecidableEq Actor := fun a b =>
  decidable_of_iff (a.kind = b.kind ∧ a.id = b.id)
    ⟨fun h => ext h.1 h.2, fun h => h ▸ ⟨rfl, rfl⟩⟩

end Actor

structure Permission where
  actor : Actor
  operations : List Operation
  operations_ne_nil : operations ≠ []
  deriving DecidableEq

namespace Permission

@[ext] theorem ext {p q : Permission} (ha : p.actor = q.actor)
    (ho : p.operations = q.operations) : p = q := by
  cases p; cases q; simp_all

end Permission

end CredentialWrite
