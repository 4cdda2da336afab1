import CredentialWrite.Kind

/-!
# Write requests

A request to create a credential or update an existing one. The types of the name, of the
permissions and of the value are parameters: the same structure holds references while the value
is shared and mutable, and trees when its content is read. A request may be declared for one type
of value; the declaration is checked on creation and shown, but plays no part in equality.
-/

namespace CredentialWrite

inductive ValueDeclaration where
  | any
  | text
  | rsa
  deriving DecidableEq

structure WriteRequest (ν π α : Type) where
  declared : ValueDeclaration
  overwrite : Bool
  overwriteGiven : Bool
  name : ν
  kind : CredentialKind
  value : α
  permissions : List π
  permissionsGiven : Bool

namespace WriteRequest

variable {ν π α ν' π' α' : Type}

def map (f : ν → ν') (g : π → π') (h : α → α') (r : WriteRequest ν π α) :
    WriteRequest ν' π' α' :=
  { r with name := f r.name, value := h r.value, permissions := r.permissions.map g }

end WriteRequest

/-- The entries of a payload, in the order in which they stand there. -/
inductive PayloadKey where
  | overwrite
  | name
  | value
  | kind
  | permissions
  deriving DecidableEq

namespace PayloadKey

def all : List PayloadKey := [overwrite, name, value, kind, permissions]

def text : PayloadKey → String
  | overwrite => "overwrite"
  | name => "name"
  | value => "value"
  | kind => "type"
  | permissions => "additional_permissions"

end PayloadKey

end CredentialWrite
