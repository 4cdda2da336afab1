/-!
# Kinds of credentials

The seven kinds of credential that the data service stores. Each has a label, the name of the
kind, and the word that stands for it on the wire; `ofWire?` reads exactly these words.
-/

namespace CredentialWrite

inductive CredentialKind where
  | value
  | json
  | password
  | user
  | certificate
  | rsa
  | ssh
  deriving DecidableEq

namespace CredentialKind

def all : List CredentialKind := [value, json, password, user, certificate, rsa, ssh]

def label : CredentialKind → String
  | value => "VALUE"
  | json => "JSON"
  | password => "PASSWORD"
  | user => "USER"
  | certificate => "CERTIFICATE"
  | rsa => "RSA"
  | ssh => "SSH"

def wire : CredentialKind → String
  | value => "value"
  | json => "json"
  | password => "password"
  | user => "user"
  | certificate => "certificate"
  | rsa => "rsa"
  | ssh => "ssh"

def ofWire? (s : String) : Option CredentialKind := all.find? (·.wire = s)

@[simp] theorem ofWire?_wire (k : CredentialKind) : ofWire? k.wire = some k := by
  cases k <;> decide

theorem wire_injective {a b : CredentialKind} (h : a.wire = b.wire) : a = b :=
  Option.some.inj (by rw [← ofWire?_wire a, ← ofWire?_wire b, h])

end CredentialKind

end CredentialWrite
