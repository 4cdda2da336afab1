/-!
# Structured credentials

Users, certificates and key pairs. An optional field remembers whether it was left out, was given
as absent or holds text: the three read alike as content, but only a given field counts as set. A
certificate holds a certificate or an authority, a key pair one of its keys, and neither of these
texts may be empty to count.
-/

namespace CredentialWrite

inductive Slot where
  | leftOut
  | absent
  | text (s : String)
  deriving DecidableEq

namespace Slot

def content? : Slot → Option String
  | text s => some s
  | _ => none

def isGiven : Slot → Bool
  | leftOut => false
  | _ => true

/-- Holds a text that is not empty. -/
def isFilled : Slot → Bool
  | text s => s ≠ ""
  | _ => false

end Slot

structure UserCredential where
  username : Slot
  password : String
  password_ne_empty : password ≠ ""
  deriving DecidableEq

structure CertificateCredential where
  certificate : Slot
  ca : Slot
  privateKey : Slot
  caName : Slot
  isPresent : (certificate.isFilled || ca.isFilled) = true
  deriving DecidableEq

inductive KeyScheme where
  | plain
  | rsa
  | ssh
  deriving DecidableEq

structure KeyPair where
  scheme : KeyScheme
  publicKey : Slot
  privateKey : Slot
  isPresent : (publicKey.isFilled || privateKey.isFilled) = true
  deriving DecidableEq

inductive Credential where
  | user (c : UserCredential)
  | certificate (c : CertificateCredential)
  | keyPair (c : KeyPair)
  deriving DecidableEq

namespace Credential

/-- The fields of a credential in order; a required field is always given. -/
def fields : Credential → List (String × Slot)
  | .user c => [("username", c.username), ("password", .text c.password)]
  | .certificate c =>
    [("certificate", c.certificate), ("ca", c.ca), ("private_key", c.privateKey),
      ("ca_name", c.caName)]
  | .keyPair c => [("public_key", c.publicKey), ("private_key", c.privateKey)]

/-- Credentials of one class with the same contents are equal, however these were given. -/
def same : Credential → Credential → Bool
  | .user a, .user b => a.username.content? = b.username.content? && a.password = b.password
  | .certificate a, .certificate b =>
    a.certificate.content? = b.certificate.content? && a.ca.content? = b.ca.content? &&
      a.privateKey.content? = b.privateKey.content? && a.caName.content? = b.caName.content?
  | .keyPair a, .keyPair b =>
    a.scheme = b.scheme && a.publicKey.content? = b.publicKey.content? &&
      a.privateKey.content? = b.privateKey.content?
  | _, _ => false

@[simp] theorem same_refl (c : Credential) : same c c = true := by cases c <;> simp [same]

theorem same_comm (c d : Credential) : same c d = same d c := by
  cases c <;> cases d <;> simp [same, eq_comm]

end Credential

end CredentialWrite
