import CredentialWrite.Text.Split

/-!
# Credential names

The full path of a credential. Two schemes lay paths out: a simple name joins the segments it is
given, without their surrounding slashes and without those that are then empty; the name of a
service instance has four fixed places below `/c` and takes its segments as they are. Names are
compared by path, whichever scheme made them.
-/

namespace CredentialWrite

inductive NameScheme where
  | plain
  | simple
  | serviceInstance
  deriving DecidableEq

structure CredentialName where
  scheme : NameScheme
  path : String
  path_ne_empty : path ≠ ""

namespace CredentialName

open Text

@[ext] theorem ext {a b : CredentialName} (hs : a.scheme = b.scheme) (hp : a.path = b.path) :
    a = b := by
  cases a; cases b; simp_all

instance : DecidableEq CredentialName := fun a b =>
  decidable_of_iff (a.scheme = b.scheme ∧ a.path = b.path)
    ⟨fun h => ext h.1 h.2, fun h => h ▸ ⟨rfl, rfl⟩⟩

def same (a b : CredentialName) : Bool := a.path = b.path

/-- Every segment after a slash of its own. -/
def joinSegments (segments : List (List Char)) : List Char := segments.flatMap ('/' :: ·)

def stripSlashes (segment : List Char) : List Char := trimBoth (· = '/') segment

/-- The segments that a simple name keeps. -/
def keptSegments (segments : List String) : List (List Char) :=
  (segments.map fun s => stripSlashes s.toList).filter (!·.isEmpty)

/-- The path of a simple name, where some segment is more than slashes. -/
def simplePath? (segments : List String) : Option String :=
  match keptSegments segments with
  | [] => none
  | kept => some (String.ofList (joinSegments kept))

/-- The four places of a service instance's name. -/
inductive BindingPart where
  | broker
  | offering
  | binding
  | credential
  deriving DecidableEq

def bindingPath (broker offering binding credential : String) : String :=
  String.ofList (joinSegments
    [['c'], broker.toList, offering.toList, binding.toList, credential.toList])

/-- The name of a service instance's credential, or the first place that is empty. -/
def serviceInstance (broker offering binding credential : String) :
    Except BindingPart String :=
  if broker = "" then .error .broker
  else if offering = "" then .error .offering
  else if binding = "" then .error .binding
  else if credential = "" then .error .credential
  else .ok (bindingPath broker offering binding credential)

@[simp] theorem same_refl (a : CredentialName) : same a a = true := by simp [same]

@[simp] theorem joinSegments_cons (s : List Char) (rest : List (List Char)) :
    joinSegments (s :: rest) = '/' :: s ++ joinSegments rest := by
  simp [joinSegments]

@[simp] theorem joinSegments_nil : joinSegments [] = [] := rfl

end CredentialName

end CredentialWrite
