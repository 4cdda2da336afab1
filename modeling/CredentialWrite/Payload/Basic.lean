import CredentialWrite.Value.Basic

/-!
# What a dump keeps, and why it fails

A dump may leave out fields that hold nothing, fields equal to their default, fields that were
never given, and, of the outermost request, fields by name. Name and kind of a request are always
there unless asked away by name; an empty list of permissions never is.

A dump fails on nesting beyond the limit, in a value or only in what was made of it, on a container
inside itself, octets that are no text, objects without a wire form, an iterator in the place of a
key, and elements of a set whose copies have no hash.
-/

namespace CredentialWrite

inductive DumpFault where
  | tooDeep
  | resultTooDeep
  | circular
  | notText (octet : UInt8) (place : Nat)
  | unknownType (className : String)
  | iteratorKey
  | unhashable (className : String)
  deriving DecidableEq

structure Pruning where
  absent : Bool
  defaults : Bool
  unset : Bool
  deriving DecidableEq

namespace Pruning

/-- Nothing is left out. -/
def none : Pruning := ⟨false, false, false⟩

/-- Fields that hold nothing are left out. -/
def dropAbsent : Pruning := ⟨true, false, false⟩

/-- Whether an optional text stays; what holds nothing is at its default. -/
def keepsSlot (p : Pruning) (s : Slot) : Bool :=
  !(p.absent && s.content? = .none) && !(p.defaults && s.content? = .none) &&
    !(p.unset && !s.isGiven)

def keptFields (p : Pruning) (c : Credential) : List (String × Option String) :=
  (c.fields.filter fun field => p.keepsSlot field.2).map fun field => (field.1, field.2.content?)

/-- Whether an entry of a request stays, given whether it has a value. -/
def keepsKey {ν π α : Type} (p : Pruning) (hasValue : Bool) (r : WriteRequest ν π α) :
    PayloadKey → Bool
  | .overwrite => !(p.unset && !r.overwriteGiven) && !(p.defaults && !r.overwrite)
  | .name => true
  | .value => hasValue || !p.absent
  | .kind => true
  | .permissions => !r.permissions.isEmpty && !(p.unset && !r.permissionsGiven)

end Pruning

/-- The fields asked for by name and those asked away. -/
structure Selection where
  included : Option (List String)
  excluded : Option (List String)

namespace Selection

def everything : Selection := ⟨none, none⟩

def allows (s : Selection) (key : String) : Bool :=
  (s.included.all fun names => names.contains key) &&
    (s.excluded.all fun names => !names.contains key)

end Selection

end CredentialWrite
