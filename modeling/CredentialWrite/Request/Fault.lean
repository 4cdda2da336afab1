import CredentialWrite.Kind
import CredentialWrite.Name

/-!
# Faults in assembling a request

Why a name, a permission or a request cannot be assembled: something is missing, has the wrong
class or is empty.
-/

namespace CredentialWrite

inductive RequestFault where
  | noSegments
  | emptyPart (part : CredentialName.BindingPart)
  | nameIsNone
  | wrongName (className : String)
  | valueIsNone (kind : CredentialKind)
  | wrongValue (kind : CredentialKind) (className : String)
  | emptyPassword
  | wrongPermission (className : String)
  | unknownOperation (printed : String)
  | nameUnset
  | valueUnset
  | actorUnset
  | operationsUnset
  | notARequest (className : String)
  deriving DecidableEq

namespace CredentialName.BindingPart

def label : BindingPart → String
  | broker => "service_broker_name"
  | offering => "service_offering_name"
  | binding => "service_binding_id"
  | credential => "credential_name"

end CredentialName.BindingPart

namespace RequestFault

def message : RequestFault → String
  | noSegments => "credential name needs at least one non-empty segment"
  | emptyPart part => part.label ++ " must not be empty"
  | nameIsNone => "name must not be None"
  | wrongName className => "name must be a CredentialName, got " ++ className
  | valueIsNone kind => kind.wire ++ " credential must not be None"
  | wrongValue kind className => kind.wire ++ " credential has unexpected type " ++ className
  | emptyPassword => "password value must not be empty"
  | wrongPermission className => "expected an AdditionalPermission, got " ++ className
  | unknownOperation printed => "unknown operation: " ++ printed
  | nameUnset => "name must be set before build()"
  | valueUnset => "value must be set before build()"
  | actorUnset => "an actor (app, user or client) must be set"
  | operationsUnset => "at least one operation must be granted"
  | notARequest className => "expected a WriteRequest, got " ++ className

end RequestFault

end CredentialWrite
