import CredentialWrite.Store.Basic

/-!
# Arguments of operations

An operation takes arguments by place and by name. A signature lists its parameters, those that
must be given before those that may be, and says whether further arguments are taken by place and
whether the operation belongs to a receiver, which counts as an argument of its own.
-/

namespace CredentialWrite

structure Signature where
  operation : String
  hasReceiver : Bool
  required : List String
  optional : List String
  takesMore : Bool

/-- Why arguments do not fit an operation. -/
inductive ArgumentFault where
  | unexpected (operation name : String)
  | repeated (operation name : String)
  | tooMany (operation : String) (least most given : Nat)
  | missing (operation : String) (names : List String)
  deriving DecidableEq

namespace ArgumentFault

def listed : List String → String
  | [] => ""
  | [a] => "'" ++ a ++ "'"
  | [a, b] => "'" ++ a ++ "' and '" ++ b ++ "'"
  | names => ", ".intercalate (names.dropLast.map fun a => "'" ++ a ++ "'") ++ ", and '" ++
      names.getLastD "" ++ "'"

def message : ArgumentFault → String
  | unexpected operation name =>
    operation ++ "() got an unexpected keyword argument '" ++ name ++ "'"
  | repeated operation name => operation ++ "() got multiple values for argument '" ++ name ++ "'"
  | tooMany operation least most given =>
    let range := if least = most then toString most
      else "from " ++ toString least ++ " to " ++ toString most
    let plural := if least = most && most = 1 then "" else "s"
    operation ++ "() takes " ++ range ++ " positional argument" ++ plural ++ " but " ++
      toString given ++ (if given = 1 then " was given" else " were given")
  | missing operation names =>
    operation ++ "() missing " ++ toString names.length ++ " required positional argument" ++
      (if names.length = 1 then "" else "s") ++ ": " ++ listed names

end ArgumentFault

namespace Signature

/-- Adds the arguments given by name to those given by place. -/
def bindNamed (sig : Signature) (bound : List (String × Ref)) :
    List (String × Ref) → Except ArgumentFault (List (String × Ref))
  | [] => .ok bound
  | (name, r) :: rest =>
    if !(sig.required ++ sig.optional).contains name then .error (.unexpected sig.operation name)
    else if (bound.lookup name).isSome then .error (.repeated sig.operation name)
    else sig.bindNamed (bound ++ [(name, r)]) rest

/-- The arguments by name, and the further ones by place. -/
def bind (sig : Signature) (places : List Ref) (named : List (String × Ref)) :
    Except ArgumentFault (List (String × Ref) × List Ref) := do
  let parameters := sig.required ++ sig.optional
  let bound ← sig.bindNamed (parameters.zip places) named
  let more := places.drop parameters.length
  let receiver := if sig.hasReceiver then 1 else 0
  if !sig.takesMore && !more.isEmpty then
    throw (.tooMany sig.operation (receiver + sig.required.length)
      (receiver + parameters.length) (receiver + places.length))
  match sig.required.filter fun name => (bound.lookup name).isNone with
  | [] => return (bound, more)
  | names => throw (.missing sig.operation names)

end Signature

end CredentialWrite
