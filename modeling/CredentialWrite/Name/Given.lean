import CredentialWrite.Failure
import CredentialWrite.Validation.Record

/-!
# Names from given objects

Both naming schemes applied to objects of any class. A simple name passes over what counts as
false and takes nothing but text; the name of a service instance first asks that nothing be false
and then that everything be text.
-/

namespace CredentialWrite.CredentialName

/-- The texts of the segments that do not count as false. -/
def segmentTexts (s : Store) : List Ref → Except Failure (List String)
  | [] => .ok []
  | r :: rest =>
    if !s.isTrue r then segmentTexts s rest
    else match r with
      | .scalar (.text t) => (segmentTexts s rest).map (t :: ·)
      | r => .error <| match s.className r with
        | "bytes" | "bytearray" => .notOctets
        | className => .noAttribute className "strip"

/-- A new name from the path that a scheme lays out. -/
def make (s : Store) (scheme : NameScheme) (path : String) : Except Failure Ref × Store :=
  match s.checkName scheme [("name", .text path)] with
  | .ok n => let (held, s) := s.newName n; (.ok held.ref, s)
  | .error faults => (.error (.validation ⟨scheme.className, faults⟩), s)

def simpleOf (s : Store) (segments : List Ref) : Except Failure Ref × Store :=
  match segmentTexts s segments with
  | .error e => (.error e, s)
  | .ok texts => match simplePath? texts with
    | none => (.error (.request .noSegments), s)
    | some path => make s .simple path

/-- The texts of objects that are to be joined, counted from `place`. -/
def joinedTexts (s : Store) (place : Nat) : List Ref → Except Failure (List String)
  | [] => .ok []
  | .scalar (.text t) :: rest => (joinedTexts s (place + 1) rest).map (t :: ·)
  | r :: _ => .error (.joinedItem place (s.className r))

def bindingParts : List BindingPart := [.broker, .offering, .binding, .credential]

def serviceInstanceOf (s : Store) (broker offering binding credential : Ref) :
    Except Failure Ref × Store :=
  let given := [broker, offering, binding, credential]
  match (bindingParts.zip given).find? fun part => !s.isTrue part.2 with
  | some (part, _) => (.error (.request (.emptyPart part)), s)
  | none => match joinedTexts s 1 given with
    | .error e => (.error e, s)
    | .ok texts =>
      make s .serviceInstance (String.ofList (joinSegments (['c'] :: texts.map String.toList)))

end CredentialWrite.CredentialName
