import CredentialWrite.Value.Basic

/-!
# Drafts

Plans for new objects: a tree of containers still to be made, over scalars, over objects that exist
already and are used as they are, and over delayed copies of iterators.
-/

namespace CredentialWrite

inductive Draft where
  | scalar (s : Scalar)
  | existing (a : Address)
  | delayed (source : Address)
  | sequence (shape : SequenceShape) (items : List Draft)
  | set (items : List Draft)
  | mapping (entries : List (Draft × Draft))
  deriving Inhabited

namespace Draft

def text (s : String) : Draft := .scalar (.text s)

mutual

/-- The draft with other objects, given the levels left for each, in place of the existing ones. -/
def replaceExisting {ε : Type} (f : Nat → Address → Except ε Draft) :
    Nat → Draft → Except ε Draft
  | _, scalar s => .ok (.scalar s)
  | room, existing a => f room a
  | _, delayed a => .ok (.delayed a)
  | room, sequence shape items => return .sequence shape (← replaceInItems f (room - 1) items)
  | room, set items => return .set (← replaceInItems f (room - 1) items)
  | room, mapping entries => return .mapping (← replaceInEntries f (room - 1) entries)
termination_by structural _ d => d

def replaceInItems {ε : Type} (f : Nat → Address → Except ε Draft) (room : Nat) :
    List Draft → Except ε (List Draft)
  | [] => .ok []
  | d :: rest => return (← replaceExisting f room d) :: (← replaceInItems f room rest)
termination_by structural ds => ds

/-- Keys stay as they are. -/
def replaceInEntries {ε : Type} (f : Nat → Address → Except ε Draft) (room : Nat) :
    List (Draft × Draft) → Except ε (List (Draft × Draft))
  | [] => .ok []
  | (k, v) :: rest => return (k, ← replaceExisting f room v) :: (← replaceInEntries f room rest)
termination_by structural es => es

end

mutual

/-- The class of the first new container without a hash on the way to hashing the draft. -/
def unhashable? : Draft → Option String
  | sequence .list _ => some "list"
  | sequence .tuple items => unhashableItem? items
  | set _ => some "set"
  | mapping _ => some "dict"
  | _ => none

def unhashableItem? : List Draft → Option String
  | [] => none
  | d :: rest => match unhashable? d with
    | some className => some className
    | none => unhashableItem? rest

end

end Draft

end CredentialWrite
