import CredentialWrite.Payload.Wire
import CredentialWrite.Store.Basic
import CredentialWrite.Value.Draft

/-!
# Copies of values

The dump that keeps values as they are: containers are copied level by level and records become
mappings, while scalars, keys, read-only mappings, buffers and other objects are used as they
stand. An iterator is not read; its copy takes items from it later. What lies deeper than the limit
or inside itself is not copied either. The value of a request is copied twice, the second time from
the first copy; so a container inside itself, which the first copy leaves as it is, is copied once
in the second. Only a set can fail, when the copy of an element has no hash.
-/

namespace CredentialWrite

def textOrNone : Option String → Draft
  | some s => .text s
  | none => .scalar .none

def permissionCopy (p : Permission) : Draft :=
  .mapping [(.text "actor", .text p.actor.identity),
    (.text "operations", .sequence .list (p.operations.map fun o => .text o.wire))]

def recordCopy (p : Pruning) : Record → Draft
  | .name n => .mapping [(.text "name", .text n.path)]
  | .actor a =>
    .mapping [(.text "type", .scalar (.member (.actorKind a.kind))), (.text "id", .text a.id)]
  | .permission q => permissionCopy q
  | .credential c =>
    .mapping ((p.keptFields c).map fun field => (.text field.1, textOrNone field.2))

/-- One entry of a request's dump, given the copy of the value. -/
def copiedEntry (r : StoredRequest) (value : Except DumpFault Draft) :
    PayloadKey → Except DumpFault (Draft × Draft)
  | .overwrite => .ok (.text PayloadKey.overwrite.text, .scalar (.bool r.overwrite))
  | .name => .ok (.text PayloadKey.name.text, .text r.name.content.path)
  | .value => return (.text PayloadKey.value.text, ← value)
  | .kind => .ok (.text PayloadKey.kind.text, .text r.kind.wire)
  | .permissions =>
    .ok (.text PayloadKey.permissions.text,
      .sequence .tuple (r.permissions.map fun h => permissionCopy h.content))

def Ref.unchanged : Ref → Draft
  | .scalar x => .scalar x
  | .address a => .existing a

namespace Store

/-- Copies a value twice, given how to copy an object for which there are some levels. -/
def copyTwice (copy : Nat → Ref → Except DumpFault Draft) (room : Nat) (r : Ref) :
    Except DumpFault Draft := do
  Draft.replaceExisting (fun room a => copy room (.address a)) room (← copy room r)

/-- The copy of an object below the objects of a path, for which there are `room` levels; the fuel
is not less. -/
def copyBelow (s : Store) (p : Pruning) : Nat → Nat → List Address → Ref → Except DumpFault Draft
  | _, _, _, .scalar x => .ok (.scalar x)
  | 0, _, _, .address a => .ok (.existing a)
  | _, 0, _, .address a => .ok (.existing a)
  | fuel + 1, room + 1, path, .address a =>
    let below := s.copyBelow p fuel room (a :: path)
    if path.contains a then .ok (.existing a)
    else match s.cell? a with
    | some (.sequence shape items) => return .sequence shape (← items.mapM below)
    | some (.set items) => do
      let items ← items.mapM below
      match Draft.unhashableItem? items with
      | some className => throw (.unhashable className)
      | none => return .set items
    | some (.mapping false entries) =>
      return .mapping (← entries.mapM fun entry => return (entry.1.unchanged, ← below entry.2))
    | some (.iterator _) => .ok (.delayed a)
    | some (.delayed source) => .ok (.delayed source)
    | some (.name n) => .ok (recordCopy p (.name n))
    | some (.actor x) => .ok (recordCopy p (.actor x))
    | some (.permission q _ _) => .ok (recordCopy p (.permission q))
    | some (.credential c) => .ok (recordCopy p (.credential c))
    | some (.request r _) => do
      let value := copyTwice (fun room => s.copyBelow p fuel room (a :: path)) room r.value
      return .mapping (← (PayloadKey.all.filter (p.keepsKey (!r.value.isNone) r)).mapM
        (copiedEntry r value))
    | _ => .ok (.existing a)

/-- The entries of a request's dump that keeps values as they are. -/
def copyDump (s : Store) (p : Pruning) (selection : Selection) (r : StoredRequest) :
    Except DumpFault (List (Draft × Draft)) :=
  let keeps (key : PayloadKey) : Bool :=
    p.keepsKey (!r.value.isNone) r key && selection.allows key.text
  let copy (room : Nat) : Ref → Except DumpFault Draft := s.copyBelow p nestingLimit room []
  (PayloadKey.all.filter keeps).mapM (copiedEntry r (copyTwice copy nestingLimit r.value))

end Store

end CredentialWrite
