import CredentialWrite.Store.Basic
import CredentialWrite.Value.Equality

/-!
# Views

The value of a reference at one moment: the tree below it, read from the store. A container on the
path from the root is not entered again but marked by a loop, so a tree is never deeper than the
fuel that `view` computes from the size of the store. A view is a copy: later changes of the store
do not reach it.
-/

namespace CredentialWrite.Store

def viewBelow (s : Store) : Nat → List Address → Ref → Value
  | _, _, .scalar x => .scalar x
  | 0, _, .address a => .loop a .list
  | fuel + 1, path, .address a =>
    let below := s.viewBelow fuel (a :: path)
    match s.cell? a with
    | some (.buffer content) => .buffer a content
    | some (.sequence .list items) =>
      if path.contains a then .loop a .list else .sequence a .list (items.map below)
    | some (.sequence .tuple items) =>
      if path.contains a then .loop a .tuple else .sequence a .tuple (items.map below)
    | some (.set items) => if path.contains a then .loop a .set else .set a (items.map below)
    | some (.mapping readOnly entries) =>
      if path.contains a then .loop a (if readOnly then .readOnlyMapping else .mapping)
      else .mapping a readOnly (entries.map fun e => (below e.1, below e.2))
    | some (.iterator rest) =>
      if path.contains a then .iterator a a [] else .iterator a a (rest.map below)
    | some (.delayed source) => match s.cell? source with
      | some (.iterator rest) =>
        if path.contains source then .iterator a source []
        else .iterator a source (rest.map (s.viewBelow fuel (source :: path)))
      | _ => .iterator a source []
    | some (.name n) => .record a (.name n)
    | some (.actor x) => .record a (.actor x)
    | some (.permission p _ _) => .record a (.permission p)
    | some (.credential c) => .record a (.credential c)
    | some (.request r _) =>
      .request a (r.map Held.content Held.content (s.viewBelow fuel path))
    | some (.requestBuilder b) => .object a (.requestBuilder b.kind)
    | some (.permissionBuilder _) => .object a .permissionBuilder
    | some (.httpClient _) => .object a .httpClient
    | some (.credentialClient _) => .object a .credentialClient
    | some (.preparedRequest _) => .object a .preparedRequest
    | none => .loop a .list

/-- Containers stand on a path once, and requests between two of them once. -/
def depthBound (s : Store) : Nat := (s.cells.size + 1) * (s.cells.size + 1)

def view (s : Store) (r : Ref) : Value := s.viewBelow s.depthBound [] r

/-- The content of a request at one moment. -/
def viewRequest (s : Store) (r : StoredRequest) : WriteRequest CredentialName Permission Value :=
  r.map Held.content Held.content s.view

/-- Whether two references have the same value as keys and elements do. -/
def same (s : Store) (r t : Ref) : Bool := (s.view r).same (s.view t)

/-- New pairs of the names and the contents of fields. -/
def newPairs (s : Store) : List (String × Ref) → List Ref × Store
  | [] => ([], s)
  | (name, content) :: rest =>
    let (pair, s) := s.alloc (.sequence .tuple [.text name, content])
    let (pairs, s) := s.newPairs rest
    (.address pair :: pairs, s)

/-- The objects that a reference yields when it is read one by one: the items of a container, the
keys of a mapping, the numbers of octets, and the fields of a record as pairs. -/
def elements? (s : Store) : Ref → Option (List Ref × Store)
  | .scalar (.text t) => some (t.toList.map fun c => .text (String.singleton c), s)
  | .scalar (.octets content) => some (content.map fun o => .scalar (.int o.toNat), s)
  | .scalar _ => none
  | .address a =>
    match s.cell? a with
    | none => none
    | some (.buffer content) => some (content.map fun o => .scalar (.int o.toNat), s)
    | some (.sequence _ items) => some (items, s)
    | some (.set items) => some (items, s)
    | some (.mapping _ entries) => some (entries.map Prod.fst, s)
    | some (.iterator rest) => some (rest, s.update a (.iterator []))
    | some c => c.fields?.map s.newPairs

end CredentialWrite.Store
