import CredentialWrite.Json.Octets
import CredentialWrite.Payload.Copy
import CredentialWrite.Store.View

/-!
# Dumps of records and requests

A dump is a mapping from field names, in wire form or with values kept as they are; it may also be
written directly as text. Of the outermost record only selected fields are kept.
-/

namespace CredentialWrite

inductive DumpMode where
  | wire
  | plain
  deriving DecidableEq

structure DumpOptions where
  mode : DumpMode
  pruning : Pruning
  selection : Selection

namespace Draft

mutual

/-- The new objects that a wire form becomes. -/
def ofWire : WireJson → Draft
  | .null => .scalar .none
  | .bool b => .scalar (.bool b)
  | .int n => .scalar (.int n)
  | .number x => .scalar (.float x 0)
  | .text s => .text s
  | .array items => .sequence .list (ofWireItems items)
  | .object entries => .mapping (ofWireEntries entries)

def ofWireItems : List WireJson → List Draft
  | [] => []
  | j :: rest => ofWire j :: ofWireItems rest

def ofWireEntries : List (String × WireJson) → List (Draft × Draft)
  | [] => []
  | (key, j) :: rest => (.text key, ofWire j) :: ofWireEntries rest

end

end Draft

namespace Value

def selectedEntries (s : Selection) : WireJson → List (String × WireJson)
  | .object entries => entries.filter fun entry => s.allows entry.1
  | _ => []

/-- The entries of a record or a request in wire form. -/
def wireEntriesOf? (p : Pruning) (s : Selection) :
    Value → Option (Except DumpFault (List (String × WireJson)))
  | .record _ r => some (.ok (selectedEntries s (recordWire p r)))
  | .request _ r => some (r.wireDump p s)
  | _ => none

/-- The dump in wire form, written as text. -/
def dumpText? (p : Pruning) (s : Selection) (v : Value) : Option (Except DumpFault String) :=
  (v.wireEntriesOf? p s).map fun entries =>
    entries.map fun entries => (Json.object entries).renderOctets (·.toText .compact)

end Value

namespace Store

def selectedCopies (s : Selection) : Draft → List (Draft × Draft)
  | .mapping entries => entries.filter fun
      | (.scalar (.text key), _) => s.allows key
      | _ => true
  | _ => []

/-- The entries of a record or a request, with values kept as they are. -/
def copiedEntriesOf? (s : Store) (p : Pruning) (selection : Selection) (r : Ref) :
    Option (Except DumpFault (List (Draft × Draft))) :=
  match s.cellOf? r, s.view r with
  | some (.request q _), _ => some (s.copyDump p selection q)
  | _, .record _ x => some (.ok (selectedCopies selection (recordCopy p x)))
  | _, _ => none

end Store

end CredentialWrite
