import CredentialWrite.Binary64.Layout
import CredentialWrite.Json.Basic
import CredentialWrite.Payload.Basic
import CredentialWrite.Text.Utf8
import CredentialWrite.Value.Printed

/-!
# The wire form of values

The JSON value that stands for a value in a request's payload. Sequences, sets and iterators
become arrays, octets their text, fixed words their wire form and records objects; a number that
is no number or not finite becomes null. Keys become texts, and entries whose keys become the same
text merge: the first keeps its place, the last gives the value. At most `nestingLimit` values may
stand in each other. What a record becomes counts only where a request has been written: its
entries have to fit once more into the levels that were left for its value.
-/

namespace CredentialWrite

open Text

abbrev WireJson := Json Binary64

/-- The levels of a value of a request. -/
def nestingLimit : Nat := 255

namespace Value

def octetsText (content : List UInt8) : Except DumpFault String :=
  match decodeUtf8 content with
  | .ok s => .ok s
  | .error place => .error (.notText (content.getD place 0) place)

def scalarWire : Scalar → Except DumpFault WireJson
  | .none => .ok .null
  | .bool b => .ok (.bool b)
  | .int n => .ok (.int n)
  | .float x _ => .ok (if x.isFinite then .number x else .null)
  | .text s => .ok (.text s)
  | .octets content => return .text (← octetsText content)
  | .member m => .ok (.text m.wire)

def scalarKey : Scalar → Except DumpFault String
  | .none => .ok "None"
  | .bool b => .ok (if b then "true" else "false")
  | .int n => .ok (integerText n)
  | .float x _ => .ok (if x.isFinite then x.toText .plain else "None")
  | .text s => .ok s
  | .octets content => octetsText content
  | .member m => .ok m.wire

mutual

/-- The text of a key; that of a tuple joins the texts of its items. -/
def keyText : Value → Except DumpFault String
  | scalar s => scalarKey s
  | buffer _ content => octetsText content
  | sequence _ _ items => return ",".intercalate (← keyTexts items)
  | iterator _ _ _ => .error .iteratorKey
  | record _ r => .ok r.shown
  | request a r => .ok (request a r).shown
  | object _ c => .error (.unknownType c.qualifiedName)
  | v => .error (.unknownType v.className)

def keyTexts : List Value → Except DumpFault (List String)
  | [] => .ok []
  | x :: rest => return (← keyText x) :: (← keyTexts rest)

end

def textOrNull : Option String → WireJson
  | some s => .text s
  | none => .null

def actorWire (a : Actor) : WireJson := .object [("type", .text a.kind.wire), ("id", .text a.id)]

def permissionWire (p : Permission) : WireJson :=
  .object [("actor", .text p.actor.identity),
    ("operations", .array (p.operations.map fun o => .text o.wire))]

def recordWire (p : Pruning) : Record → WireJson
  | .name n => .object [("name", .text n.path)]
  | .actor a => actorWire a
  | .permission q => permissionWire q
  | .credential c => .object ((p.keptFields c).map fun field => (field.1, textOrNull field.2))

/-- One entry of a payload, given the wire form of the value. -/
def payloadEntry {α : Type} (r : WriteRequest CredentialName Permission α)
    (value : Except DumpFault WireJson) : PayloadKey → Except DumpFault (String × WireJson)
  | .overwrite => .ok (PayloadKey.overwrite.text, .bool r.overwrite)
  | .name => .ok (PayloadKey.name.text, .text r.name.path)
  | .value => return (PayloadKey.value.text, ← value)
  | .kind => .ok (PayloadKey.kind.text, .text r.kind.wire)
  | .permissions =>
    .ok (PayloadKey.permissions.text, .array (r.permissions.map permissionWire))

mutual

/-- The wire form of a value for which there are `room` levels. -/
def wire (p : Pruning) : Nat → Value → Except DumpFault WireJson
  | _, loop _ _ => .error .circular
  | 0, _ => .error .tooDeep
  | _ + 1, scalar s => scalarWire s
  | _ + 1, buffer _ content => return .text (← octetsText content)
  | room + 1, sequence _ _ items => return .array (← wireItems p room items)
  | room + 1, set _ items => return .array (← wireItems p room items)
  | room + 1, mapping _ false entries => return .object (← wireEntries p room [] entries)
  | _ + 1, mapping _ true _ => .error (.unknownType "mappingproxy")
  | room + 1, iterator _ _ rest => return .array (← wireItems p room rest)
  | _ + 1, record _ r => .ok (recordWire p r)
  | room + 1, request _ ⟨declared, overwrite, og, name, kind, value, permissions, pg⟩ => do
    let r : WriteRequest CredentialName Permission Value :=
      ⟨declared, overwrite, og, name, kind, value, permissions, pg⟩
    let entries ← (PayloadKey.all.filter (p.keepsKey (!value.isNone) r)).mapM
      (payloadEntry r (wire p room value))
    if entries.all fun entry => entry.2.depth ≤ room then return .object entries
    else throw .tooDeep
  | _ + 1, object _ c => .error (.unknownType c.qualifiedName)
termination_by structural _ v => v

def wireItems (p : Pruning) (room : Nat) : List Value → Except DumpFault (List WireJson)
  | [] => .ok []
  | x :: rest => return (← wire p room x) :: (← wireItems p room rest)
termination_by structural vs => vs

/-- Puts the entries after those already written. -/
def wireEntries (p : Pruning) (room : Nat) (written : List (String × WireJson)) :
    List (Value × Value) → Except DumpFault (List (String × WireJson))
  | [] => .ok written
  | (k, v) :: rest => do
    let key ← keyText k
    let j ← wire p room v
    wireEntries p room (Json.put written key j) rest
termination_by structural es => es

end

end Value

namespace WriteRequest

/-- The entries of a request's dump in wire form. -/
def wireDump (p : Pruning) (s : Selection) (r : WriteRequest CredentialName Permission Value) :
    Except DumpFault (List (String × WireJson)) := do
  let keeps (key : PayloadKey) : Bool :=
    p.keepsKey (!r.value.isNone) r key && s.allows key.text
  let entries ← (PayloadKey.all.filter keeps).mapM
    (Value.payloadEntry r (r.value.wire p nestingLimit))
  if entries.all fun entry => entry.2.depth ≤ nestingLimit then return entries
  else throw .resultTooDeep

/-- The payload: the dump in wire form, without fields that hold nothing. -/
def payload (r : WriteRequest CredentialName Permission Value) :
    Except DumpFault WireJson :=
  return .object (← r.wireDump .dropAbsent .everything)

end WriteRequest

end CredentialWrite
