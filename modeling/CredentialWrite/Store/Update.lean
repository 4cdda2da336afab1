import CredentialWrite.Store.View
import CredentialWrite.Value.Draft
import CredentialWrite.Value.Hash
import CredentialWrite.Value.Printed

/-!
# New containers and changes in place

Sets and mappings are made from elements and keys that have a hash; equal keys collapse, the first
giving key and place and the last the value. Lists, mappings and buffers change in place, and every
reference to them shows the change. A draft becomes new objects.
-/

namespace CredentialWrite

/-- Why an item cannot be read or written. -/
inductive ItemFault where
  | unhashable (fault : HashFault)
  | missingKey (printed : String)
  | outOfRange (className : String) (assigning : Bool)
  | hugeIndex
  | badIndex (container index : String)
  | notSubscriptable (className : String)
  | notAssignable (className : String)
  | noAppend (className : String)
  | notInteger (className : String)
  | notOctet
  deriving DecidableEq

namespace Store

def hashFault? (s : Store) (r : Ref) : Option HashFault :=
  match (s.view r).hash Hashing.standard with
  | .ok _ => none
  | .error e => some e

/-- Entries with one more; an equal key keeps its place. -/
def putEntry (s : Store) (entries : List (Ref × Ref)) (key value : Ref) : List (Ref × Ref) :=
  match entries with
  | [] => [(key, value)]
  | (k, v) :: rest =>
    if s.same k key then (k, value) :: rest else (k, v) :: s.putEntry rest key value

def findEntry? (s : Store) (entries : List (Ref × Ref)) (key : Ref) : Option Ref :=
  (entries.find? fun entry => s.same entry.1 key).map Prod.snd

def collectEntries (s : Store) (done : List (Ref × Ref)) :
    List (Ref × Ref) → Except ItemFault (List (Ref × Ref))
  | [] => .ok done
  | (key, value) :: rest =>
    match s.hashFault? key with
    | some e => .error (.unhashable e)
    | none => s.collectEntries (s.putEntry done key value) rest

def newMapping (s : Store) (readOnly : Bool) (entries : List (Ref × Ref)) :
    Except ItemFault (Ref × Store) := do
  let entries ← s.collectEntries [] entries
  let (a, s) := s.alloc (.mapping readOnly entries)
  return (.address a, s)

def collectItems (s : Store) (done : List Ref) : List Ref → Except ItemFault (List Ref)
  | [] => .ok done
  | item :: rest =>
    match s.hashFault? item with
    | some e => .error (.unhashable e)
    | none => s.collectItems (if done.any (s.same · item) then done else done ++ [item]) rest

def newSet (s : Store) (items : List Ref) : Except ItemFault (Ref × Store) := do
  let items ← s.collectItems [] items
  let (a, s) := s.alloc (.set items)
  return (.address a, s)

def newSequence (s : Store) (shape : SequenceShape) (items : List Ref) : Ref × Store :=
  let (a, s) := s.alloc (.sequence shape items)
  (.address a, s)

/-- The place in a list of a number that may count from the end. -/
def placeOf? (size : Nat) (n : Int) : Option Nat :=
  if 0 ≤ n && n < size then some n.toNat
  else if n < 0 && -size ≤ n then some (n + size).toNat
  else none

/-- The number that a reference gives as an index. -/
def indexOf? : Ref → Option Int
  | .scalar (.int n) => some n
  | .scalar (.bool b) => some (if b then 1 else 0)
  | _ => none

/-- Whether a number can be an index at all: it fits into a word of 64 bits with a sign. -/
def isIndex (n : Int) : Bool := -9223372036854775808 ≤ n && n < 9223372036854775808

/-- The index that a key gives in a container that has indices. -/
def readIndex (s : Store) (container key : Ref) : Except ItemFault Int :=
  match indexOf? key with
  | none => .error (.badIndex (s.className container) (s.className key))
  | some n => if isIndex n then .ok n else .error .hugeIndex

/-- The octet that a reference gives. -/
def readOctet (s : Store) (r : Ref) : Except ItemFault UInt8 :=
  match indexOf? r with
  | none => .error (.notInteger (s.className r))
  | some n => if 0 ≤ n && n < 256 then .ok (UInt8.ofNat n.toNat) else .error .notOctet

/-- The item of a container at a key or an index. -/
def item (s : Store) (container key : Ref) : Except ItemFault Ref :=
  let className := s.className container
  let indexed (size : Nat) (get : Nat → Option Ref) : Except ItemFault Ref := do
    let n ← s.readIndex container key
    match (placeOf? size n).bind get with
    | some r => .ok r
    | none => .error (.outOfRange className false)
  match container with
  | .scalar (.text t) =>
    indexed t.length fun i => t.toList[i]?.map fun c => .text (String.singleton c)
  | .scalar (.octets content) =>
    indexed content.length fun i => content[i]?.map fun o => .scalar (.int o.toNat)
  | _ =>
    match s.cellOf? container with
    | some (.mapping _ entries) =>
      match s.hashFault? key with
      | some e => .error (.unhashable e)
      | none => match s.findEntry? entries key with
        | some r => .ok r
        | none => .error (.missingKey (s.view key).printed)
    | some (.sequence _ items) => indexed items.length (items[·]?)
    | some (.buffer content) =>
      indexed content.length fun i => content[i]?.map fun o => .scalar (.int o.toNat)
    | _ => .error (.notSubscriptable className)

/-- Puts an item into a list, a mapping or a buffer, in place. -/
def setItem (s : Store) (container key value : Ref) : Except ItemFault Store :=
  let className := s.className container
  match container with
  | .scalar _ => .error (.notAssignable className)
  | .address a =>
    match s.cell? a with
    | some (.mapping false entries) =>
      match s.hashFault? key with
      | some e => .error (.unhashable e)
      | none => .ok (s.update a (.mapping false (s.putEntry entries key value)))
    | some (.sequence .list items) => do
      let n ← s.readIndex container key
      match placeOf? items.length n with
      | some i => .ok (s.update a (.sequence .list (items.set i value)))
      | none => .error (.outOfRange className true)
    | some (.buffer content) => do
      let n ← s.readIndex container key
      let octet ← s.readOctet value
      match placeOf? content.length n with
      | some i => .ok (s.update a (.buffer (content.set i octet)))
      | none => .error (.outOfRange className false)
    | _ => .error (.notAssignable className)

/-- Why nothing can be appended to an object that is no list and no buffer. -/
def appendRefusal? (s : Store) (container : Ref) : Option ItemFault :=
  match s.cellOf? container with
  | some (.sequence .list _) | some (.buffer _) => none
  | _ => some (.noAppend (s.className container))

/-- Appends to a list or a buffer, in place. -/
def append (s : Store) (container value : Ref) : Except ItemFault Store :=
  match container, s.cellOf? container with
  | .address a, some (.sequence .list items) =>
    .ok (s.update a (.sequence .list (items ++ [value])))
  | .address a, some (.buffer content) => do
    let octet ← s.readOctet value
    .ok (s.update a (.buffer (content ++ [octet])))
  | _, _ => .error (.noAppend (s.className container))

mutual

/-- Makes the objects of a draft. -/
def place (s : Store) : Draft → Ref × Store
  | .scalar x => (.scalar x, s)
  | .existing a => (.address a, s)
  | .delayed source =>
    let (a, s) := s.alloc (.delayed source)
    (.address a, s)
  | .sequence shape items =>
    let (items, s) := s.placeItems items
    s.newSequence shape items
  | .set items =>
    let (items, s) := s.placeItems items
    let (a, s) := s.alloc (.set items)
    (.address a, s)
  | .mapping entries =>
    let (entries, s) := s.placeEntries entries
    let (a, s) := s.alloc (.mapping false entries)
    (.address a, s)
termination_by structural d => d

def placeItems (s : Store) : List Draft → List Ref × Store
  | [] => ([], s)
  | d :: rest =>
    let (r, s) := s.place d
    let (done, s) := s.placeItems rest
    (r :: done, s)
termination_by structural ds => ds

def placeEntries (s : Store) : List (Draft × Draft) → List (Ref × Ref) × Store
  | [] => ([], s)
  | (k, v) :: rest =>
    let (k, s) := s.place k
    let (v, s) := s.place v
    let (done, s) := s.placeEntries rest
    ((k, v) :: done, s)
termination_by structural es => es

end

end Store

end CredentialWrite
