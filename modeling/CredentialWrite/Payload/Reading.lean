import CredentialWrite.Payload.Dump

/-!
# Dumps of what a store holds

A dump in wire form reads the iterators inside a value to their end, each where it stands first;
where it stands again it is empty. The items that were taken are gone, also when the dump fails
after that. Nothing else in the store is touched by a dump.
-/

namespace CredentialWrite

namespace Value

mutual

/-- A value as it is found by reading it once, given the iterators and requests that it stands in
and the iterators that were read before it. What stands inside of itself is a loop. -/
def readOnce (inside read : List Address) : Value → Value × List Address
  | sequence a shape items =>
    let (items, read) := readItemsOnce inside read items
    (sequence a shape items, read)
  | set a items =>
    let (items, read) := readItemsOnce inside read items
    (set a items, read)
  | mapping a readOnly entries =>
    let (entries, read) := readEntriesOnce inside read entries
    (mapping a readOnly entries, read)
  | iterator a source rest =>
    if inside.contains source then (loop a .list, read)
    else if read.contains source then (iterator a source [], read)
    else
      let (rest, read) := readItemsOnce (source :: inside) (source :: read) rest
      (iterator a source rest, read)
  | request a ⟨declared, overwrite, og, name, kind, value, permissions, pg⟩ =>
    if inside.contains a then (loop a .list, read)
    else
      let (value, read) := readOnce (a :: inside) read value
      (request a ⟨declared, overwrite, og, name, kind, value, permissions, pg⟩, read)
  | v => (v, read)
termination_by structural v => v

def readItemsOnce (inside read : List Address) : List Value → List Value × List Address
  | [] => ([], read)
  | v :: rest =>
    let (v, read) := readOnce inside read v
    let (rest, read) := readItemsOnce inside read rest
    (v :: rest, read)
termination_by structural vs => vs

/-- Keys are not read. -/
def readEntriesOnce (inside read : List Address) :
    List (Value × Value) → List (Value × Value) × List Address
  | [] => ([], read)
  | (k, v) :: rest =>
    let (v, read) := readOnce inside read v
    let (rest, read) := readEntriesOnce inside read rest
    ((k, v) :: rest, read)
termination_by structural es => es

end

mutual

/-- The iterators from which an item is taken while a value is written in wire form, once for each
item, up to the first fault. -/
def takes (p : Pruning) : Nat → Value → List Address
  | 0, _ => []
  | room + 1, sequence _ _ items => takesAmong p room items
  | room + 1, set _ items => takesAmong p room items
  | room + 1, mapping _ false entries => takesAmongEntries p room entries
  | room + 1, iterator _ source rest => takesFrom p room source rest
  | room + 1, request _ ⟨_, _, _, _, _, value, _, _⟩ => takes p room value
  | _ + 1, _ => []
termination_by structural _ v => v

def takesAmong (p : Pruning) (room : Nat) : List Value → List Address
  | [] => []
  | v :: rest => takes p room v ++ if (wire p room v).isOk then takesAmong p room rest else []
termination_by structural vs => vs

def takesFrom (p : Pruning) (room : Nat) (a : Address) : List Value → List Address
  | [] => []
  | v :: rest =>
    a :: takes p room v ++ if (wire p room v).isOk then takesFrom p room a rest else []
termination_by structural vs => vs

def takesAmongEntries (p : Pruning) (room : Nat) : List (Value × Value) → List Address
  | [] => []
  | (k, v) :: rest =>
    if (keyText k).isOk then
      takes p room v ++ if (wire p room v).isOk then takesAmongEntries p room rest else []
    else []
termination_by structural es => es

end

/-- The items that a dump of the selected fields takes. -/
def selectedTakes (p : Pruning) (s : Selection) : Value → List Address
  | request _ r => if s.allows PayloadKey.value.text then r.value.takes p nestingLimit else []
  | _ => []

end Value

namespace Store

/-- Takes an item from each of some iterators. -/
def take (s : Store) : List Address → Store
  | [] => s
  | a :: rest => match s.cell? a with
    | some (.iterator items) => (s.update a (.iterator (items.drop 1))).take rest
    | _ => s.take rest

@[simp] theorem take_nil (s : Store) : s.take [] = s := rfl

@[simp] theorem size_take (s : Store) (as : List Address) :
    (s.take as).cells.size = s.cells.size := by
  induction as generalizing s with
  | nil => rfl
  | cons a rest ih =>
    simp only [take]
    split
    · rw [ih]; simp [update]
    · exact ih s

/-- What is not an iterator stays as it is. -/
theorem cell?_take {s : Store} {b : Address} {as : List Address}
    (h : ∀ rest, s.cell? b ≠ some (.iterator rest)) : (s.take as).cell? b = s.cell? b := by
  induction as generalizing s with
  | nil => rfl
  | cons a rest ih =>
    simp only [take]
    split
    · next items ha =>
      have hab : a ≠ b := fun hab => h items (hab ▸ ha)
      have hb : (s.update a (.iterator (items.drop 1))).cell? b = s.cell? b :=
        cell?_update_of_ne hab
      rw [ih (by intro rest; rw [hb]; exact h rest), hb]
    · exact ih h

/-- The content of a request as it is found by reading it once. -/
def readRequest (s : Store) (r : StoredRequest) : WriteRequest CredentialName Permission Value :=
  (s.viewRequest r).map id id fun v => (v.readOnce [] []).1

/-- The record or request at a reference, as it is found by reading it once. -/
def readRecord (s : Store) (r : Ref) : Value :=
  match r, s.cellOf? r with
  | .address a, some (.request q _) => .request a (s.readRequest q)
  | r, _ => s.view r

/-- The payload of a request at this moment, and the store after it has been read. -/
def payloadOf (s : Store) (r : StoredRequest) : Except DumpFault WireJson × Store :=
  let request := s.readRequest r
  (request.payload, s.take (request.value.takes .dropAbsent nestingLimit))

/-- The dump of a record or a request at this moment; only one in wire form reads iterators. -/
def dumpOf? (s : Store) (o : DumpOptions) (r : Ref) : Option (Except DumpFault Draft × Store) :=
  match o.mode with
  | .wire =>
    let v := s.readRecord r
    (v.wireEntriesOf? o.pruning o.selection).map fun entries =>
      (entries.map fun entries => Draft.ofWire (.object entries),
        s.take (v.selectedTakes o.pruning o.selection))
  | .plain => (s.copiedEntriesOf? o.pruning o.selection r).map fun entries =>
    (entries.map Draft.mapping, s)

def dumpTextOf? (s : Store) (p : Pruning) (selection : Selection) (r : Ref) :
    Option (Except DumpFault String × Store) :=
  let v := s.readRecord r
  (v.dumpText? p selection).map fun text => (text, s.take (v.selectedTakes p selection))

end Store

end CredentialWrite
