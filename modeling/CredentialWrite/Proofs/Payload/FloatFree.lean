import CredentialWrite.Payload.Reading
import CredentialWrite.Proofs.Payload.WellFormed

/-!
# Values without floats and iterators

Only floats become numbers that are no integers, and only iterators give items away. So where
neither stands in a value, reading it takes nothing from the store, and no text of a number but the
digits of integers is in what is written of it. What stands in a key makes no difference: a key is
written as a text, and reads no items.
-/

namespace CredentialWrite

namespace Json

variable {ν : Type}

def IsFloatFree (j : Json ν) : Prop := j.AllNumbers fun _ => False

theorem isFloatFree_array {items : List (Json ν)} (h : ∀ j ∈ items, j.IsFloatFree) :
    (Json.array items).IsFloatFree := allNumbersOfItems_iff.mpr h

theorem isFloatFree_object {entries : List (String × Json ν)}
    (h : ∀ e ∈ entries, e.2.IsFloatFree) : (Json.object entries).IsFloatFree :=
  allNumbersOfEntries_iff.mpr h

mutual

/-- Trees are written alike where their numbers are. -/
theorem write_congr {f g : ν → List Char} :
    ∀ {j : Json ν}, j.AllNumbers (fun x => f x = g x) → j.write f = j.write g
  | .number _, h => h
  | .array [], _ | .object [], _ | .null, _ | .bool true, _ | .bool false, _ | .int _, _
  | .text _, _ => rfl
  | .array (_ :: _), h => by rw [write, write, write_congr h.1, writeItems_congr h.2]
  | .object ((_, _) :: _), h => by rw [write, write, write_congr h.1, writeEntries_congr h.2]

theorem writeItems_congr {f g : ν → List Char} : ∀ {items : List (Json ν)},
    AllNumbersOfItems (fun x => f x = g x) items → writeItems f items = writeItems g items
  | [], _ => rfl
  | _ :: _, h => by rw [writeItems, writeItems, write_congr h.1, writeItems_congr h.2]

theorem writeEntries_congr {f g : ν → List Char} : ∀ {entries : List (String × Json ν)},
    AllNumbersOfEntries (fun x => f x = g x) entries →
      writeEntries f entries = writeEntries g entries
  | [], _ => rfl
  | (_, _) :: _, h => by rw [writeEntries, writeEntries, write_congr h.1, writeEntries_congr h.2]

end

theorem IsFloatFree.render_eq {j : Json ν} (h : j.IsFloatFree) (f g : ν → String) :
    j.render f = j.render g := by
  rw [render, render, write_congr (h.imp fun _ => False.elim)]

end Json

open Json

namespace Value

mutual

/-- Whether a float or an iterator stands in a value; keys are not looked into. -/
def holdsFloatOrIterator : Value → Bool
  | scalar (.float _ _) => true
  | iterator _ _ _ => true
  | sequence _ _ items => itemsHoldFloatOrIterator items
  | set _ items => itemsHoldFloatOrIterator items
  | mapping _ _ entries => entriesHoldFloatOrIterator entries
  | request _ ⟨_, _, _, _, _, value, _, _⟩ => holdsFloatOrIterator value
  | _ => false

def itemsHoldFloatOrIterator : List Value → Bool
  | [] => false
  | x :: rest => holdsFloatOrIterator x || itemsHoldFloatOrIterator rest

def entriesHoldFloatOrIterator : List (Value × Value) → Bool
  | [] => false
  | (_, v) :: rest => holdsFloatOrIterator v || entriesHoldFloatOrIterator rest

end

section Reading

mutual

theorem holdsFloatOrIterator_readOnce (inside read : List Address) :
    ∀ {v : Value}, v.holdsFloatOrIterator = false →
      (v.readOnce inside read).1.holdsFloatOrIterator = false
  | sequence _ _ _, h => itemsHoldFloatOrIterator_readOnce inside read h
  | set _ _, h => itemsHoldFloatOrIterator_readOnce inside read h
  | mapping _ _ _, h => entriesHoldFloatOrIterator_readOnce inside read h
  | request a ⟨_, _, _, _, _, value, _, _⟩, h => by
    rw [readOnce]
    split
    -- A request inside its own value is read as a loop, which holds nothing.
    · rfl
    · exact holdsFloatOrIterator_readOnce (v := value) (a :: inside) read h
  | scalar _, h | buffer _ _, h | record _ _, h | object _ _, h | loop _ _, h => h
  | iterator _ _ _, h => by cases h

theorem itemsHoldFloatOrIterator_readOnce (inside read : List Address) :
    ∀ {vs : List Value}, itemsHoldFloatOrIterator vs = false →
      itemsHoldFloatOrIterator (readItemsOnce inside read vs).1 = false
  | [], _ => rfl
  | _ :: _, h => by
    obtain ⟨hv, hs⟩ := Bool.or_eq_false_iff.mp h
    exact Bool.or_eq_false_iff.mpr ⟨holdsFloatOrIterator_readOnce inside read hv,
      itemsHoldFloatOrIterator_readOnce inside _ hs⟩

theorem entriesHoldFloatOrIterator_readOnce (inside read : List Address) :
    ∀ {es : List (Value × Value)}, entriesHoldFloatOrIterator es = false →
      entriesHoldFloatOrIterator (readEntriesOnce inside read es).1 = false
  | [], _ => rfl
  | (_, _) :: _, h => by
    obtain ⟨hv, hs⟩ := Bool.or_eq_false_iff.mp h
    exact Bool.or_eq_false_iff.mpr ⟨holdsFloatOrIterator_readOnce inside read hv,
      entriesHoldFloatOrIterator_readOnce inside _ hs⟩

end

variable (p : Pruning)

mutual

/-- Nothing is taken where there is no iterator. -/
theorem takes_eq_nil : ∀ (room : Nat) {v : Value}, v.holdsFloatOrIterator = false →
    v.takes p room = []
  | 0, v, _ => takes.eq_1 p v
  | room + 1, sequence _ _ _, h => takesAmong_eq_nil room h
  | room + 1, set _ _, h => takesAmong_eq_nil room h
  | _ + 1, mapping _ true _, _ => rfl
  | room + 1, mapping _ false _, h => takesAmongEntries_eq_nil room h
  | room + 1, request _ ⟨_, _, _, _, _, value, _, _⟩, h => takes_eq_nil room (v := value) h
  | _ + 1, scalar _, _ | _ + 1, buffer _ _, _ | _ + 1, record _ _, _ | _ + 1, object _ _, _
  | _ + 1, loop _ _, _ => rfl
  | _ + 1, iterator _ _ _, h => by cases h

theorem takesAmong_eq_nil (room : Nat) : ∀ {vs : List Value},
    itemsHoldFloatOrIterator vs = false → takesAmong p room vs = []
  | [], _ => rfl
  | _ :: _, h => by
    obtain ⟨hv, hs⟩ := Bool.or_eq_false_iff.mp h
    rw [takesAmong, takes_eq_nil room hv, takesAmong_eq_nil room hs, ite_self]
    rfl

theorem takesAmongEntries_eq_nil (room : Nat) : ∀ {es : List (Value × Value)},
    entriesHoldFloatOrIterator es = false → takesAmongEntries p room es = []
  | [], _ => rfl
  | (_, _) :: _, h => by
    obtain ⟨hv, hs⟩ := Bool.or_eq_false_iff.mp h
    rw [takesAmongEntries, takes_eq_nil room hv, takesAmongEntries_eq_nil room hs]
    simp

end

end Reading

section Writing

variable {p : Pruning} {r : WriteRequest CredentialName Permission Value}

theorem isFloatFree_permissionWire (q : Permission) : (permissionWire q).IsFloatFree := by
  refine ⟨trivial, isFloatFree_array fun j hj => ?_, trivial⟩
  obtain ⟨o, -, rfl⟩ := List.mem_map.mp hj
  trivial

theorem isFloatFree_recordWire (p : Pruning) (x : Record) : (recordWire p x).IsFloatFree := by
  cases x with
  | name n => exact ⟨trivial, trivial⟩
  | actor a => exact ⟨trivial, trivial, trivial⟩
  | permission q => exact isFloatFree_permissionWire q
  | credential c =>
    refine isFloatFree_object fun e he => ?_
    obtain ⟨field, -, rfl⟩ := List.mem_map.mp he
    cases field.2 <;> trivial

theorem isFloatFree_payloadEntries {value : Except DumpFault WireJson}
    (hv : ∀ j, value = .ok j → j.IsFloatFree) {keys : List PayloadKey}
    {entries : List (String × WireJson)} (h : keys.mapM (payloadEntry r value) = .ok entries) :
    (Json.object entries).IsFloatFree := by
  refine isFloatFree_object (forall_of_mapM_eq_ok (fun key e he => ?_) h)
  cases key with
  | value =>
    obtain ⟨j, hj, he⟩ := exists_of_bind_eq_ok he
    cases he
    exact hv j hj
  | permissions =>
    cases he
    refine isFloatFree_array fun j hj => ?_
    obtain ⟨q, -, rfl⟩ := List.mem_map.mp hj
    exact isFloatFree_permissionWire q
  | _ =>
    cases he
    trivial

mutual

/-- What is written of a value without floats has no numbers but integers. -/
theorem isFloatFree_wire : ∀ {v : Value} {room : Nat} {j : WireJson},
    v.holdsFloatOrIterator = false → wire p room v = .ok j → j.IsFloatFree
  | loop _ _, _, _, _, h => by simp [wire] at h
  | scalar s, room, j, hv, h => by
    obtain ⟨n, rfl⟩ := exists_room h
    cases s with
    | float x copy => cases hv
    | octets content =>
      obtain ⟨t, -, h⟩ := exists_of_bind_eq_ok h
      cases h
      trivial
    | _ =>
      cases h
      trivial
  | buffer _ content, room, j, _, h => by
    obtain ⟨n, rfl⟩ := exists_room h
    obtain ⟨t, -, h⟩ := exists_of_bind_eq_ok h
    cases h
    trivial
  | sequence _ _ items, room, j, hv, h | set _ items, room, j, hv, h => by
    obtain ⟨n, rfl⟩ := exists_room h
    obtain ⟨js, hi, h⟩ := exists_of_bind_eq_ok h
    cases h
    exact isFloatFree_array (isFloatFree_wireItems hv hi)
  | mapping _ _ entries, room, j, hv, h => by
    obtain ⟨n, rfl⟩ := exists_room h
    obtain ⟨es, rfl, he⟩ := exists_entries_of_wire h
    exact isFloatFree_object (isFloatFree_wireEntries hv (by simp) he)
  | record _ x, room, j, _, h => by
    obtain ⟨n, rfl⟩ := exists_room h
    cases h
    exact isFloatFree_recordWire p x
  | request _ ⟨_, _, _, _, _, value, _, _⟩, room, j, hv, h => by
    obtain ⟨n, rfl⟩ := exists_room h
    obtain ⟨es, rfl, he⟩ := exists_entries_of_wire_request h
    exact isFloatFree_payloadEntries (fun j => isFloatFree_wire (v := value) hv) he
  | object _ _, room, j, _, h => by
    obtain ⟨n, rfl⟩ := exists_room h
    cases h
  | iterator _ _ _, _, _, hv, _ => by cases hv

theorem isFloatFree_wireItems : ∀ {vs : List Value} {room : Nat} {js : List WireJson},
    itemsHoldFloatOrIterator vs = false → wireItems p room vs = .ok js → ∀ j ∈ js, j.IsFloatFree
  | [], _, js, _, h => by
    cases h
    simp
  | v :: rest, room, js, hv, h => by
    obtain ⟨hv, hs⟩ := Bool.or_eq_false_iff.mp hv
    obtain ⟨j, hj, h⟩ := exists_of_bind_eq_ok h
    obtain ⟨js', hr, h⟩ := exists_of_bind_eq_ok h
    cases h
    exact List.forall_mem_cons.mpr ⟨isFloatFree_wire hv hj, isFloatFree_wireItems hs hr⟩

theorem isFloatFree_wireEntries : ∀ {es : List (Value × Value)} {room : Nat}
    {written fs : List (String × WireJson)}, entriesHoldFloatOrIterator es = false →
    (∀ e ∈ written, e.2.IsFloatFree) → wireEntries p room written es = .ok fs →
      ∀ e ∈ fs, e.2.IsFloatFree
  | [], _, written, fs, _, hw, h => by
    cases h
    exact hw
  | (k, v) :: rest, room, written, fs, hv, hw, h => by
    obtain ⟨hv, hs⟩ := Bool.or_eq_false_iff.mp hv
    obtain ⟨key, -, h⟩ := exists_of_bind_eq_ok h
    obtain ⟨j, hj, h⟩ := exists_of_bind_eq_ok h
    have free := isFloatFree_wire hv hj
    refine isFloatFree_wireEntries hs (fun e he => ?_) h
    exact (mem_put he).elim (hw e) fun he => he ▸ free

end

end Writing

end Value

theorem WriteRequest.isFloatFree_payload {r : WriteRequest CredentialName Permission Value}
    {j : WireJson} (hv : r.value.holdsFloatOrIterator = false) (h : r.payload = .ok j) :
    j.IsFloatFree := by
  obtain ⟨es, rfl, he, -⟩ := exists_of_payload h
  exact Value.isFloatFree_payloadEntries (fun j => Value.isFloatFree_wire hv) he

end CredentialWrite
