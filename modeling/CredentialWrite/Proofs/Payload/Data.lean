import CredentialWrite.Payload.Reading
import CredentialWrite.Store.Comparison

/-!
# Data

Values that are made of what JSON is made of: nothing, truth values, integers, floats, texts, lists,
and mappings from texts of either class. Reading data leaves it and every iterator as they are, and
nothing in it is inside itself. Where its depth is allowed it is written as the tree that it is, but
for read-only mappings: wherever one stands, nothing is written.
-/

namespace CredentialWrite

mutual

/-- A value that is data, with the tree that it is. A float that JSON has no word for is null. -/
inductive Data : Value → WireJson → Prop
  | none : Data (.scalar .none) .null
  | bool (b : Bool) : Data (.scalar (.bool b)) (.bool b)
  | int (n : Int) : Data (.scalar (.int n)) (.int n)
  | float (x : Binary64) (copy : Nat) (h : x.isFinite = true) :
      Data (.scalar (.float x copy)) (.number x)
  | notFinite (x : Binary64) (copy : Nat) (h : x.isFinite = false) :
      Data (.scalar (.float x copy)) .null
  | text (t : String) : Data (.scalar (.text t)) (.text t)
  | list (a : Address) {vs : List Value} {js : List WireJson} (h : DataItems vs js) :
      Data (.sequence a .list vs) (.array js)
  | mapping (a : Address) (readOnly : Bool) {es : List (Value × Value)}
      {fs : List (String × WireJson)} (h : DataEntries es fs) (hn : (fs.map Prod.fst).Nodup) :
      Data (.mapping a readOnly es) (.object fs)

inductive DataItems : List Value → List WireJson → Prop
  | nil : DataItems [] []
  | cons {v : Value} {j : WireJson} {vs : List Value} {js : List WireJson} (h : Data v j)
      (hs : DataItems vs js) : DataItems (v :: vs) (j :: js)

inductive DataEntries : List (Value × Value) → List (String × WireJson) → Prop
  | nil : DataEntries [] []
  | cons (key : String) {v : Value} {j : WireJson} {es : List (Value × Value)}
      {fs : List (String × WireJson)} (h : Data v j) (hs : DataEntries es fs) :
      DataEntries ((.scalar (.text key), v) :: es) ((key, j) :: fs)

end

theorem DataEntries.keys {es : List (Value × Value)} {fs : List (String × WireJson)} :
    DataEntries es fs → es.map Prod.fst = fs.map fun f => Value.scalar (.text f.1)
  | .nil => rfl
  | .cons key _ hs => by rw [List.map_cons, List.map_cons, hs.keys]

namespace Value

mutual

/-- Whether a read-only mapping stands in a value; keys are not looked into. -/
def holdsReadOnly : Value → Bool
  | sequence _ _ items => itemsHoldReadOnly items
  | set _ items => itemsHoldReadOnly items
  | mapping _ readOnly entries => readOnly || entriesHoldReadOnly entries
  | iterator _ _ items => itemsHoldReadOnly items
  | request _ ⟨_, _, _, _, _, value, _, _⟩ => holdsReadOnly value
  | _ => false

def itemsHoldReadOnly : List Value → Bool
  | [] => false
  | x :: rest => holdsReadOnly x || itemsHoldReadOnly rest

def entriesHoldReadOnly : List (Value × Value) → Bool
  | [] => false
  | (_, v) :: rest => holdsReadOnly v || entriesHoldReadOnly rest

end

end Value

mutual

theorem Data.hasLoop {v : Value} {j : WireJson} : Data v j → v.hasLoop = false
  | .none | .bool _ | .int _ | .float _ _ _ | .notFinite _ _ _ | .text _ => rfl
  | .list _ h => h.itemsHaveLoop
  | .mapping _ _ h _ => h.entriesHaveLoop

theorem DataItems.itemsHaveLoop {vs : List Value} {js : List WireJson} :
    DataItems vs js → Value.itemsHaveLoop vs = false
  | .nil => rfl
  | .cons h hs => by
    rw [Value.itemsHaveLoop, h.hasLoop, hs.itemsHaveLoop]
    rfl

theorem DataEntries.entriesHaveLoop {es : List (Value × Value)}
    {fs : List (String × WireJson)} : DataEntries es fs → Value.entriesHaveLoop es = false
  | .nil => rfl
  | .cons _ h hs => by
    rw [Value.entriesHaveLoop, h.hasLoop, hs.entriesHaveLoop]
    rfl

end

section Reading

variable (inside read : List Address)

mutual

theorem Data.readOnce {v : Value} {j : WireJson} :
    Data v j → v.readOnce inside read = (v, read)
  | .none | .bool _ | .int _ | .float _ _ _ | .notFinite _ _ _ | .text _ => rfl
  | .list _ h => by rw [Value.readOnce, h.readItemsOnce]
  | .mapping _ _ h _ => by rw [Value.readOnce, h.readEntriesOnce]

theorem DataItems.readItemsOnce {vs : List Value} {js : List WireJson} :
    DataItems vs js → Value.readItemsOnce inside read vs = (vs, read)
  | .nil => rfl
  | .cons h hs => by
    rw [Value.readItemsOnce, h.readOnce]
    simp only [hs.readItemsOnce]

theorem DataEntries.readEntriesOnce {es : List (Value × Value)}
    {fs : List (String × WireJson)} :
    DataEntries es fs → Value.readEntriesOnce inside read es = (es, read)
  | .nil => rfl
  | .cons _ h hs => by
    rw [Value.readEntriesOnce, h.readOnce]
    simp only [hs.readEntriesOnce]

end

end Reading

theorem Json.put_of_not_mem {ν : Type} {entries : List (String × Json ν)} {key : String}
    (j : Json ν) (h : key ∉ entries.map Prod.fst) :
    put entries key j = entries ++ [(key, j)] := by
  induction entries with
  | nil => rfl
  | cons entry rest ih =>
    obtain ⟨k, x⟩ := entry
    rw [List.map_cons, List.mem_cons, not_or] at h
    rw [put, if_neg (Ne.symm h.1), ih h.2, List.cons_append]

section Writing

variable (p : Pruning)

mutual

theorem Data.takes {v : Value} {j : WireJson} : ∀ room, Data v j → v.takes p room = []
  | 0, _ => Value.takes.eq_1 p v
  | _ + 1, .none | _ + 1, .bool _ | _ + 1, .int _ | _ + 1, .float _ _ _
  | _ + 1, .notFinite _ _ _ | _ + 1, .text _ | _ + 1, .mapping _ true _ _ => rfl
  | room + 1, .list _ h => by rw [Value.takes, h.takesAmong room]
  | room + 1, .mapping _ false h _ => by rw [Value.takes, h.takesAmongEntries room]

theorem DataItems.takesAmong {vs : List Value} {js : List WireJson} :
    ∀ room, DataItems vs js → Value.takesAmong p room vs = []
  | _, .nil => rfl
  | room, .cons h hs => by
    rw [Value.takesAmong, h.takes room, hs.takesAmong room]
    simp

theorem DataEntries.takesAmongEntries {es : List (Value × Value)}
    {fs : List (String × WireJson)} :
    ∀ room, DataEntries es fs → Value.takesAmongEntries p room es = []
  | _, .nil => rfl
  | room, .cons _ h hs => by
    rw [Value.takesAmongEntries, h.takes room, hs.takesAmongEntries room]
    simp

end

def writtenUnless {α : Type} (readOnly : Bool) (x : α) : Except DumpFault α :=
  if readOnly then .error (.unknownType "mappingproxy") else .ok x

theorem writtenUnless_map {α β : Type} (readOnly : Bool) (x : α) (f : α → β) :
    (writtenUnless readOnly x).map f = writtenUnless readOnly (f x) := by
  cases readOnly <;> rfl

mutual

/-- Data is written as the tree that it is, unless a read-only mapping stands in it. -/
theorem Data.wire {v : Value} {j : WireJson} :
    Data v j → ∀ {room}, j.depth ≤ room → v.wire p room = writtenUnless v.holdsReadOnly j
  | .none, _ + 1, _ | .bool _, _ + 1, _ | .int _, _ + 1, _ | .text _, _ + 1, _ => rfl
  | .float x _ hx, _ + 1, _ => by
    rw [Value.wire, Value.scalarWire, if_pos hx]
    rfl
  | .notFinite x _ hx, _ + 1, _ => by
    rw [Value.wire, Value.scalarWire, if_neg (by simp [hx])]
    rfl
  | .list _ h, room + 1, hr => by
    rw [Value.wire, h.wireItems (Nat.le_of_succ_le_succ hr)]
    exact writtenUnless_map _ _ _
  | .mapping _ true h hn, room + 1, hr => rfl
  | .mapping _ false h hn, room + 1, hr => by
    rw [Value.wire, h.wireEntries (Nat.le_of_succ_le_succ hr) [] (by simpa using hn)]
    exact writtenUnless_map _ _ _

theorem DataItems.wireItems {vs : List Value} {js : List WireJson} :
    DataItems vs js → ∀ {room}, Json.depthOfItems js ≤ room →
      Value.wireItems p room vs = writtenUnless (Value.itemsHoldReadOnly vs) js
  | .nil, _, _ => rfl
  | @DataItems.cons v _ vs _ h hs, room, hr => by
    obtain ⟨hj, hjs⟩ := Nat.max_le.mp hr
    rw [Value.wireItems, h.wire hj, hs.wireItems hjs, Value.itemsHoldReadOnly]
    cases v.holdsReadOnly <;> cases Value.itemsHoldReadOnly vs <;> rfl

theorem DataEntries.wireEntries {es : List (Value × Value)} {fs : List (String × WireJson)} :
    DataEntries es fs → ∀ {room}, Json.depthOfEntries fs ≤ room →
      ∀ written, ((written ++ fs).map Prod.fst).Nodup →
        Value.wireEntries p room written es =
          writtenUnless (Value.entriesHoldReadOnly es) (written ++ fs)
  | .nil, _, _, written, _ => by
    rw [Value.wireEntries, List.append_nil]
    rfl
  | @DataEntries.cons key v j _ _ h hs, room, hr, written, hn => by
    obtain ⟨hj, hjs⟩ := Nat.max_le.mp hr
    -- The keys are all distinct, so the entry is new and goes to the end.
    have hk : key ∉ written.map Prod.fst := by
      rw [List.map_append, List.map_cons] at hn
      intro hm
      exact (List.nodup_append.mp hn).2.2 _ hm _ List.mem_cons_self rfl
    have hrest := hs.wireEntries hjs (written ++ [(key, j)]) (by simpa using hn)
    rw [List.append_assoc, List.singleton_append] at hrest
    rw [Value.wireEntries, Value.keyText, Value.scalarKey, h.wire hj, Value.entriesHoldReadOnly]
    cases v.holdsReadOnly with
    | true => rfl
    | false =>
      simp only [writtenUnless, bind, Except.bind, Json.put_of_not_mem _ hk]
      exact hrest

end

end Writing

/-- A payload tells what is seen in the store, and leaves the store as it is, where the value is
read as it is and nothing is taken from an iterator in it. -/
theorem Store.payloadOf_of_still {s : Store} {q : StoredRequest}
    (read : (s.view q.value).readOnce [] [] = (s.view q.value, []))
    (takes : (s.view q.value).takes .dropAbsent nestingLimit = []) :
    s.payloadOf q = ((s.viewRequest q).payload, s) := by
  have seen : s.readRequest q = s.viewRequest q := by
    simp only [readRequest, viewRequest, WriteRequest.map, read, List.map_id, id_eq]
  have value : (s.viewRequest q).value = s.view q.value := rfl
  simp only [payloadOf, seen, value, takes, take_nil]

end CredentialWrite
