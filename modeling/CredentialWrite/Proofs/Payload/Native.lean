import CredentialWrite.Proofs.Payload.Data

/-!
# Native values

Values that JSON has words for: nothing, truth values, integers, finite numbers, texts, lists, and
mappings from texts. They are the data whose numbers are all finite and that no read-only mapping
stands in. So reading such a value leaves it and every iterator as they are, nothing in it is inside
itself, and where its depth is allowed its wire form is the very tree that it is.
-/

namespace CredentialWrite

mutual

inductive Native : Value → WireJson → Prop
  | none : Native (.scalar .none) .null
  | bool (b : Bool) : Native (.scalar (.bool b)) (.bool b)
  | int (n : Int) : Native (.scalar (.int n)) (.int n)
  | float (x : Binary64) (copy : Nat) (h : x.isFinite = true) :
      Native (.scalar (.float x copy)) (.number x)
  | text (t : String) : Native (.scalar (.text t)) (.text t)
  | list (a : Address) {vs : List Value} {js : List WireJson} (h : NativeItems vs js) :
      Native (.sequence a .list vs) (.array js)
  | mapping (a : Address) {es : List (Value × Value)} {fs : List (String × WireJson)}
      (h : NativeEntries es fs) (hn : (fs.map Prod.fst).Nodup) :
      Native (.mapping a false es) (.object fs)

inductive NativeItems : List Value → List WireJson → Prop
  | nil : NativeItems [] []
  | cons {v : Value} {j : WireJson} {vs : List Value} {js : List WireJson} (h : Native v j)
      (hs : NativeItems vs js) : NativeItems (v :: vs) (j :: js)

inductive NativeEntries : List (Value × Value) → List (String × WireJson) → Prop
  | nil : NativeEntries [] []
  | cons (key : String) {v : Value} {j : WireJson} {es : List (Value × Value)}
      {fs : List (String × WireJson)} (h : Native v j) (hs : NativeEntries es fs) :
      NativeEntries ((.scalar (.text key), v) :: es) ((key, j) :: fs)

end

mutual

/-- A value is no more than one tree. -/
theorem Native.unique {v : Value} {j k : WireJson} : Native v j → Native v k → j = k
  | .none, .none | .bool _, .bool _ | .int _, .int _ | .float _ _ _, .float _ _ _
  | .text _, .text _ => rfl
  | .list _ h, .list _ h' => congrArg Json.array (h.unique h')
  | .mapping _ h _, .mapping _ h' _ => congrArg Json.object (h.unique h')

theorem NativeItems.unique {vs : List Value} {js ks : List WireJson} :
    NativeItems vs js → NativeItems vs ks → js = ks
  | .nil, .nil => rfl
  | .cons h hs, .cons h' hs' => by rw [h.unique h', hs.unique hs']

theorem NativeEntries.unique {es : List (Value × Value)} {fs gs : List (String × WireJson)} :
    NativeEntries es fs → NativeEntries es gs → fs = gs
  | .nil, .nil => rfl
  | .cons _ h hs, .cons _ h' hs' => by rw [h.unique h', hs.unique hs']

end

namespace Json

variable {ν : Type}

mutual

def containers : Json ν → Nat
  | .array items => containersOfItems items + 1
  | .object entries => containersOfEntries entries + 1
  | _ => 0

def containersOfItems : List (Json ν) → Nat
  | [] => 0
  | j :: rest => max (containers j) (containersOfItems rest)

def containersOfEntries : List (String × Json ν) → Nat
  | [] => 0
  | (_, j) :: rest => max (containers j) (containersOfEntries rest)

end

mutual

/-- Below the innermost container there is a scalar at most. -/
theorem depth_le_containers : ∀ j : Json ν, j.depth ≤ j.containers + 1
  | .null | .bool _ | .int _ | .number _ | .text _ => Nat.le_refl 1
  | .array items => by
    have h := depthOfItems_le_containers items
    rw [depth, containers]
    omega
  | .object entries => by
    have h := depthOfEntries_le_containers entries
    rw [depth, containers]
    omega

theorem depthOfItems_le_containers :
    ∀ items : List (Json ν), depthOfItems items ≤ containersOfItems items + 1
  | [] => Nat.zero_le 1
  | j :: rest => by
    have hj := depth_le_containers j
    have hr := depthOfItems_le_containers rest
    rw [depthOfItems, containersOfItems]
    omega

theorem depthOfEntries_le_containers :
    ∀ entries : List (String × Json ν), depthOfEntries entries ≤ containersOfEntries entries + 1
  | [] => Nat.zero_le 1
  | (_, j) :: rest => by
    have hj := depth_le_containers j
    have hr := depthOfEntries_le_containers rest
    rw [depthOfEntries, containersOfEntries]
    omega

end

theorem depth_le_nestingLimit {j : Json ν} (h : j.containers ≤ 254) : j.depth ≤ nestingLimit := by
  have hd := j.depth_le_containers
  rw [nestingLimit]
  omega

end Json

mutual

theorem Native.data {v : Value} {j : WireJson} : Native v j → Data v j
  | .none => .none
  | .bool b => .bool b
  | .int n => .int n
  | .float x copy h => .float x copy h
  | .text t => .text t
  | .list a h => .list a h.data
  | .mapping a h hn => .mapping a false h.data hn

theorem NativeItems.data {vs : List Value} {js : List WireJson} :
    NativeItems vs js → DataItems vs js
  | .nil => .nil
  | .cons h hs => .cons h.data hs.data

theorem NativeEntries.data {es : List (Value × Value)} {fs : List (String × WireJson)} :
    NativeEntries es fs → DataEntries es fs
  | .nil => .nil
  | .cons key h hs => .cons key h.data hs.data

end

mutual

theorem Native.holdsReadOnly {v : Value} {j : WireJson} : Native v j → v.holdsReadOnly = false
  | .none | .bool _ | .int _ | .float _ _ _ | .text _ => rfl
  | .list _ h => h.itemsHoldReadOnly
  | .mapping _ h _ => h.entriesHoldReadOnly

theorem NativeItems.itemsHoldReadOnly {vs : List Value} {js : List WireJson} :
    NativeItems vs js → Value.itemsHoldReadOnly vs = false
  | .nil => rfl
  | .cons h hs => by
    rw [Value.itemsHoldReadOnly, h.holdsReadOnly, hs.itemsHoldReadOnly]
    rfl

theorem NativeEntries.entriesHoldReadOnly {es : List (Value × Value)}
    {fs : List (String × WireJson)} : NativeEntries es fs → Value.entriesHoldReadOnly es = false
  | .nil => rfl
  | .cons _ h hs => by
    rw [Value.entriesHoldReadOnly, h.holdsReadOnly, hs.entriesHoldReadOnly]
    rfl

end

namespace Native

variable {v : Value} {j : WireJson}

theorem hasLoop (h : Native v j) : v.hasLoop = false := h.data.hasLoop

theorem readOnce (inside read : List Address) (h : Native v j) :
    v.readOnce inside read = (v, read) := h.data.readOnce inside read

theorem takes (p : Pruning) (room : Nat) (h : Native v j) : v.takes p room = [] :=
  h.data.takes p room

/-- A native value is written as the tree that it is. -/
theorem wire (p : Pruning) (h : Native v j) {room : Nat} (hr : j.depth ≤ room) :
    v.wire p room = .ok j := by
  rw [h.data.wire p hr, h.holdsReadOnly]
  rfl

end Native

end CredentialWrite
