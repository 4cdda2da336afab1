import CredentialWrite.Payload.Wire
import CredentialWrite.Proofs.Outcome

/-!
# The entries of a payload

A request with a value has a payload of four entries in a fixed order, and of a fifth one for its
permissions if it has any. There is a payload exactly when there is a wire form of the value that
is not too deep: nothing else in a request can make it fail. A credential becomes an object of the
fields that hold a text.

What is written of a mapping or of a request inside of a value is an object of its entries.
-/

namespace CredentialWrite

theorem Json.depthOfItems_le {ν : Type} {js : List (Json ν)} {n : Nat}
    (h : ∀ j ∈ js, j.depth ≤ n) : depthOfItems js ≤ n := by
  induction js with
  | nil => exact Nat.zero_le n
  | cons j rest ih =>
    rw [depthOfItems]
    have hr := ih fun k hk => h k (List.mem_cons_of_mem j hk)
    exact Nat.max_le.mpr ⟨h j List.mem_cons_self, hr⟩

theorem Json.depthOfEntries_le {ν : Type} {es : List (String × Json ν)} {n : Nat}
    (h : ∀ e ∈ es, e.2.depth ≤ n) : depthOfEntries es ≤ n := by
  induction es with
  | nil => exact Nat.zero_le n
  | cons e rest ih =>
    rw [depthOfEntries]
    have hr := ih fun f hf => h f (List.mem_cons_of_mem e hf)
    exact Nat.max_le.mpr ⟨h e List.mem_cons_self, hr⟩

theorem Value.depth_permissionWire (p : Permission) : (permissionWire p).depth ≤ 3 := by
  have h : Json.depthOfItems (p.operations.map fun o => (Json.text o.wire : WireJson)) ≤ 1 := by
    apply Json.depthOfItems_le
    intro j hj
    obtain ⟨o, -, rfl⟩ := List.mem_map.mp hj
    exact Nat.le_refl 1
  simp only [permissionWire, Json.depth, Json.depthOfEntries]
  omega

theorem Credential.nodup_fields (c : Credential) : (c.fields.map Prod.fst).Nodup := by
  cases c <;> simp [fields]

def presentFields (fields : List (String × Slot)) : List (String × WireJson) :=
  fields.filterMap fun field => field.2.content?.map fun t => (field.1, .text t)

theorem recordWire_credential (c : Credential) :
    Value.recordWire .dropAbsent (.credential c) = .object (presentFields c.fields) := by
  rw [Value.recordWire, Pruning.keptFields]
  congr 1
  generalize c.fields = fields
  induction fields with
  | nil => rfl
  | cons field rest ih =>
    obtain ⟨name, slot⟩ := field
    rw [presentFields] at ih ⊢
    cases hs : slot.content? <;>
      simpa [Pruning.keepsSlot, Pruning.dropAbsent, hs, Value.textOrNull] using ih

theorem exists_text_of_mem_presentFields {fields : List (String × Slot)}
    {entry : String × WireJson} (h : entry ∈ presentFields fields) : ∃ t, entry.2 = .text t := by
  obtain ⟨field, -, hf⟩ := List.mem_filterMap.mp h
  obtain ⟨t, -, rfl⟩ := Option.map_eq_some_iff.mp hf
  exact ⟨t, rfl⟩

theorem depth_presentFields (fields : List (String × Slot)) :
    (Json.object (presentFields fields)).depth ≤ 2 := by
  have h : Json.depthOfEntries (presentFields fields) ≤ 1 := by
    apply Json.depthOfEntries_le
    intro entry he
    obtain ⟨t, ht⟩ := exists_text_of_mem_presentFields he
    rw [ht]
    exact Nat.le_refl 1
  rw [Json.depth]
  omega

namespace Value

variable {p : Pruning} {room : Nat}

theorem exists_room {v : Value} {j : WireJson} (h : v.wire p room = .ok j) :
    ∃ n, room = n + 1 := by
  cases room with
  | zero => cases v <;> simp [wire] at h
  | succ n => exact ⟨n, rfl⟩

theorem exists_entries_of_wire {a : Address} {readOnly : Bool} {entries : List (Value × Value)}
    {j : WireJson} (h : (mapping a readOnly entries).wire p (room + 1) = .ok j) :
    ∃ fs, j = .object fs ∧ wireEntries p room [] entries = .ok fs := by
  cases readOnly with
  | true => cases h
  | false =>
    rw [wire] at h
    obtain ⟨fs, he, h⟩ := exists_of_bind_eq_ok h
    cases h
    exact ⟨fs, rfl, he⟩

theorem exists_entries_of_wire_request {a : Address}
    {r : WriteRequest CredentialName Permission Value} {j : WireJson}
    (h : (request a r).wire p (room + 1) = .ok j) :
    ∃ es, j = .object es ∧ (PayloadKey.all.filter (p.keepsKey (!r.value.isNone) r)).mapM
      (payloadEntry r (r.value.wire p room)) = .ok es := by
  obtain ⟨declared, overwrite, og, name, kind, value, permissions, pg⟩ := r
  rw [wire] at h
  obtain ⟨es, he, h⟩ := exists_of_bind_eq_ok h
  split at h
  · cases h
    exact ⟨es, rfl, he⟩
  · cases h

end Value

namespace WriteRequest

def payloadKeys (r : WriteRequest CredentialName Permission Value) : List PayloadKey :=
  [.overwrite, .name, .value, .kind] ++ if r.permissions = [] then [] else [.permissions]

def payloadEntries (r : WriteRequest CredentialName Permission Value) (w : WireJson) :
    List (String × WireJson) :=
  [("overwrite", .bool r.overwrite), ("name", .text r.name.path), ("value", w),
    ("type", .text r.kind.wire)] ++
    if r.permissions = [] then []
    else [("additional_permissions", .array (r.permissions.map Value.permissionWire))]

theorem member?_payloadEntries (r : WriteRequest CredentialName Permission Value) (w : WireJson) :
    Json.member? "value" (.object (r.payloadEntries w)) = some w := by
  simp [payloadEntries, Json.member?]

variable {r : WriteRequest CredentialName Permission Value}

theorem filter_all_eq_payloadKeys (hv : r.value.isNone = false) :
    PayloadKey.all.filter (fun key => Pruning.dropAbsent.keepsKey (!r.value.isNone) r key &&
      Selection.everything.allows key.text) = r.payloadKeys := by
  by_cases hp : r.permissions = [] <;>
    simp [PayloadKey.all, Pruning.keepsKey, Pruning.dropAbsent, Selection.everything,
      Selection.allows, payloadKeys, hv, hp]

theorem mapM_payloadEntry (x : Except DumpFault WireJson) :
    r.payloadKeys.mapM (Value.payloadEntry r x) = x.map r.payloadEntries := by
  unfold payloadKeys payloadEntries
  split
  · cases x <;> rfl
  · cases x <;> rfl

def entry (r : WriteRequest CredentialName Permission Value) (w : WireJson) :
    PayloadKey → String × WireJson
  | .overwrite => ("overwrite", .bool r.overwrite)
  | .name => ("name", .text r.name.path)
  | .value => ("value", w)
  | .kind => ("type", .text r.kind.wire)
  | .permissions => ("additional_permissions", .array (r.permissions.map Value.permissionWire))

@[simp] theorem entry_key (r : WriteRequest CredentialName Permission Value) (w : WireJson)
    (key : PayloadKey) : (r.entry w key).1 = key.text := by
  cases key <;> rfl

/-- Entries are written when the value is, or when it is not among them. -/
theorem exists_of_mapM_payloadEntry {keys : List PayloadKey} {x : Except DumpFault WireJson}
    {es : List (String × WireJson)} (h : keys.mapM (Value.payloadEntry r x) = .ok es) :
    ∃ w, (.value ∈ keys → x = .ok w) ∧ es = keys.map (r.entry w) := by
  let w := match x with
    | .ok w => w
    | .error _ => .null
  have step {key : PayloadKey} {e : String × WireJson} (he : Value.payloadEntry r x key = .ok e) :
      (key = .value → x = .ok w) ∧ id e = r.entry w key := by
    cases key with
    | value =>
      obtain ⟨j, rfl, he⟩ := exists_of_bind_eq_ok he
      cases he
      exact ⟨fun _ => rfl, rfl⟩
    | _ =>
      cases he
      exact ⟨nofun, rfl⟩
  have steps := (forall₂_of_mapM_eq_ok h).imp fun key e he => step he
  obtain ⟨value, entries⟩ := (List.forall₂_and_left _ _).mp steps
  refine ⟨w, fun hk => value _ hk rfl, ?_⟩
  rw [← map_eq_map_of_forall₂ entries, List.map_id]

/-- A dump has the entries of the keys that are kept, and none of them is too deep. -/
theorem mapM_of_wireDump {p : Pruning} {es : List (String × WireJson)}
    (h : r.wireDump p .everything = .ok es) :
    (PayloadKey.all.filter (p.keepsKey (!r.value.isNone) r)).mapM
        (Value.payloadEntry r (r.value.wire p nestingLimit)) = .ok es ∧
      ∀ e ∈ es, e.2.depth ≤ nestingLimit := by
  have everything (key : String) : Selection.everything.allows key = true := rfl
  obtain ⟨entries, he, h⟩ := exists_of_bind_eq_ok h
  simp only [everything, Bool.and_true] at he
  split at h
  · next fits =>
    cases h
    exact ⟨he, fun e hm => of_decide_eq_true (List.all_eq_true.mp fits e hm)⟩
  · cases h

theorem exists_of_payload {payload : WireJson} (h : r.payload = .ok payload) :
    ∃ es, payload = .object es ∧
      (PayloadKey.all.filter (Pruning.dropAbsent.keepsKey (!r.value.isNone) r)).mapM
        (Value.payloadEntry r (r.value.wire .dropAbsent nestingLimit)) = .ok es ∧
      ∀ e ∈ es, e.2.depth ≤ nestingLimit := by
  obtain ⟨es, hd, h⟩ := exists_of_bind_eq_ok h
  cases h
  exact ⟨es, rfl, mapM_of_wireDump hd⟩

/-- Beside the value nothing in a payload is deep. -/
theorem payloadEntries_fit (w : WireJson) :
    ((r.payloadEntries w).all fun entry => entry.2.depth ≤ nestingLimit) =
      decide (w.depth ≤ nestingLimit) := by
  have hp : (Json.array (r.permissions.map Value.permissionWire)).depth ≤ nestingLimit := by
    have h : Json.depthOfItems (r.permissions.map Value.permissionWire) ≤ 3 := by
      apply Json.depthOfItems_le
      intro j hj
      obtain ⟨p, -, rfl⟩ := List.mem_map.mp hj
      exact Value.depth_permissionWire p
    rw [Json.depth, nestingLimit]
    omega
  have h1 : 1 ≤ nestingLimit := by decide
  have hb : ∀ b : Bool, (Json.bool b : WireJson).depth = 1 := fun _ => rfl
  have ht : ∀ t : String, (Json.text t : WireJson).depth = 1 := fun _ => rfl
  unfold payloadEntries
  split <;> simp [hb, ht, h1, hp]

theorem payload_eq (hv : r.value.isNone = false) :
    r.payload = match r.value.wire .dropAbsent nestingLimit with
      | .error e => .error e
      | .ok w => if w.depth ≤ nestingLimit then .ok (.object (r.payloadEntries w))
        else .error .resultTooDeep := by
  unfold payload wireDump
  simp only [filter_all_eq_payloadKeys hv, mapM_payloadEntry]
  cases r.value.wire .dropAbsent nestingLimit with
  | error e => rfl
  | ok w =>
    simp only [Except.map, bind, Except.bind, payloadEntries_fit]
    by_cases hw : w.depth ≤ nestingLimit
    · simp [hw, pure, Except.pure]
    · simp [hw, throw, throwThe, MonadExceptOf.throw]

theorem exists_wire_of_payload (hv : r.value.isNone = false) {j : WireJson}
    (h : r.payload = .ok j) :
    ∃ w, r.value.wire .dropAbsent nestingLimit = .ok w ∧ j = .object (r.payloadEntries w) := by
  rw [payload_eq hv] at h
  split at h
  · cases h
  · next w hw =>
    split at h
    · cases h
      exact ⟨w, hw, rfl⟩
    · cases h

end WriteRequest

end CredentialWrite
