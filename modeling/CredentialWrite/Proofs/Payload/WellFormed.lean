import CredentialWrite.Proofs.Json.RoundTrip
import CredentialWrite.Proofs.Payload.Entries
import Mathlib.Data.List.Nodup

/-!
# Well-formed wire forms

Whatever a value is, no object of its wire form names an entry twice, and all its numbers are
finite: entries under one text are merged, and numbers that are not finite become null. So is every
payload.
-/

namespace CredentialWrite

namespace Json

variable {ν : Type} {P : ν → Prop} {items : List (Json ν)} {entries : List (String × Json ν)}

theorem allNumbersOfItems_iff : AllNumbersOfItems P items ↔ ∀ j ∈ items, j.AllNumbers P := by
  induction items with
  | nil => simp [AllNumbersOfItems]
  | cons j rest ih => simp [AllNumbersOfItems, ih]

theorem allNumbersOfEntries_iff :
    AllNumbersOfEntries P entries ↔ ∀ e ∈ entries, e.2.AllNumbers P := by
  induction entries with
  | nil => simp [AllNumbersOfEntries]
  | cons e rest ih => simp [AllNumbersOfEntries, ih]

theorem itemsHaveUniqueKeys_iff : ItemsHaveUniqueKeys items ↔ ∀ j ∈ items, j.HasUniqueKeys := by
  induction items with
  | nil => simp [ItemsHaveUniqueKeys]
  | cons j rest ih => simp [ItemsHaveUniqueKeys, ih]

theorem entriesHaveUniqueKeys_iff :
    EntriesHaveUniqueKeys entries ↔ ∀ e ∈ entries, e.2.HasUniqueKeys := by
  induction entries with
  | nil => simp [EntriesHaveUniqueKeys]
  | cons e rest ih => simp [EntriesHaveUniqueKeys, ih]

/-- No object names an entry twice, and all numbers are finite. -/
structure WellFormed (j : WireJson) : Prop where
  keys : j.HasUniqueKeys
  numbers : j.AllNumbers fun x => x.isFinite = true

theorem wellFormed_text (s : String) : WellFormed (.text s) := ⟨trivial, trivial⟩

theorem wellFormed_array {items : List WireJson} (h : ∀ j ∈ items, WellFormed j) :
    WellFormed (.array items) where
  keys := itemsHaveUniqueKeys_iff.mpr fun j hj => (h j hj).keys
  numbers := allNumbersOfItems_iff.mpr fun j hj => (h j hj).numbers

structure WellFormedEntries (entries : List (String × WireJson)) : Prop where
  keys : (entries.map Prod.fst).Nodup
  values : ∀ e ∈ entries, WellFormed e.2

theorem WellFormedEntries.object {entries : List (String × WireJson)}
    (h : WellFormedEntries entries) : WellFormed (.object entries) where
  keys := ⟨h.keys, entriesHaveUniqueKeys_iff.mpr fun e he => (h.values e he).keys⟩
  numbers := allNumbersOfEntries_iff.mpr fun e he => (h.values e he).numbers

theorem WellFormed.member {entries : List (String × WireJson)} {key : String} {j : WireJson}
    (h : WellFormed (.object entries)) (hj : member? key (.object entries) = some j) :
    WellFormed j where
  keys := entriesHaveUniqueKeys_iff.mp h.keys.2 _ (mem_of_member? hj)
  numbers := allNumbersOfEntries_iff.mp h.numbers _ (mem_of_member? hj)

theorem mem_put {key : String} {value : Json ν} {e : String × Json ν}
    (h : e ∈ put entries key value) : e ∈ entries ∨ e.2 = value := by
  induction entries with
  | nil =>
    obtain rfl := List.mem_singleton.mp h
    exact .inr rfl
  | cons entry rest ih =>
    rw [put] at h
    split at h
    · rcases List.mem_cons.mp h with rfl | h
      · exact .inr rfl
      · exact .inl (List.mem_cons_of_mem entry h)
    · rcases List.mem_cons.mp h with rfl | h
      · exact .inl List.mem_cons_self
      · exact (ih h).imp (List.mem_cons_of_mem entry) id

theorem nodup_keys_put (h : (entries.map Prod.fst).Nodup) (key : String) (value : Json ν) :
    ((put entries key value).map Prod.fst).Nodup := by
  rw [keys_put]
  split
  · exact h
  · next hk => exact List.nodup_append.mpr ⟨h, List.nodup_singleton key, by grind⟩

theorem WellFormedEntries.put {entries : List (String × WireJson)} (h : WellFormedEntries entries)
    (key : String) {value : WireJson} (hv : WellFormed value) :
    WellFormedEntries (put entries key value) where
  keys := nodup_keys_put h.keys key value
  values e he := by
    rcases mem_put he with he | he
    · exact h.values e he
    · rw [he]
      exact hv

end Json

namespace Value

open Json

variable {p : Pruning} {r : WriteRequest CredentialName Permission Value}

theorem wellFormed_scalarWire {s : Scalar} {j : WireJson} (h : scalarWire s = .ok j) :
    WellFormed j := by
  cases s with
  | float x copy =>
    cases h
    cases hx : x.isFinite with
    | true => exact ⟨trivial, hx⟩
    | false => exact ⟨trivial, trivial⟩
  | octets content =>
    obtain ⟨t, -, h⟩ := exists_of_bind_eq_ok h
    cases h
    exact wellFormed_text t
  | _ =>
    cases h
    exact ⟨trivial, trivial⟩

theorem wellFormed_permissionWire (q : Permission) : WellFormed (permissionWire q) := by
  refine WellFormedEntries.object ⟨by simp, ?_⟩
  refine List.forall_mem_cons.mpr ⟨wellFormed_text _, List.forall_mem_singleton.mpr ?_⟩
  refine wellFormed_array fun j hj => ?_
  obtain ⟨o, -, rfl⟩ := List.mem_map.mp hj
  exact wellFormed_text o.wire

theorem wellFormed_recordWire (p : Pruning) (x : Record) : WellFormed (recordWire p x) := by
  cases x with
  | name n =>
    exact WellFormedEntries.object ⟨by simp, List.forall_mem_singleton.mpr (wellFormed_text n.path)⟩
  | actor a =>
    exact WellFormedEntries.object ⟨by simp, List.forall_mem_cons.mpr
      ⟨wellFormed_text a.kind.wire, List.forall_mem_singleton.mpr (wellFormed_text a.id)⟩⟩
  | permission q => exact wellFormed_permissionWire q
  | credential c =>
    refine WellFormedEntries.object ⟨?_, ?_⟩
    · have hs : (((p.keptFields c).map fun field => (field.1, textOrNull field.2)).map
          Prod.fst).Sublist (c.fields.map Prod.fst) := by
        simpa [Pruning.keptFields, Function.comp_def] using List.filter_sublist.map Prod.fst
      exact hs.nodup c.nodup_fields
    · intro e he
      obtain ⟨field, -, rfl⟩ := List.mem_map.mp he
      cases hf : field.2 with
      | none => exact ⟨trivial, trivial⟩
      | some t => exact wellFormed_text t

theorem wellFormed_payloadEntry {value : Except DumpFault WireJson}
    (hv : ∀ j, value = .ok j → WellFormed j) {key : PayloadKey} {e : String × WireJson}
    (h : payloadEntry r value key = .ok e) : e.1 = key.text ∧ WellFormed e.2 := by
  cases key with
  | value =>
    obtain ⟨j, hj, h⟩ := exists_of_bind_eq_ok h
    cases h
    exact ⟨rfl, hv j hj⟩
  | permissions =>
    cases h
    refine ⟨rfl, wellFormed_array fun j hj => ?_⟩
    obtain ⟨q, -, rfl⟩ := List.mem_map.mp hj
    exact wellFormed_permissionWire q
  | _ =>
    cases h
    exact ⟨rfl, trivial, trivial⟩

theorem wellFormed_payloadEntries {value : Except DumpFault WireJson}
    (hv : ∀ j, value = .ok j → WellFormed j) {keys : List PayloadKey} (hk : keys.Nodup)
    {entries : List (String × WireJson)} (h : keys.mapM (payloadEntry r value) = .ok entries) :
    WellFormedEntries entries := by
  have text_injective : ∀ k l : PayloadKey, k.text = l.text → k = l := by
    intro k l
    cases k <;> cases l <;> simp [PayloadKey.text]
  have parts : entries.map Prod.fst = keys.map PayloadKey.text ∧ ∀ e ∈ entries, WellFormed e.2 := by
    have each := forall₂_of_mapM_eq_ok h
    clear hk h
    induction each with
    | nil => exact ⟨rfl, by simp⟩
    | cons he _ ih =>
      obtain ⟨hkey, hw⟩ := wellFormed_payloadEntry hv he
      obtain ⟨hkeys, hws⟩ := ih
      exact ⟨by rw [List.map_cons, List.map_cons, hkey, hkeys], List.forall_mem_cons.mpr ⟨hw, hws⟩⟩
  refine ⟨?_, parts.2⟩
  rw [parts.1]
  exact hk.map_on fun k _ l _ hkl => text_injective k l hkl

theorem nodup_payloadKeys (f : PayloadKey → Bool) : (PayloadKey.all.filter f).Nodup :=
  List.Nodup.filter f (by decide)

mutual

theorem wellFormed_wire : ∀ (v : Value) {room : Nat} {j : WireJson},
    wire p room v = .ok j → WellFormed j
  | loop _ _, _, _, h => by simp [wire] at h
  | scalar s, room, j, h => by
    obtain ⟨n, rfl⟩ := exists_room h
    exact wellFormed_scalarWire h
  | buffer _ content, room, j, h => by
    obtain ⟨n, rfl⟩ := exists_room h
    rw [wire] at h
    obtain ⟨t, -, h⟩ := exists_of_bind_eq_ok h
    cases h
    exact wellFormed_text t
  | sequence _ _ items, room, j, h | set _ items, room, j, h | iterator _ _ items, room, j, h => by
    obtain ⟨n, rfl⟩ := exists_room h
    rw [wire] at h
    obtain ⟨js, hi, h⟩ := exists_of_bind_eq_ok h
    cases h
    exact wellFormed_array (wellFormed_wireItems items hi)
  | mapping _ _ entries, room, j, h => by
    obtain ⟨n, rfl⟩ := exists_room h
    obtain ⟨es, rfl, he⟩ := exists_entries_of_wire h
    exact (wellFormed_wireEntries entries ⟨by simp, by simp⟩ he).object
  | record _ x, room, j, h => by
    obtain ⟨n, rfl⟩ := exists_room h
    cases h
    exact wellFormed_recordWire p x
  | request _ ⟨_, _, _, _, _, value, _, _⟩, room, j, h => by
    obtain ⟨n, rfl⟩ := exists_room h
    have hv : ∀ j, wire p n value = .ok j → WellFormed j := fun j => wellFormed_wire value
    obtain ⟨es, rfl, he⟩ := exists_entries_of_wire_request h
    exact (wellFormed_payloadEntries hv (nodup_payloadKeys _) he).object
  | object _ _, room, j, h => by
    obtain ⟨n, rfl⟩ := exists_room h
    cases h

theorem wellFormed_wireItems : ∀ (vs : List Value) {room : Nat} {js : List WireJson},
    wireItems p room vs = .ok js → ∀ j ∈ js, WellFormed j
  | [], _, js, h => by
    cases h
    simp
  | v :: rest, room, js, h => by
    rw [wireItems] at h
    obtain ⟨j, hv, h⟩ := exists_of_bind_eq_ok h
    obtain ⟨js', hr, h⟩ := exists_of_bind_eq_ok h
    cases h
    exact List.forall_mem_cons.mpr ⟨wellFormed_wire v hv, wellFormed_wireItems rest hr⟩

theorem wellFormed_wireEntries : ∀ (es : List (Value × Value)) {room : Nat}
    {written fs : List (String × WireJson)}, WellFormedEntries written →
    wireEntries p room written es = .ok fs → WellFormedEntries fs
  | [], _, written, fs, hw, h => by
    cases h
    exact hw
  | (k, v) :: rest, room, written, fs, hw, h => by
    rw [wireEntries] at h
    obtain ⟨key, -, h⟩ := exists_of_bind_eq_ok h
    obtain ⟨j, hv, h⟩ := exists_of_bind_eq_ok h
    exact wellFormed_wireEntries rest (hw.put key (wellFormed_wire v hv)) h

end

end Value

namespace WriteRequest

open Json Value

theorem wellFormed_payload {r : WriteRequest CredentialName Permission Value} {j : WireJson}
    (h : r.payload = .ok j) : WellFormed j := by
  obtain ⟨es, rfl, he, -⟩ := exists_of_payload h
  exact (wellFormed_payloadEntries (fun j => wellFormed_wire r.value)
    (nodup_payloadKeys _) he).object

end WriteRequest

end CredentialWrite
