import CredentialWrite.Proofs.Payload.Absent
import CredentialWrite.Proofs.Payload.Keys
import CredentialWrite.Proofs.Payload.Schema

/-!
# Merged entries

A mapping has as many entries in a payload as its keys have texts, wherever it stands in the value,
and what stands in an entry that is not the last one under its text is not in the payload at all. So
nothing is lost exactly when no mapping in the value, at any depth, has two keys of one text; keys
that are all texts are of this kind.
-/

namespace CredentialWrite

/-- From a container to what stands in it: by position, or by the text of a key. -/
inductive Step where
  | item (n : Nat)
  | entry (key : String)

namespace Json

variable {ν : Type}

def part? : Json ν → Step → Option (Json ν)
  | .array items, .item n => items[n]?
  | .object entries, .entry key => member? key (.object entries)
  | _, _ => none

def follow? (j : Json ν) (path : List Step) : Option (Json ν) := path.foldlM part? j

end Json

namespace Value

variable {p : Pruning} {room : Nat}

def part? : Value → Step → Option Value
  | sequence _ _ items, .item n => items[n]?
  | set _ items, .item n => items[n]?
  | iterator _ _ items, .item n => items[n]?
  | mapping _ _ entries, .entry key => lastUnder? key entries
  | request _ r, .entry key => if key = PayloadKey.value.text ∧ r.value.isNone = false then
      some r.value else none
  | _, _ => none

def follow? (v : Value) (path : List Step) : Option Value := path.foldlM part? v

/-- What stands in a value, without the keys of mappings. -/
def children : Value → List Value
  | sequence _ _ items | set _ items | iterator _ _ items => items
  | mapping _ _ entries => entries.map Prod.snd
  | request _ r => [r.value]
  | _ => []

inductive Within (x : Value) : Value → Prop
  | self : Within x x
  | child {v w : Value} (hv : v ∈ w.children) (hx : Within x v) : Within x w

/-- No two keys of a mapping have one text, and the same holds of all mappings in it. -/
def KeysApart (x : Value) : Prop :=
  ∀ a readOnly entries, Within (.mapping a readOnly entries) x → (writtenKeys entries).Nodup

theorem KeysApart.child {x v : Value} (h : x.KeysApart) (hv : v ∈ x.children) : v.KeysApart :=
  fun a readOnly entries hm => h a readOnly entries (.child hv hm)

/-- The keys of every mapping in a value are texts, none of them twice. -/
def HasTextKeys (x : Value) : Prop :=
  ∀ a readOnly entries, Within (.mapping a readOnly entries) x →
    (entries.map Prod.fst).Nodup ∧ ∀ e ∈ entries, ∃ t, e.1 = .scalar (.text t)

theorem HasTextKeys.keysApart {x : Value} (h : x.HasTextKeys) : x.KeysApart := by
  intro a readOnly entries hm
  obtain ⟨hn, texts⟩ := h a readOnly entries hm
  exact nodup_writtenKeys hn texts

theorem getElem?_wireItems {vs : List Value} {js : List WireJson}
    (h : wireItems p room vs = .ok js) {n : Nat} {x : Value} (hx : vs[n]? = some x) :
    ∃ k, js[n]? = some k ∧ x.wire p room = .ok k := by
  induction vs generalizing js n with
  | nil => cases hx
  | cons v rest ih =>
    rw [wireItems] at h
    obtain ⟨j, hv, h⟩ := exists_of_bind_eq_ok h
    obtain ⟨js', hr, h⟩ := exists_of_bind_eq_ok h
    cases h
    cases n with
    | zero =>
      obtain rfl := Option.some.inj hx
      exact ⟨j, rfl, hv⟩
    | succ n => exact ih hr hx

theorem member?_of_mapM_payloadEntry {r : WriteRequest CredentialName Permission Value}
    (hv : r.value.isNone = false) {x : Except DumpFault WireJson} {es : List (String × WireJson)}
    (h : (PayloadKey.all.filter (p.keepsKey (!r.value.isNone) r)).mapM
      (payloadEntry r x) = .ok es) :
    ∃ w, x = .ok w ∧ Json.member? PayloadKey.value.text (.object es) = some w := by
  obtain ⟨w, hw, rfl⟩ := WriteRequest.exists_of_mapM_payloadEntry h
  have kept : PayloadKey.value ∈ PayloadKey.all.filter (p.keepsKey (!r.value.isNone) r) := by
    simp [PayloadKey.all, Pruning.keepsKey, hv]
  refine ⟨w, hw kept, ?_⟩
  generalize PayloadKey.all.filter (p.keepsKey (!r.value.isNone) r) = keys at kept
  induction keys with
  | nil => cases kept
  | cons key rest ih =>
    rw [List.map_cons, Json.member?_cons, WriteRequest.entry_key]
    cases key with
    | value => exact if_pos rfl
    | _ =>
      rw [if_neg (by decide)]
      exact ih (by simpa using kept)

/-- What is found in a value that is written is written where it is found. -/
theorem wire_part {v x : Value} {j : WireJson} {step : Step} (h : v.wire p room = .ok j)
    (hx : v.part? step = some x) : ∃ k m, j.part? step = some k ∧ x.wire p m = .ok k := by
  obtain ⟨n, rfl⟩ := exists_room h
  cases v with
  | sequence a shape items | set a items | iterator a source items =>
    cases step with
    | entry key => cases hx
    | item i =>
      rw [wire] at h
      obtain ⟨js, hi, h⟩ := exists_of_bind_eq_ok h
      cases h
      obtain ⟨k, hk, hw⟩ := getElem?_wireItems hi hx
      exact ⟨k, n, hk, hw⟩
  | mapping a readOnly entries =>
    cases step with
    | item i => cases hx
    | entry key =>
      obtain ⟨fs, rfl, he⟩ := exists_entries_of_wire h
      have last := member?_wireEntries he key
      rw [show lastUnder? key entries = some x from hx] at last
      obtain ⟨k, hk, hw⟩ := last
      exact ⟨k, n, hk, hw⟩
  | request a r =>
    cases step with
    | item i => cases hx
    | entry key =>
      rw [part?] at hx
      split at hx
      · next hr =>
        cases hx
        obtain ⟨es, rfl, he⟩ := exists_entries_of_wire_request h
        obtain ⟨k, hw, hk⟩ := member?_of_mapM_payloadEntry hr.2 he
        exact ⟨k, n, hr.1 ▸ hk, hw⟩
      · cases hx
  | _ => cases hx

theorem wire_follow {path : List Step} {v x : Value} {j : WireJson} (h : v.wire p room = .ok j)
    (hx : v.follow? path = some x) : ∃ k m, j.follow? path = some k ∧ x.wire p m = .ok k := by
  induction path generalizing v j room with
  | nil =>
    obtain rfl := Option.some.inj hx
    exact ⟨j, room, rfl, h⟩
  | cons step rest ih =>
    rw [follow?, List.foldlM_cons] at hx
    obtain ⟨w, hw, hx⟩ := Option.bind_eq_some_iff.mp hx
    obtain ⟨k, m, hk, hm⟩ := wire_part h hw
    obtain ⟨l, n, hl, hn⟩ := ih hm hx
    refine ⟨l, n, ?_, hn⟩
    rw [Json.follow?, List.foldlM_cons, hk]
    exact hl

/-- Where a mapping stands, one entry is written for each text of its keys. -/
theorem length_of_follow {path : List Step} {v : Value} {j : WireJson} (h : v.wire p room = .ok j)
    {a : Address} {readOnly : Bool} {entries : List (Value × Value)}
    (hx : v.follow? path = some (.mapping a readOnly entries)) :
    ∃ fs, j.follow? path = some (.object fs) ∧ fs.length = (writtenKeys entries).toFinset.card ∧
      (fs.length = entries.length ↔ (writtenKeys entries).Nodup) := by
  obtain ⟨k, m, hk, hm⟩ := wire_follow h hx
  obtain ⟨n, rfl⟩ := exists_room hm
  obtain ⟨fs, rfl, he⟩ := exists_entries_of_wire hm
  exact ⟨fs, hk, length_of_wireEntries he, length_eq_iff_of_wireEntries he⟩

theorem exists_part_of_mem_children {v x : Value} {j : WireJson} (h : v.wire p room = .ok j)
    (apart : v.KeysApart) (hx : x ∈ v.children) (hn : x.isNone = false) :
    ∃ step, v.part? step = some x := by
  obtain ⟨n, rfl⟩ := exists_room h
  cases v with
  | sequence a shape items | set a items | iterator a source items =>
    obtain ⟨i, hi⟩ := List.mem_iff_getElem?.mp hx
    exact ⟨.item i, hi⟩
  | mapping a readOnly entries =>
    obtain ⟨e, he, rfl⟩ := List.mem_map.mp hx
    obtain ⟨fs, -, hw⟩ := exists_entries_of_wire h
    obtain ⟨key, hk⟩ := exists_lastUnder?_of_nodup (exists_keyText_of_wireEntries hw)
      (apart a readOnly entries .self) he
    exact ⟨.entry key, hk⟩
  | request a r =>
    obtain rfl := List.mem_singleton.mp hx
    exact ⟨.entry PayloadKey.value.text, if_pos ⟨rfl, hn⟩⟩
  | _ => cases hx

/-- Where all keys are apart, everything in a value is found at some path. -/
theorem exists_path_of_within {v x : Value} {j : WireJson} (h : v.wire p room = .ok j)
    (apart : v.KeysApart) (hx : Within x v) (hn : x.isNone = false) :
    ∃ path, v.follow? path = some x := by
  induction hx generalizing j room with
  | self => exact ⟨[], rfl⟩
  | @child w v hw hx ih =>
    -- Nothing stands in a value that is nothing.
    have some : w.isNone = false := by
      cases hx with
      | self => exact hn
      | child hy _ => cases w <;> first | rfl | cases hy
    obtain ⟨step, hs⟩ := exists_part_of_mem_children h apart hw some
    obtain ⟨k, m, -, hm⟩ := wire_part h hs
    obtain ⟨path, hp⟩ := ih hm (apart.child hw)
    refine ⟨step :: path, ?_⟩
    rw [follow?, List.foldlM_cons, hs]
    exact hp

end Value

namespace RequestBuilder

open Value

/-- A mapping stands in a value at a place where an object with as many entries stands in the
payload. -/
def EntriesKept (x : Value) (j : WireJson) (a : Address) (readOnly : Bool)
    (entries : List (Value × Value)) : Prop :=
  ∃ path fs, x.follow? path = some (.mapping a readOnly entries) ∧
    j.follow? (.entry "value" :: path) = some (.object fs) ∧ fs.length = entries.length

section

variable {es : List Event} {s t : Store} {r : Held StoredRequest} {j : WireJson}

/-- What is found in the value of a payload is found in what is written of the value. -/
theorem exists_wire_follow (h : Built .json es s r) (hj : s.payloadOf r.content = (.ok j, t)) :
    ∃ w, (s.readRequest r.content).value.wire .dropAbsent nestingLimit = .ok w ∧
      ∀ path, j.follow? (.entry "value" :: path) = w.follow? path := by
  obtain ⟨w, hw, rfl⟩ := WriteRequest.exists_wire_of_payload h.sound.shaped.isNone
    (congrArg Prod.fst hj)
  refine ⟨w, hw, fun path => ?_⟩
  rw [Json.follow?, List.foldlM_cons, Json.part?, WriteRequest.member?_payloadEntries]
  rfl

theorem entriesKept_of_keysApart (h : Built .json es s r)
    (hj : s.payloadOf r.content = (.ok j, t))
    (apart : (s.readRequest r.content).value.KeysApart) {a : Address} {readOnly : Bool}
    {entries : List (Value × Value)}
    (hm : Within (.mapping a readOnly entries) (s.readRequest r.content).value) :
    EntriesKept (s.readRequest r.content).value j a readOnly entries := by
  obtain ⟨w, hw, value⟩ := exists_wire_follow h hj
  obtain ⟨path, hx⟩ := exists_path_of_within hw apart hm rfl
  obtain ⟨fs, hf, -, nodup⟩ := length_of_follow hw hx
  exact ⟨path, fs, hx, (value path).trans hf, nodup.mpr (apart a readOnly entries hm)⟩

/-- Where all keys are texts, every mapping in the value of a request keeps its entries. -/
theorem entriesKept_of_hasTextKeys (h : Built .json es s r)
    (hj : s.payloadOf r.content = (.ok j, t))
    (texts : (s.readRequest r.content).value.HasTextKeys) {a : Address} {readOnly : Bool}
    {entries : List (Value × Value)}
    (hm : Within (.mapping a readOnly entries) (s.readRequest r.content).value) :
    EntriesKept (s.readRequest r.content).value j a readOnly entries :=
  entriesKept_of_keysApart h hj texts.keysApart hm

end

/-- Where a mapping stands in the value of a request with a payload, an object stands in the payload
that has one entry for each text of its keys, so all its entries if no two keys have one text. And
nothing is lost anywhere exactly when no mapping in the value has two keys of one text. -/
theorem entries_kept_iff_keys_apart {es : List Event} {s t : Store} {r : Held StoredRequest}
    (h : Built .json es s r) {j : WireJson} (hj : s.payloadOf r.content = (.ok j, t)) :
    let x := (s.readRequest r.content).value
    (∀ path a readOnly entries, x.follow? path = some (.mapping a readOnly entries) →
      ∃ fs, j.follow? (.entry "value" :: path) = some (.object fs) ∧
        fs.length = (writtenKeys entries).toFinset.card ∧
        (fs.length = entries.length ↔ (writtenKeys entries).Nodup)) ∧
    ((∀ a readOnly entries, Within (.mapping a readOnly entries) x →
      EntriesKept x j a readOnly entries) ↔ x.KeysApart) := by
  intro x
  obtain ⟨w, hw, value⟩ := exists_wire_follow h hj
  have places (path : List Step) (a : Address) (readOnly : Bool) (entries : List (Value × Value))
      (hx : x.follow? path = some (.mapping a readOnly entries)) := length_of_follow hw hx
  simp only [← value] at places
  refine ⟨places, fun kept a readOnly entries hm => ?_,
    fun apart a readOnly entries hm => entriesKept_of_keysApart h hj apart hm⟩
  obtain ⟨path, fs, hx, hf, all⟩ := kept a readOnly entries hm
  obtain ⟨gs, hg, -, nodup⟩ := places path a readOnly entries hx
  obtain rfl : fs = gs := Json.object.inj (Option.some.inj (hf.symm.trans hg))
  exact nodup.mp all

/-- A name, and a mapping to a mapping from a number and the text of it. -/
def mergingStore : Store :=
  ⟨#[.name plainName, .mapping false [(.text "key", .address 2)],
    .mapping false [(.scalar (.int 1), .text "a"), (.text "1", .text "b")]]⟩

def mergingCalls (value : Address) : List Call := [.name (.address 0), .value (.address value)]

theorem entry_of_inner_mapping_lost :
    let run := (new .json).play mergingStore (mergingCalls 1)
    let after := run.2.1.perform run.2.2 .build
    ∃ r j fs, after.result = .ok (some r) ∧
      after.store.payloadOf r.content = (.ok j, after.store) ∧
      j.follow? [.entry "value", .entry "key"] = some (.object fs) ∧ fs.length = 1 ∧
      ¬ (after.store.readRequest r.content).value.KeysApart := by
  have hb : Built .json _ _ ⟨5, _⟩ :=
    ⟨_, _, history_play .json mergingStore (mergingCalls 1), rfl, .refl _⟩
  obtain ⟨places, -⟩ := entries_kept_iff_keys_apart hb rfl
  obtain ⟨fs, hf, length, -⟩ := places [.entry "key"] 2 false
    [(.scalar (.int 1), .scalar (.text "a")), (.scalar (.text "1"), .scalar (.text "b"))] rfl
  refine ⟨_, _, fs, rfl, rfl, hf, length.trans (by decide), fun apart => ?_⟩
  exact absurd (apart 2 false _ (.child List.mem_cons_self .self)) (by decide)

/-- The mapping is the value itself: of its two entries one is written. -/
theorem entry_of_value_lost :
    let run := (new .json).play mergingStore (mergingCalls 2)
    let after := run.2.1.perform run.2.2 .build
    ∃ es r j, Built .json es after.store r ∧ after.result = .ok (some r) ∧
      (after.store.readRequest r.content).value = .mapping 2 false
        [(.scalar (.int 1), .scalar (.text "a")), (.scalar (.text "1"), .scalar (.text "b"))] ∧
      after.store.payloadOf r.content = (.ok j, after.store) ∧
      Json.member? "value" j = some (.object [("1", .text "b")]) := by
  have hb : Built .json _ _ ⟨5, _⟩ :=
    ⟨_, _, history_play .json mergingStore (mergingCalls 2), rfl, .refl _⟩
  exact ⟨_, _, _, hb, rfl, rfl, rfl, rfl⟩

end RequestBuilder

end CredentialWrite
