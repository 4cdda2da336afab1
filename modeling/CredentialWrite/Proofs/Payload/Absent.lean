import CredentialWrite.Proofs.Payload.Selected
import CredentialWrite.Proofs.Payload.WellFormed

/-!
# Fields that hold nothing

A payload is the dump of its request without the entries of fields that hold nothing. What an entry
of a dump stands for is told by the value that it was written from, not by what was written: a
mapping keeps its entries and a list its items, whatever they hold, and a field that holds
something is kept even if null was written of it.
-/

namespace CredentialWrite

def Record.lacks : Record → String → Bool
  | .credential c, key => c.fields.any fun field => field.1 = key && field.2.content? = none
  | _, _ => false

/-- No two fields of a credential have one name. -/
theorem Record.lacks_of_mem_fields {c : Credential} {field : String × Slot}
    (hf : field ∈ c.fields) :
    (Record.credential c).lacks field.1 = decide (field.2.content? = none) := by
  rw [lacks, Bool.eq_iff_iff, List.any_eq_true, decide_eq_true_iff]
  constructor
  · rintro ⟨other, ho, h⟩
    simp only [Bool.and_eq_true, decide_eq_true_iff] at h
    obtain rfl := List.inj_on_of_nodup_map c.nodup_fields ho hf h.1
    exact h.2
  · exact fun h => ⟨field, hf, by simp [h]⟩

namespace Json

variable {ν : Type}

/-- Entries that are images of others still are when one is put on both sides. -/
theorem put_map {entries : List (String × Json ν)} (hn : (entries.map Prod.fst).Nodup)
    (g : String → Json ν → Json ν) (key : String) (h : Json ν → Json ν) (x : Json ν) :
    put (entries.map fun f => (f.1, g f.1 f.2)) key (h x) =
      (put entries key x).map fun f => (f.1, if f.1 = key then h f.2 else g f.1 f.2) := by
  induction entries with
  | nil => simp [put]
  | cons f rest ih =>
    obtain ⟨k, y⟩ := f
    rw [List.map_cons, List.nodup_cons] at hn
    by_cases hk : k = key
    · have others : ∀ f ∈ rest, f.1 ≠ key := fun f hf hfk =>
        hn.1 (List.mem_map.mpr ⟨f, hf, hfk.trans hk.symm⟩)
      rw [List.map_cons, put, if_pos hk, put, if_pos hk, List.map_cons, if_pos hk]
      exact congrArg _ (List.map_congr_left fun f hf => by rw [if_neg (others f hf)])
    · rw [List.map_cons, put, if_neg hk, put, if_neg hk, List.map_cons, if_neg hk, ih hn.2]

end Json

namespace Value

def writes (entries : List (Value × Value)) (key : String) : Bool :=
  entries.any fun e => (keyText e.1).toOption = some key

mutual

/-- What is left of the wire form of a value when the entries of all fields that hold nothing are
taken out of it, at every depth. -/
def withoutAbsent : Value → WireJson → WireJson
  | sequence _ _ items, .array js => .array (itemsWithoutAbsent items js)
  | set _ items, .array js => .array (itemsWithoutAbsent items js)
  | iterator _ _ items, .array js => .array (itemsWithoutAbsent items js)
  | mapping _ _ entries, .object fs =>
    .object (fs.map fun f => (f.1, entryWithoutAbsent entries f.1 f.2))
  | record _ r, .object fs => .object (fs.filter fun f => !r.lacks f.1)
  | request _ ⟨_, _, _, _, _, value, _, _⟩, .object fs =>
    .object ((fs.filter fun f => !(f.1 = PayloadKey.value.text && value.isNone)).map fun f =>
      if f.1 = PayloadKey.value.text then (f.1, withoutAbsent value f.2) else f)
  | _, j => j
termination_by structural v => v

def itemsWithoutAbsent : List Value → List WireJson → List WireJson
  | v :: rest, j :: js => withoutAbsent v j :: itemsWithoutAbsent rest js
  | _, js => js
termination_by structural vs => vs

/-- The same for the value under a key, which is that of the last entry that is written there. -/
def entryWithoutAbsent : List (Value × Value) → String → WireJson → WireJson
  | [], _, j => j
  | (k, v) :: rest, key, j =>
    if (keyText k).toOption = some key && !writes rest key then withoutAbsent v j
    else entryWithoutAbsent rest key j
termination_by structural es => es

end

theorem writes_cons {k v : Value} {rest : List (Value × Value)} {written : String}
    (h : keyText k = .ok written) (key : String) :
    writes ((k, v) :: rest) key = (decide (written = key) || writes rest key) := by
  simp [writes, h, Except.toOption]

theorem entryWithoutAbsent_cons {k v : Value} {rest : List (Value × Value)} {written : String}
    (h : keyText k = .ok written) (key : String) (j : WireJson) :
    entryWithoutAbsent ((k, v) :: rest) key j =
      if written = key && !writes rest key then v.withoutAbsent j
      else entryWithoutAbsent rest key j := by
  simp [entryWithoutAbsent, h, Except.toOption]

theorem entryWithoutAbsent_of_not_writes {entries : List (Value × Value)} {key : String}
    (h : writes entries key = false) (j : WireJson) : entryWithoutAbsent entries key j = j := by
  induction entries with
  | nil => rfl
  | cons e rest ih =>
    obtain ⟨k, v⟩ := e
    rw [writes, List.any_cons, Bool.or_eq_false_iff] at h
    rw [entryWithoutAbsent, h.1, Bool.false_and, if_neg Bool.false_ne_true, ih h.2]

theorem recordWire_dropAbsent (r : Record) (a : Address) :
    recordWire .dropAbsent r = (record a r).withoutAbsent (recordWire .none r) := by
  cases r with
  | credential c =>
    have kept : c.fields.filter (fun field => Pruning.dropAbsent.keepsSlot field.2) =
        c.fields.filter fun field => !(Record.credential c).lacks field.1 :=
      List.filter_congr fun field hf => by
        rw [Record.lacks_of_mem_fields hf]
        simp [Pruning.keepsSlot, Pruning.dropAbsent]
    have all : c.fields.filter (fun field => Pruning.none.keepsSlot field.2) = c.fields :=
      List.filter_eq_self.mpr fun field _ => rfl
    rw [recordWire, recordWire, Pruning.keptFields, Pruning.keptFields, kept, all, withoutAbsent]
    simp only [List.map_map, List.filter_map, Function.comp_def]
  | _ => simp [recordWire, actorWire, permissionWire, withoutAbsent, Record.lacks]

section Requests

variable {r : WriteRequest CredentialName Permission Value} {x x' : Except DumpFault WireJson}
  {es es' : List (String × WireJson)}

theorem requestEntries_dropAbsent (a : Address)
    (hx : ∀ j j', x = .ok j → x' = .ok j' → j' = r.value.withoutAbsent j)
    (h : (PayloadKey.all.filter (Pruning.none.keepsKey (!r.value.isNone) r)).mapM
      (payloadEntry r x) = .ok es)
    (h' : (PayloadKey.all.filter (Pruning.dropAbsent.keepsKey (!r.value.isNone) r)).mapM
      (payloadEntry r x') = .ok es') :
    Json.object es' = (request a r).withoutAbsent (.object es) := by
  obtain ⟨j, hj, rfl⟩ := WriteRequest.exists_of_mapM_payloadEntry h
  obtain ⟨j', hj', rfl⟩ := WriteRequest.exists_of_mapM_payloadEntry h'
  have kept : PayloadKey.all.filter (Pruning.dropAbsent.keepsKey (!r.value.isNone) r) =
      (PayloadKey.all.filter (Pruning.none.keepsKey (!r.value.isNone) r)).filter fun key =>
        !((r.entry j key).1 = PayloadKey.value.text && r.value.isNone) := by
    rw [List.filter_filter]
    refine List.filter_congr fun key _ => ?_
    cases key <;> simp [Pruning.keepsKey, Pruning.none, Pruning.dropAbsent, PayloadKey.text]
  have entries : ∀ key ∈ PayloadKey.all.filter (Pruning.dropAbsent.keepsKey (!r.value.isNone) r),
      r.entry j' key = if (r.entry j key).1 = PayloadKey.value.text then
        ((r.entry j key).1, r.value.withoutAbsent (r.entry j key).2) else r.entry j key := by
    intro key hk
    cases key with
    | value =>
      have hv : PayloadKey.value ∈
          PayloadKey.all.filter (Pruning.none.keepsKey (!r.value.isNone) r) := by
        simp [PayloadKey.all, Pruning.keepsKey, Pruning.none]
      rw [if_pos (r.entry_key j .value), WriteRequest.entry, WriteRequest.entry,
        hx j j' (hj hv) (hj' hk)]
    | _ =>
      rw [if_neg (by simp [PayloadKey.text])]
      rfl
  obtain ⟨declared, overwrite, og, name, kind, value, permissions, pg⟩ := r
  rw [withoutAbsent, List.map_congr_left entries, kept]
  simp only [List.filter_map, List.map_map, Function.comp_def]

end Requests

mutual

theorem wire_dropAbsent : ∀ (v : Value) {room : Nat} {full pruned : WireJson},
    wire .none room v = .ok full → wire .dropAbsent room v = .ok pruned →
      pruned = v.withoutAbsent full
  | loop _ _, room, full, pruned, h, _ => by simp [wire] at h
  | scalar s, room, full, pruned, h, h' => by
    obtain ⟨n, rfl⟩ := exists_room h
    obtain rfl := Except.ok.inj (h'.symm.trans h)
    simp [withoutAbsent]
  | buffer a content, room, full, pruned, h, h' => by
    obtain ⟨n, rfl⟩ := exists_room h
    obtain rfl := Except.ok.inj (h'.symm.trans h)
    simp [withoutAbsent]
  | object a c, room, full, pruned, h, h' => by
    obtain ⟨n, rfl⟩ := exists_room h
    cases h
  | record a r, room, full, pruned, h, h' => by
    obtain ⟨n, rfl⟩ := exists_room h
    cases h
    cases h'
    exact recordWire_dropAbsent r a
  | sequence _ _ items, room, full, pruned, h, h' | set _ items, room, full, pruned, h, h'
  | iterator _ _ items, room, full, pruned, h, h' => by
    obtain ⟨n, rfl⟩ := exists_room h
    rw [wire] at h h'
    obtain ⟨js, hi, h⟩ := exists_of_bind_eq_ok h
    obtain ⟨js', hi', h'⟩ := exists_of_bind_eq_ok h'
    cases h
    cases h'
    rw [withoutAbsent, wireItems_dropAbsent items hi hi']
  | mapping _ _ entries, room, full, pruned, h, h' => by
    obtain ⟨n, rfl⟩ := exists_room h
    obtain ⟨fs, rfl, he⟩ := exists_entries_of_wire h
    obtain ⟨fs', rfl, he'⟩ := exists_entries_of_wire h'
    have hp := wireEntries_dropAbsent entries (g := fun _ j => j) (by simp) he he'
    rw [withoutAbsent, hp]
    refine congrArg Json.object (List.map_congr_left fun f _ => ?_)
    split
    · rfl
    · next hw => rw [entryWithoutAbsent_of_not_writes (Bool.eq_false_iff.mpr hw)]
  | request a ⟨_, _, _, _, _, value, _, _⟩, room, full, pruned, h, h' => by
    obtain ⟨n, rfl⟩ := exists_room h
    have hx : ∀ j j', wire .none n value = .ok j → wire .dropAbsent n value = .ok j' →
        j' = value.withoutAbsent j := fun j j' => wire_dropAbsent value
    obtain ⟨es, rfl, he⟩ := exists_entries_of_wire_request h
    obtain ⟨es', rfl, he'⟩ := exists_entries_of_wire_request h'
    exact requestEntries_dropAbsent a hx he he'

theorem wireItems_dropAbsent : ∀ (vs : List Value) {room : Nat} {full pruned : List WireJson},
    wireItems .none room vs = .ok full → wireItems .dropAbsent room vs = .ok pruned →
      pruned = itemsWithoutAbsent vs full
  | [], room, full, pruned, h, h' => by
    cases h
    cases h'
    rfl
  | v :: rest, room, full, pruned, h, h' => by
    rw [wireItems] at h h'
    obtain ⟨j, hv, h⟩ := exists_of_bind_eq_ok h
    obtain ⟨js, hr, h⟩ := exists_of_bind_eq_ok h
    obtain ⟨j', hv', h'⟩ := exists_of_bind_eq_ok h'
    obtain ⟨js', hr', h'⟩ := exists_of_bind_eq_ok h'
    cases h
    cases h'
    rw [itemsWithoutAbsent, wire_dropAbsent v hv hv', wireItems_dropAbsent rest hr hr']

/-- What stands under a key was written from the last entry there, or before all of them. -/
theorem wireEntries_dropAbsent : ∀ (es : List (Value × Value)) {room : Nat}
    {g : String → WireJson → WireJson} {written full pruned : List (String × WireJson)},
    (written.map Prod.fst).Nodup → wireEntries .none room written es = .ok full →
    wireEntries .dropAbsent room (written.map fun f => (f.1, g f.1 f.2)) es = .ok pruned →
      pruned = full.map fun f =>
        (f.1, if writes es f.1 then entryWithoutAbsent es f.1 f.2 else g f.1 f.2)
  | [], room, g, written, full, pruned, _, h, h' => by
    cases h
    cases h'
    rfl
  | (k, v) :: rest, room, g, written, full, pruned, hn, h, h' => by
    rw [wireEntries] at h h'
    obtain ⟨key, hk, h⟩ := exists_of_bind_eq_ok h
    obtain ⟨j, hv, h⟩ := exists_of_bind_eq_ok h
    obtain ⟨key', hk', h'⟩ := exists_of_bind_eq_ok h'
    obtain ⟨j', hv', h'⟩ := exists_of_bind_eq_ok h'
    obtain rfl := Except.ok.inj (hk.symm.trans hk')
    obtain rfl := wire_dropAbsent v hv hv'
    rw [Json.put_map hn g key v.withoutAbsent j] at h'
    -- What was under the key before is gone, so the rest starts with the new entry in its place.
    have hp := wireEntries_dropAbsent rest
      (g := fun k x => if k = key then v.withoutAbsent x else g k x)
      (Json.nodup_keys_put hn key j) h h'
    rw [hp]
    refine List.map_congr_left fun f _ => ?_
    rw [writes_cons hk, entryWithoutAbsent_cons hk]
    grind

end

end Value

namespace WriteRequest

variable {r : WriteRequest CredentialName Permission Value} {es : List (String × WireJson)}
  {payload : WireJson}

theorem payload_eq_withoutAbsent (a : Address) (h : r.wireDump .none .everything = .ok es)
    (h' : r.payload = .ok payload) : payload = (Value.request a r).withoutAbsent (.object es) := by
  obtain ⟨es', rfl, he', -⟩ := exists_of_payload h'
  exact Value.requestEntries_dropAbsent a (fun _ _ => Value.wire_dropAbsent r.value)
    (mapM_of_wireDump h).1 he'

end WriteRequest

namespace Store

variable {s t : Store} {r : Ref} {q : StoredRequest} {listed : Address}

/-- The payload of a request is its dump without the entries that come from a field of a record or
of a request that holds nothing, at every depth, and with everything else. -/
theorem payload_is_dump_without_absent {payload : WireJson} {d : Draft}
    (hr : s.cellOf? r = some (.request q listed)) (hp : (s.payloadOf q).1 = .ok payload)
    (hd : s.dumpOf? ⟨.wire, .none, .everything⟩ r = some (.ok d, t)) :
    ∃ full, d = .ofWire full ∧ payload = (s.readRecord r).withoutAbsent full := by
  obtain ⟨es, he, rfl⟩ := exists_of_dumpOf?_wire hr hd
  obtain ⟨a, rfl, -⟩ := exists_of_cellOf? hr
  refine ⟨_, rfl, ?_⟩
  rw [readRecord_of_request hr]
  exact WriteRequest.payload_eq_withoutAbsent a he hp

open RequestBuilder in
/-- A request for a mapping that holds nothing under one key, a user without a name under another,
and under a third a list of nothing, a number that is none, and a request without a value. -/
def hollowRequest : StoredRequest :=
  ⟨.any, false, false, ⟨0, plainName⟩, .json, .address 5, [], false⟩

open RequestBuilder in
def hollowStore : Store :=
  ⟨#[.name plainName, .credential (.user ⟨.absent, "p", by decide⟩), .sequence .tuple [],
    .request ⟨.any, true, true, ⟨0, plainName⟩, .value, .none, [], false⟩ 2,
    .sequence .list [.none, .scalar (.float .nan 0), .address 3],
    .mapping false [(.text "key", .none), (.text "user", .address 1), (.text "list", .address 4)],
    .request hollowRequest 2]⟩

theorem payload_of_hollow_values : ∃ (d : Draft) (t : Store) (full payload : WireJson),
    hollowStore.cellOf? (.address 6) = some (.request hollowRequest 2) ∧
    (hollowStore.payloadOf hollowRequest).1 = .ok payload ∧
    hollowStore.dumpOf? ⟨.wire, .none, .everything⟩ (.address 6) = some (.ok d, t) ∧
    d = .ofWire full ∧ payload = (hollowStore.readRecord (.address 6)).withoutAbsent full ∧
    payload = .object [("overwrite", .bool false), ("name", .text "/a"),
      ("value", .object [("key", .null), ("user", .object [("password", .text "p")]),
        ("list", .array [.null, .null, .object [("overwrite", .bool true), ("name", .text "/a"),
          ("type", .text "value")]])]),
      ("type", .text "json")] := by
  obtain ⟨d, t, hd⟩ : ∃ d t, hollowStore.dumpOf? ⟨.wire, .none, .everything⟩ (.address 6) =
    some (.ok d, t) := ⟨_, _, rfl⟩
  have hr : hollowStore.cellOf? (.address 6) = some (.request hollowRequest 2) := rfl
  obtain ⟨full, he, hw⟩ := payload_is_dump_without_absent hr rfl hd
  exact ⟨d, t, full, _, hr, rfl, hd, he, hw, rfl⟩

end Store

end CredentialWrite
