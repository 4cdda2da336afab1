import CredentialWrite.Payload.Reading
import CredentialWrite.Proofs.Outcome
import CredentialWrite.Proofs.Request.History
import CredentialWrite.Proofs.Store.Viewing

/-!
# Entries that are asked for

Which entries of a request its dump has depends on what the request holds, on the options and on
the names that are asked for or asked away; what an entry holds depends on none of these names. So
a dump of some entries is a part of the dump of all, in the same order.
-/

namespace CredentialWrite

theorem Selection.allows_iff {s : Selection} {key : String} : s.allows key = true ↔
    (∀ names ∈ s.included, key ∈ names) ∧ ∀ names ∈ s.excluded, key ∉ names := by
  obtain ⟨included, excluded⟩ := s
  cases included <;> cases excluded <;> simp [allows]

/-- Whether the options leave an entry of a request in its dump when it is not asked away. -/
def Pruning.Leaves (p : Pruning) (q : StoredRequest) : PayloadKey → Prop
  | .name | .kind => True
  | .overwrite => ¬ (p.unset ∧ q.overwriteGiven = false) ∧ ¬ (p.defaults ∧ q.overwrite = false)
  | .value => ¬ (p.absent ∧ q.value = .none)
  | .permissions => q.permissions ≠ [] ∧ ¬ (p.unset ∧ q.permissionsGiven = false) ∧
      ¬ (p.defaults ∧ q.permissions = [])

theorem Ref.isNone_iff {r : Ref} : r.isNone = true ↔ r = .none := by
  cases r with
  | address a => simp [isNone, none]
  | scalar x => cases x <;> simp [isNone, none]

theorem Pruning.keepsKey_iff {p : Pruning} {q : StoredRequest} {key : PayloadKey} :
    p.keepsKey (!q.value.isNone) q key = true ↔ p.Leaves q key := by
  cases key with
  | value =>
    have h := Ref.isNone_iff (r := q.value)
    cases hv : q.value.isNone <;> simp_all [keepsKey, Leaves]
  | overwrite =>
    simp only [keepsKey, Leaves, Bool.and_eq_true, Bool.not_eq_true']
    grind
  | permissions =>
    simp only [keepsKey, Leaves, Bool.and_eq_true, Bool.not_eq_true', List.isEmpty_eq_false_iff]
    grind
  | _ => simp [keepsKey, Leaves]

namespace Value

theorem isNone_readOnce (inside read : List Address) (v : Value) :
    (v.readOnce inside read).1.isNone = v.isNone := by
  cases v with
  | iterator a source rest =>
    rw [readOnce]
    split
    · rfl
    · split <;> rfl
  | request a r =>
    obtain ⟨declared, overwrite, og, name, kind, value, permissions, pg⟩ := r
    rw [readOnce]
    split <;> rfl
  | _ => rfl

end Value

namespace Draft

theorem ofWireEntries_eq_map (es : List (String × WireJson)) :
    ofWireEntries es = es.map fun e => (.text e.1, .ofWire e.2) := by
  induction es with
  | nil => rfl
  | cons e rest ih => rw [ofWireEntries, ih, List.map_cons]

end Draft

namespace Store

variable {s t : Store} {r : Ref} {q : StoredRequest} {listed : Address} {o : DumpOptions}
  {d : Draft}

theorem isNone_view (s : Store) (r : Ref) : (s.view r).isNone = r.isNone := by
  obtain ⟨n, hn⟩ := s.exists_depthBound_eq
  rw [view, hn]
  cases r with
  | scalar x => cases x <;> rfl
  | address a =>
    simp only [viewBelow]
    repeat' split
    all_goals rfl

def dumpEntry (s : Store) (mode : DumpMode) (p : Pruning) (q : StoredRequest) (key : PayloadKey) :
    Except DumpFault (Draft × Draft) :=
  match mode with
  | .wire =>
    (Value.payloadEntry (s.readRequest q) ((s.readRequest q).value.wire p nestingLimit) key).map
      fun e => (.text e.1, .ofWire e.2)
  | .plain =>
    copiedEntry q (copyTwice (fun room => s.copyBelow p nestingLimit room []) nestingLimit q.value)
      key

theorem dumpEntry_key {mode : DumpMode} {p : Pruning} {key : PayloadKey} {e : Draft × Draft}
    (h : s.dumpEntry mode p q key = .ok e) : e.1 = .text key.text := by
  cases mode with
  | wire =>
    obtain ⟨entry, he, rfl⟩ := exists_of_map_eq_ok h
    cases key with
    | value =>
      obtain ⟨j, -, he⟩ := exists_of_bind_eq_ok he
      cases he
      rfl
    | _ =>
      cases he
      rfl
  | plain =>
    cases key with
    | value =>
      obtain ⟨x, -, h⟩ := exists_of_bind_eq_ok h
      cases h
      rfl
    | _ =>
      cases h
      rfl

def keptKeys (o : DumpOptions) (q : StoredRequest) : List PayloadKey :=
  PayloadKey.all.filter fun key =>
    o.pruning.keepsKey (!q.value.isNone) q key && o.selection.allows key.text

theorem keepsKey_readRequest (s : Store) (p : Pruning) (q : StoredRequest) (key : PayloadKey) :
    p.keepsKey (!(s.readRequest q).value.isNone) (s.readRequest q) key =
      p.keepsKey (!q.value.isNone) q key := by
  have hv : (s.readRequest q).value.isNone = q.value.isNone :=
    (Value.isNone_readOnce [] [] (s.view q.value)).trans (s.isNone_view q.value)
  rw [hv]
  cases key with
  | permissions => simp [Pruning.keepsKey, readRequest, viewRequest, WriteRequest.map]
  | _ => rfl

theorem readRecord_of_request {a : Address}
    (hr : s.cellOf? (.address a) = some (.request q listed)) :
    s.readRecord (.address a) = .request a (s.readRequest q) := by
  simp only [readRecord, hr]

/-- A dump in wire form is that of the request as it is read. -/
theorem exists_of_dumpOf?_wire {p : Pruning} {selection : Selection}
    (hr : s.cellOf? r = some (.request q listed))
    (hd : s.dumpOf? ⟨.wire, p, selection⟩ r = some (.ok d, t)) :
    ∃ es, (s.readRequest q).wireDump p selection = .ok es ∧ d = .ofWire (.object es) := by
  obtain ⟨a, rfl, ha⟩ := exists_of_cellOf? hr
  simp only [dumpOf?, readRecord_of_request hr, Value.wireEntriesOf?, Option.map_some,
    Option.some.injEq, Prod.mk.injEq] at hd
  obtain ⟨es, he, rfl⟩ := exists_of_map_eq_ok hd.1
  exact ⟨es, he, rfl⟩

/-- A dump of a request has the entries of the keys that it keeps. -/
theorem dumpOf?_eq_some (hr : s.cellOf? r = some (.request q listed))
    (hd : s.dumpOf? o r = some (.ok d, t)) : ∃ es, d = .mapping es ∧
      List.Forall₂ (fun key e => s.dumpEntry o.mode o.pruning q key = .ok e) (keptKeys o q) es := by
  obtain ⟨mode, pruning, selection⟩ := o
  cases mode with
  | wire =>
    obtain ⟨entries, he, rfl⟩ := exists_of_dumpOf?_wire hr hd
    obtain ⟨entries', he, fits⟩ := exists_of_bind_eq_ok he
    split at fits
    · cases fits
      refine ⟨_, congrArg Draft.mapping (Draft.ofWireEntries_eq_map entries), ?_⟩
      simp only [keepsKey_readRequest] at he
      rw [List.forall₂_map_right_iff]
      exact (forall₂_of_mapM_eq_ok he).imp fun key e h => by rw [dumpEntry, h]; rfl
    · cases fits
  | plain =>
    simp only [dumpOf?, copiedEntriesOf?, hr, Option.map_some, Option.some.injEq,
      Prod.mk.injEq] at hd
    obtain ⟨entries, he, rfl⟩ := exists_of_map_eq_ok hd.1
    exact ⟨entries, rfl, forall₂_of_mapM_eq_ok he⟩

/-- Placing a mapping makes an object with its keys. -/
theorem placeEntries_keys (s : Store) {es : List (Draft × Draft)} {names : List String}
    (h : es.map Prod.fst = names.map Draft.text) :
    (s.placeEntries es).1.map Prod.fst = names.map Ref.text := by
  induction es generalizing s names with
  | nil =>
    obtain rfl := List.map_eq_nil_iff.mp h.symm
    rfl
  | cons e rest ih =>
    cases names with
    | nil => cases h
    | cons name names =>
      obtain ⟨key, x⟩ := e
      obtain ⟨rfl, hrest⟩ := List.cons.inj h
      exact congrArg (Ref.text name :: ·) (ih _ hrest)

theorem mem_keptKeys {key : PayloadKey} : key ∈ keptKeys o q ↔
    ((∀ names ∈ o.selection.included, key.text ∈ names) ∧
      ∀ names ∈ o.selection.excluded, key.text ∉ names) ∧ o.pruning.Leaves q key := by
  have all : key ∈ PayloadKey.all := by cases key <;> decide
  rw [keptKeys, List.mem_filter, Bool.and_eq_true, Pruning.keepsKey_iff, Selection.allows_iff]
  exact ⟨fun h => ⟨h.2.2, h.2.1⟩, fun h => ⟨all, h.2, h.1⟩⟩

/-- Without names to ask for or away all keys are kept that are kept with some. -/
theorem keptKeys_sublist (o : DumpOptions) (q : StoredRequest) :
    (keptKeys o q).Sublist (keptKeys { o with selection := .everything } q) := by
  have everything (key : String) : Selection.everything.allows key = true := rfl
  simp only [keptKeys, everything, Bool.and_true, ← List.filter_filter]
  rw [List.filter_comm]
  exact List.filter_sublist

/-- A dump of a request has exactly the entries that are asked for by name, not asked away, and
left by the options, in the order of a payload; and what stands there is what stands there when all
are asked for. -/
theorem dump_has_entries_asked_for (hr : s.cellOf? r = some (.request q listed))
    (hd : s.dumpOf? o r = some (.ok d, t)) :
    ∃ (keys : List PayloadKey) (es : List (Draft × Draft)), d = .mapping es ∧
      es.map Prod.fst = keys.map (fun key => .text key.text) ∧
      (∃ a rs, (t.place d).1 = .address a ∧ (t.place d).2.cell? a = some (.mapping false rs) ∧
        rs.map Prod.fst = keys.map fun key => .text key.text) ∧
      (keys.map PayloadKey.text).Sublist
        ["overwrite", "name", "value", "type", "additional_permissions"] ∧
      (∀ name ∈ keys.map PayloadKey.text, name ≠ "credential_name" ∧ name ≠ "value_type") ∧
      (∀ key, key ∈ keys ↔ ((∀ names ∈ o.selection.included, key.text ∈ names) ∧
        ∀ names ∈ o.selection.excluded, key.text ∉ names) ∧ o.pruning.Leaves q key) ∧
      ∀ d' t', s.dumpOf? { o with selection := .everything } r = some (.ok d', t') →
        ∃ es', d' = .mapping es' ∧ es.Sublist es' := by
  obtain ⟨es, rfl, entries⟩ := dumpOf?_eq_some hr hd
  have keys : es.map Prod.fst = (keptKeys o q).map fun key => .text key.text :=
    map_eq_map_of_forall₂ (entries.imp fun _ _ h => dumpEntry_key h)
  have texts : es.map Prod.fst = ((keptKeys o q).map PayloadKey.text).map Draft.text := by
    rw [keys, List.map_map]
    rfl
  refine ⟨keptKeys o q, es, rfl, keys, ⟨_, _, rfl, cell?_alloc_self _ _, ?_⟩,
    List.filter_sublist.map _, fun name hn => ?_, fun key => mem_keptKeys, fun d' t' hd' => ?_⟩
  · rw [t.placeEntries_keys texts, List.map_map]
    rfl
  · obtain ⟨key, -, rfl⟩ := List.mem_map.mp hn
    cases key <;> decide
  · obtain ⟨es', rfl, entries'⟩ := dumpOf?_eq_some hr hd'
    exact ⟨es', rfl, sublist_of_forall₂ (keptKeys_sublist o q) entries entries'⟩

open RequestBuilder in
/-- A request for JSON that grants a permission. Whether it overwrites was not said. -/
def silentRequest : StoredRequest :=
  ⟨.any, false, false, ⟨0, plainName⟩, .json, .address 1, [⟨3, readPermission⟩], true⟩

open RequestBuilder in
def silentStore : Store :=
  ⟨#[.name plainName, .mapping false [(.text "k", .none)], .actor readPermission.actor,
    .permission readPermission 2 4, .sequence .tuple [.scalar (.member (.operation .read))],
    .sequence .tuple [.address 3], .request silentRequest 5]⟩

/-- Three entries are asked for, of which one was never given, a field that no dump has is asked
for too, and an entry is asked away. -/
def someEntries : DumpOptions where
  mode := .plain
  pruning := ⟨true, false, true⟩
  selection := ⟨some ["credential_name", "overwrite", "value", "additional_permissions"],
    some ["type"]⟩

theorem dump_of_value_and_permissions :
    ∃ (d d' : Draft) (t : Store) (keys : List PayloadKey) (es es' : List (Draft × Draft)),
      silentStore.cellOf? (.address 6) = some (.request silentRequest 5) ∧
      silentStore.dumpOf? someEntries (.address 6) = some (.ok d, t) ∧ d = .mapping es ∧
      es.map Prod.fst = keys.map (fun key => .text key.text) ∧
      (∀ key, key ∈ keys ↔ key = .value ∨ key = .permissions) ∧
      silentStore.dumpOf? { someEntries with selection := .everything } (.address 6) =
        some (.ok d', t) ∧ d' = .mapping es' ∧ es.Sublist es' := by
  have hr : silentStore.cellOf? (.address 6) = some (.request silentRequest 5) := rfl
  obtain ⟨d, t, hd⟩ : ∃ d t, silentStore.dumpOf? someEntries (.address 6) = some (.ok d, t) :=
    ⟨_, _, rfl⟩
  obtain ⟨d', hd'⟩ : ∃ d', silentStore.dumpOf? { someEntries with selection := .everything }
      (.address 6) = some (.ok d', t) := by
    cases hd
    exact ⟨_, rfl⟩
  obtain ⟨keys, es, he, hkeys, -, -, -, kept, full⟩ := dump_has_entries_asked_for hr hd
  obtain ⟨es', he', part⟩ := full d' t hd'
  refine ⟨d, d', t, keys, es, es', hr, hd, he, hkeys, fun key => (kept key).trans ?_, hd', he',
    part⟩
  cases key <;> simp [someEntries, PayloadKey.text, Pruning.Leaves, silentRequest, Ref.none]

end Store

end CredentialWrite
