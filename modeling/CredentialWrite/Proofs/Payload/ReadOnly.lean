import CredentialWrite.Proofs.Payload.Faithful

/-!
# Read-only mappings

A builder takes mappings of both classes, but only those of one can be written. So a request for
data has a payload when no read-only mapping stands in the data, neither as the value itself nor
deep inside, and then the keys of the mapping are written in their order. Where a read-only mapping
stands there is no payload, and the request tells its class.
-/

namespace CredentialWrite.RequestBuilder

variable {es : List Event} {s : Store} {r : Held StoredRequest} {j : WireJson}

/-- A payload of data is written unless a read-only mapping stands in it. -/
theorem Sound.payloadOf_data (h : Sound .json es s r) (hd : Data (s.view r.content.value) j)
    (hj : j.depth ≤ nestingLimit) : s.payloadOf r.content =
      (writtenUnless (s.view r.content.value).holdsReadOnly
        (.object ((s.viewRequest r.content).payloadEntries j)), s) := by
  have hv : (s.viewRequest r.content).value = s.view r.content.value := rfl
  rw [Store.payloadOf_of_still (hd.readOnce [] []) (hd.takes .dropAbsent nestingLimit),
    WriteRequest.payload_eq (by rw [hv]; exact h.value.view.isNone), hv, hd.wire .dropAbsent hj]
  cases (s.view r.content.value).holdsReadOnly with
  | true => rfl
  | false =>
    simp only [writtenUnless, Bool.false_eq_true, if_false, if_pos hj]

/-- A request that was built for data, in no more containers than may be written, has a payload
exactly when no read-only mapping stands in the data. The value in the payload is then an object
with the keys of the mapping in their order; otherwise the fault names the class that cannot be
written. Either way nothing in the store changes. -/
theorem payload_of_data_iff_no_read_only (h : Built .json es s r)
    (hd : Data (s.view r.content.value) j) (hc : j.containers ≤ 254) :
    ∃ a readOnly entries fs, s.view r.content.value = .mapping a readOnly entries ∧
      j = .object fs ∧ entries.map Prod.fst = fs.map (fun f => .scalar (.text f.1)) ∧
      ((s.view r.content.value).holdsReadOnly = false →
        ∃ payload, s.payloadOf r.content = (.ok payload, s) ∧
          Json.member? "value" payload = some (.object fs)) ∧
      ((s.view r.content.value).holdsReadOnly = true →
        s.payloadOf r.content = (.error (.unknownType "mappingproxy"), s)) := by
  have payload := h.sound.payloadOf_data hd (Json.depth_le_nestingLimit hc)
  have shaped := h.sound.value.view
  generalize hx : s.view r.content.value = x at hd payload shaped
  cases shaped with
  | json a readOnly entries =>
    cases hd with
    | mapping _ _ hes hn =>
      refine ⟨a, readOnly, entries, _, rfl, rfl, hes.keys, fun none => ?_, fun some => ?_⟩
      · rw [none] at payload
        exact ⟨_, payload, WriteRequest.member?_payloadEntries _ _⟩
      · rw [some] at payload
        exact payload

/-- A name, and a mapping to a list of a number that is not finite and of a mapping of a given
class. -/
def dataStore (readOnly : Bool) : Store :=
  ⟨#[.name plainName,
    .mapping false [(.text "b", .address 2), (.text "a", .bool true)],
    .sequence .list [.scalar (.float .nan 0), .address 3],
    .mapping readOnly [(.text "k", .scalar (.int 1))]]⟩

def dataCalls : List Call := [.name (.address 0), .value (.address 1)]

def dataWire : WireJson :=
  .object [("b", .array [.null, .object [("k", .int 1)]]), ("a", .bool true)]

theorem data_dataStore (readOnly : Bool) : Data (.mapping 1 false
    [(.scalar (.text "b"), .sequence 2 .list [.scalar (.float .nan 0),
        .mapping 3 readOnly [(.scalar (.text "k"), .scalar (.int 1))]]),
      (.scalar (.text "a"), .scalar (.bool true))]) dataWire := by
  have inner : Data (.mapping 3 readOnly [(.scalar (.text "k"), .scalar (.int 1))])
      (.object [("k", .int 1)]) := .mapping 3 readOnly (.cons "k" (.int 1) .nil) (by simp)
  have items : DataItems [.scalar (.float .nan 0), _] [.null, _] :=
    .cons (.notFinite .nan 0 rfl) (.cons inner .nil)
  exact .mapping 1 false (.cons "b" (.list 2 items) (.cons "a" (.bool true) .nil)) (by simp)

theorem payload_of_data_without_read_only :
    let run := (new .json).play (dataStore false) dataCalls
    let after := run.2.1.perform run.2.2 .build
    ∃ r payload, after.result = .ok (some r) ∧
      after.store.payloadOf r.content = (.ok payload, after.store) ∧
      Json.member? "value" payload = some dataWire := by
  have hb : Built .json _ _ ⟨6, _⟩ :=
    ⟨_, _, history_play .json (dataStore false) dataCalls, rfl, .refl _⟩
  obtain ⟨a, readOnly, entries, fs, -, wire, -, written, -⟩ :=
    payload_of_data_iff_no_read_only hb (data_dataStore false) (by decide)
  obtain ⟨payload, hp, value⟩ := written rfl
  exact ⟨_, payload, rfl, hp, wire ▸ value⟩

/-- A mapping is accepted with a read-only one inside, and the payload cannot be written. -/
theorem no_payload_of_read_only_inside :
    let run := (new .json).play (dataStore true) dataCalls
    let after := run.2.1.perform run.2.2 .build
    ((new .json).perform (dataStore true) (.value (.address 1))).result = .ok none ∧
    ∃ es r, Built .json es after.store r ∧ after.result = .ok (some r) ∧
      Data (after.store.view r.content.value) dataWire ∧ dataWire.containers ≤ 254 ∧
      after.store.payloadOf r.content =
        (.error (.unknownType "mappingproxy"), after.store) := by
  have hb : Built .json _ _ ⟨6, _⟩ :=
    ⟨_, _, history_play .json (dataStore true) dataCalls, rfl, .refl _⟩
  have hd := data_dataStore true
  exact ⟨rfl, _, _, hb, rfl, hd, by decide, hb.sound.payloadOf_data hd (by decide)⟩

end CredentialWrite.RequestBuilder
