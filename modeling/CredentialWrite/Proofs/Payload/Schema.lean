import CredentialWrite.Payload.Reading
import CredentialWrite.Proofs.Payload.Entries
import CredentialWrite.Proofs.Request.Built
import CredentialWrite.Proofs.Store.Viewing

/-!
# The shape of payloads

What the data service accepts: the entries of a payload in their order, the value in the shape of
its kind, and permissions that name an actor and at least one operation. Every payload of a
request that was built has this shape, and lists as many permissions as were granted.
-/

namespace CredentialWrite

structure TextsUnder (names : List String) (entries : List (String × WireJson)) : Prop where
  keys : (entries.map Prod.fst).Sublist names
  texts : ∀ entry ∈ entries, ∃ t, entry.2 = .text t

def HasText (entries : List (String × WireJson)) (name : String) : Prop :=
  ∃ t, t ≠ "" ∧ (name, .text t) ∈ entries

def HasShape : CredentialKind → WireJson → Prop
  | .value, .text _ => True
  | .password, .text t => t ≠ ""
  | .json, .object _ => True
  | .user, .object entries =>
    TextsUnder ["username", "password"] entries ∧ HasText entries "password"
  | .certificate, .object entries =>
    TextsUnder ["certificate", "ca", "private_key", "ca_name"] entries ∧
      (HasText entries "certificate" ∨ HasText entries "ca")
  | .rsa, .object entries | .ssh, .object entries =>
    TextsUnder ["public_key", "private_key"] entries ∧
      (HasText entries "public_key" ∨ HasText entries "private_key")
  | _, _ => False

def ListsPermission (j : WireJson) : Prop :=
  ∃ (kind : ActorKind) (id : String) (operations : List Operation), id ≠ "" ∧ operations ≠ [] ∧
    j = .object [("actor", .text (kind.wire ++ ":" ++ id)),
      ("operations", .array (operations.map fun o => .text o.wire))]

/-- A payload for a credential of a kind that grants a number of permissions. -/
def Conforms (kind : CredentialKind) (count : Nat) (j : WireJson) : Prop :=
  ∃ (overwrite : Bool) (name : String) (value : WireJson) (listed : List WireJson),
    name ≠ "" ∧ HasShape kind value ∧ listed.length = count ∧
      (∀ permission ∈ listed, ListsPermission permission) ∧
      j = .object ([("overwrite", .bool overwrite), ("name", .text name), ("value", value),
        ("type", .text kind.wire)] ++
          if count = 0 then [] else [("additional_permissions", .array listed)])

theorem textsUnder_presentFields (fields : List (String × Slot)) :
    TextsUnder (fields.map Prod.fst) (presentFields fields) := by
  constructor
  · induction fields with
    | nil => exact List.Sublist.slnil
    | cons field rest ih =>
      obtain ⟨name, slot⟩ := field
      rw [presentFields] at ih ⊢
      cases hs : slot.content? with
      | none => simpa [hs] using ih.cons name
      | some t => simpa [hs] using ih
  · intro entry he
    exact exists_text_of_mem_presentFields he

theorem hasText_presentFields {fields : List (String × Slot)} {name : String} {slot : Slot}
    (hf : (name, slot) ∈ fields) (hs : slot.isFilled = true) :
    HasText (presentFields fields) name := by
  cases slot with
  | text t =>
    refine ⟨t, by simpa [Slot.isFilled] using hs, ?_⟩
    exact List.mem_filterMap.mpr ⟨_, hf, rfl⟩
  | _ => simp [Slot.isFilled] at hs

theorem texts_keyPair (c : KeyPair) :
    TextsUnder ["public_key", "private_key"] (presentFields (Credential.keyPair c).fields) ∧
      (HasText (presentFields (Credential.keyPair c).fields) "public_key" ∨
        HasText (presentFields (Credential.keyPair c).fields) "private_key") := by
  refine ⟨textsUnder_presentFields (Credential.keyPair c).fields, ?_⟩
  rcases Bool.or_eq_true_iff.mp c.isPresent with hc | hc
  · exact .inl (hasText_presentFields List.mem_cons_self hc)
  · exact .inr (hasText_presentFields (List.mem_cons_of_mem _ List.mem_cons_self) hc)

theorem listsPermission_permissionWire (p : Permission) :
    ListsPermission (Value.permissionWire p) :=
  ⟨p.actor.kind, p.actor.id, p.operations, p.actor.id_ne_empty, p.operations_ne_nil, rfl⟩

inductive Shaped : CredentialKind → Value → Prop
  | value (t : String) : Shaped .value (.scalar (.text t))
  | password (t : String) (h : t ≠ "") : Shaped .password (.scalar (.text t))
  | json (a : Address) (readOnly : Bool) (entries : List (Value × Value)) :
      Shaped .json (.mapping a readOnly entries)
  | user (a : Address) (c : UserCredential) : Shaped .user (.record a (.credential (.user c)))
  | certificate (a : Address) (c : CertificateCredential) :
      Shaped .certificate (.record a (.credential (.certificate c)))
  | rsa (a : Address) (c : KeyPair) (h : c.scheme = .rsa) :
      Shaped .rsa (.record a (.credential (.keyPair c)))
  | ssh (a : Address) (c : KeyPair) (h : c.scheme = .ssh) :
      Shaped .ssh (.record a (.credential (.keyPair c)))

namespace Shaped

variable {kind : CredentialKind} {x : Value}

theorem isNone (h : Shaped kind x) : x.isNone = false := by cases h <;> rfl

theorem readOnce (h : Shaped kind x) (inside read : List Address) :
    Shaped kind (x.readOnce inside read).1 := by
  cases h with
  | value t => exact .value t
  | password t h => exact .password t h
  | json a readOnly entries => exact .json a readOnly _
  | user a c => exact .user a c
  | certificate a c => exact .certificate a c
  | rsa a c h => exact .rsa a c h
  | ssh a c h => exact .ssh a c h

theorem wire (h : Shaped kind x) {room : Nat} {w : WireJson}
    (hw : x.wire .dropAbsent (room + 1) = .ok w) : HasShape kind w := by
  cases h with
  | value t =>
    cases hw
    trivial
  | password t h =>
    cases hw
    exact h
  | json a readOnly entries =>
    cases readOnly with
    | true => cases hw
    | false =>
      simp only [Value.wire] at hw
      cases he : Value.wireEntries .dropAbsent room [] entries with
      | error e => simp [he, bind, Except.bind] at hw
      | ok written =>
        rw [he] at hw
        cases hw
        trivial
  | user a c =>
    cases hw
    rw [recordWire_credential]
    have hp : Slot.isFilled (.text c.password) = true := by
      simpa [Slot.isFilled] using c.password_ne_empty
    exact ⟨textsUnder_presentFields (Credential.user c).fields,
      hasText_presentFields (List.mem_cons_of_mem _ List.mem_cons_self) hp⟩
  | certificate a c =>
    cases hw
    rw [recordWire_credential]
    refine ⟨textsUnder_presentFields (Credential.certificate c).fields, ?_⟩
    rcases Bool.or_eq_true_iff.mp c.isPresent with hc | hc
    · exact .inl (hasText_presentFields List.mem_cons_self hc)
    · exact .inr (hasText_presentFields (List.mem_cons_of_mem _ List.mem_cons_self) hc)
  | rsa a c h =>
    cases hw
    rw [recordWire_credential]
    exact texts_keyPair c
  | ssh a c h =>
    cases hw
    rw [recordWire_credential]
    exact texts_keyPair c

end Shaped

theorem Fits.view {s : Store} {kind : CredentialKind} {v : Ref} (h : Fits s kind v) :
    Shaped kind (s.view v) := by
  obtain ⟨n, hn⟩ := s.exists_depthBound_eq
  unfold Store.view
  rw [hn]
  cases h with
  | value t => exact .value t
  | password t h => exact .password t h
  | json h =>
    simp only [Store.viewBelow, h, List.contains_nil]
    exact .json _ _ _
  | user h =>
    simp only [Store.viewBelow, h]
    exact .user _ _
  | certificate h =>
    simp only [Store.viewBelow, h]
    exact .certificate _ _
  | rsa h hs =>
    simp only [Store.viewBelow, h]
    exact .rsa _ _ hs
  | ssh h hs =>
    simp only [Store.viewBelow, h]
    exact .ssh _ _ hs

namespace RequestBuilder

variable {kind : CredentialKind} {es : List Event} {s : Store} {r : Held StoredRequest}

theorem Sound.shaped (h : Sound kind es s r) : Shaped kind (s.readRequest r.content).value :=
  h.value.view.readOnce [] []

/-- Whatever is done with a builder and, after that, with the value, a payload of the request
conforms to the schema of its kind and lists all permissions that were granted. -/
theorem payload_conforms (h : Built kind es s r) {j : WireJson} {t : Store}
    (hj : s.payloadOf r.content = (.ok j, t)) : Conforms kind (granted es).length j := by
  have hs := h.sound
  have hp : (s.readRequest r.content).payload = .ok j := congrArg Prod.fst hj
  rw [WriteRequest.payload_eq hs.shaped.isNone] at hp
  cases hw : (s.readRequest r.content).value.wire .dropAbsent nestingLimit with
  | error e => simp [hw] at hp
  | ok w =>
    simp only [hw] at hp
    split at hp
    · cases hp
      refine ⟨r.content.overwrite, r.content.name.content.path, w,
        r.content.permissions.map fun p => Value.permissionWire p.content,
        r.content.name.content.path_ne_empty, hs.shaped.wire hw, ?_, ?_, ?_⟩
      · rw [List.length_map, hs.permissions]
      · intro permission hm
        obtain ⟨p, -, rfl⟩ := List.mem_map.mp hm
        exact listsPermission_permissionWire p.content
      · simp [WriteRequest.payloadEntries, Store.readRequest, Store.viewRequest, WriteRequest.map,
          Function.comp_def, hs.kind, ← hs.permissions]
    · cases hp

def userStore : Store :=
  ⟨#[.name plainName, .credential (.user ⟨.absent, "secret", by decide⟩),
    .actor readPermission.actor, .sequence .tuple [.scalar (.member (.operation .read))],
    .permission readPermission 2 3]⟩

def userCalls : List Call :=
  [.value (.text "secret"), .value (.address 1), .name (.address 0), .permission (.address 4)]

theorem payload_of_user :
    let run := (new .user).play userStore userCalls
    let after := run.2.1.perform run.2.2 .build
    ∃ r j t, after.result = .ok (some r) ∧ after.store.payloadOf r.content = (.ok j, t) ∧
      j = .object [("overwrite", .bool false), ("name", .text "/a"),
        ("value", .object [("password", .text "secret")]), ("type", .text "user"),
        ("additional_permissions", .array [.object [("actor", .text "mtls-app:guid"),
          ("operations", .array [.text "read"])]])] ∧ Conforms .user 1 j := by
  have hb : Built .user _ _ ⟨7, _⟩ :=
    ⟨_, _, history_play .user userStore userCalls, rfl, .refl _⟩
  exact ⟨_, _, _, rfl, rfl, rfl, payload_conforms hb rfl⟩

end RequestBuilder

end CredentialWrite
