import CredentialWrite.Payload.Reading
import CredentialWrite.Proofs.Payload.Entries
import CredentialWrite.Proofs.Store.Viewing
import CredentialWrite.Proofs.Value.Hashing
import CredentialWrite.Session.Lookup
import CredentialWrite.Validation.Request

/-!
# Records that are made again from their dumps

What a dump of a name, an actor or a credential keeps is enough to make the record again, whatever
is pruned. A field is left out only where it holds nothing, and a field that is not given holds
nothing. What was left out and what was given as nothing may change places by this, but both hold
nothing: so what is made again is equal to what was dumped and has its hash.
-/

namespace CredentialWrite

namespace Slot

variable {s : Slot}

theorem isFilled_eq (s : Slot) : s.isFilled = s.content?.any (· ≠ "") := by
  cases s <;> rfl

def ofContent : Option String → Slot
  | some t => text t
  | none => absent

@[simp] theorem content?_ofContent (t : Option String) : (ofContent t).content? = t := by
  cases t <;> rfl

end Slot

def textOrNothing : Option String → Scalar
  | some t => .text t
  | none => .none

namespace Pruning

variable {p : Pruning} {s : Slot}

/-- What is left out holds nothing. -/
theorem content?_of_not_keepsSlot (h : p.keepsSlot s = false) : s.content? = Option.none := by
  cases s with
  | text t => simp [keepsSlot, Slot.content?, Slot.isGiven] at h
  | _ => rfl

def restored (p : Pruning) (s : Slot) : Slot :=
  if p.keepsSlot s then .ofContent s.content? else .leftOut

@[simp] theorem content?_restored (p : Pruning) (s : Slot) :
    (p.restored s).content? = s.content? := by
  unfold restored
  split
  · exact Slot.content?_ofContent _
  · next left => exact (content?_of_not_keepsSlot (Bool.eq_false_iff.mpr left)).symm

@[simp] theorem isFilled_restored (p : Pruning) (s : Slot) :
    (p.restored s).isFilled = s.isFilled := by
  rw [Slot.isFilled_eq, Slot.isFilled_eq, content?_restored]

end Pruning

section Restored

variable (p : Pruning)

def UserCredential.restored (c : UserCredential) : UserCredential :=
  { c with username := p.restored c.username }

def CertificateCredential.restored (c : CertificateCredential) : CertificateCredential where
  certificate := p.restored c.certificate
  ca := p.restored c.ca
  privateKey := p.restored c.privateKey
  caName := p.restored c.caName
  isPresent := by simpa using c.isPresent

def KeyPair.restored (c : KeyPair) : KeyPair where
  scheme := c.scheme
  publicKey := p.restored c.publicKey
  privateKey := p.restored c.privateKey
  isPresent := by simpa using c.isPresent

/-- A credential after it was dumped and made again. -/
def Credential.restored : Credential → Credential
  | .user c => .user (c.restored p)
  | .certificate c => .certificate (c.restored p)
  | .keyPair c => .keyPair (c.restored p)

theorem Credential.same_restored (c : Credential) : c.same (c.restored p) = true := by
  cases c <;> simp [restored, same, UserCredential.restored, CertificateCredential.restored,
    KeyPair.restored]

end Restored

namespace Record

def restored (p : Pruning) : Record → Record
  | .credential c => .credential (c.restored p)
  | x => x

theorem same_restored (p : Pruning) (x : Record) : x.same (x.restored p) = true := by
  cases x <;> simp [restored, same, Credential.same_restored]

def told (mode : DumpMode) (p : Pruning) : Record → List (String × Scalar)
  | .name n => [("name", .text n.path)]
  | .actor a => [("type", match mode with
      | .wire => .text a.kind.wire
      | .plain => .member (.actorKind a.kind)), ("id", .text a.id)]
  | .credential c => (p.keptFields c).map fun field => (field.1, textOrNothing field.2)
  | .permission _ => []

/-- The objects that are records without parts of their own. -/
inductive Stands : Record → Cell → Prop
  | name (n : CredentialName) : Stands (.name n) (.name n)
  | actor (a : Actor) : Stands (.actor a) (.actor a)
  | credential (c : Credential) : Stands (.credential c) (.credential c)

end Record

def Cell.maker? : Cell → Option RecordClass
  | .name n => some (.name n.scheme)
  | .actor _ => some .actor
  | .credential (.user _) => some .user
  | .credential (.certificate _) => some .certificate
  | .credential (.keyPair c) => some (.keyPair c.scheme)
  | _ => none

theorem Record.exists_stands {c : Cell} {k : RecordClass} (h : c.maker? = some k) :
    ∃ x : Record, x.Stands c := by
  cases c with
  | name n => exact ⟨_, .name n⟩
  | actor a => exact ⟨_, .actor a⟩
  | credential c => exact ⟨_, .credential c⟩
  | _ => cases h

def Draft.ofFields (fields : List (String × Scalar)) : Draft :=
  .mapping (fields.map fun f => (.text f.1, .scalar f.2))

theorem textOrNone_eq (t : Option String) : textOrNone t = .scalar (textOrNothing t) := by
  cases t <;> rfl

theorem Draft.ofWireEntries_texts (fields : List (String × Option String)) :
    ofWireEntries (fields.map fun f => (f.1, Value.textOrNull f.2)) =
      fields.map fun f => (.text f.1, .scalar (textOrNothing f.2)) := by
  induction fields with
  | nil => rfl
  | cons f rest ih =>
    obtain ⟨key, t⟩ := f
    rw [List.map_cons, ofWireEntries, ih]
    cases t <;> rfl

theorem Record.Stands.ofWire_told {x : Record} {c : Cell} (hx : x.Stands c) (p : Pruning) :
    Draft.ofWire (.object (Value.selectedEntries .everything (Value.recordWire p x))) =
      .ofFields (x.told .wire p) := by
  cases hx with
  | name n => rfl
  | actor a => rfl
  | credential c =>
    have whole (es : List (String × WireJson)) :
        es.filter (fun e => Selection.everything.allows e.1) = es :=
      List.filter_eq_self.mpr fun _ _ => rfl
    rw [Value.recordWire, Value.selectedEntries, whole, Draft.ofWire, Draft.ofWireEntries_texts,
      Draft.ofFields, told, List.map_map]
    rfl

theorem Record.Stands.copies_told {x : Record} {c : Cell} (hx : x.Stands c) (p : Pruning) :
    Draft.mapping (Store.selectedCopies .everything (recordCopy p x)) =
      .ofFields (x.told .plain p) := by
  cases hx with
  | name n => rfl
  | actor a => rfl
  | credential c =>
    rw [recordCopy, Store.selectedCopies, List.filter_eq_self.mpr, Draft.ofFields, told,
      List.map_map]
    · congr 1
      exact List.map_congr_left fun f _ => congrArg (Draft.text f.1, ·) (textOrNone_eq f.2)
    · intro e he
      obtain ⟨f, -, rfl⟩ := List.mem_map.mp he
      rfl

namespace Store

variable {s t : Store} {a : Address} {x : Record} {k : RecordClass} {c : Cell}

theorem view_of_stands (h : s.cell? a = some c) (hx : x.Stands c) :
    s.view (.address a) = .record a x := by
  obtain ⟨n, hn⟩ := s.exists_depthBound_eq
  cases hx <;> simp only [view, hn, viewBelow, h]

theorem dumpOf?_stands (h : s.cell? a = some c) (hx : x.Stands c) (mode : DumpMode)
    (p : Pruning) : s.dumpOf? ⟨mode, p, .everything⟩ (.address a) =
      some (.ok (.ofFields (x.told mode p)), s) := by
  have seen := view_of_stands h hx
  cases mode with
  | wire =>
    have read : s.readRecord (.address a) = .record a x := by
      cases hx <;> simp only [readRecord, cellOf?, h, seen]
    simp only [dumpOf?, read, Value.wireEntriesOf?, Option.map_some, Except.map, hx.ofWire_told]
    rfl
  | plain =>
    have copied : s.copiedEntriesOf? p .everything (.address a) =
        some (.ok (selectedCopies .everything (recordCopy p x))) := by
      cases hx <;> simp only [copiedEntriesOf?, cellOf?, h, seen]
    simp only [dumpOf?, copied, Option.map_some, Except.map, hx.copies_told]

theorem place_ofFields (s : Store) (fields : List (String × Scalar)) :
    s.place (.ofFields fields) = (.address s.cells.size,
      (s.alloc (.mapping false (fields.map fun f => (.text f.1, .scalar f.2)))).2) := by
  have entries : s.placeEntries (fields.map fun f => (Draft.text f.1, .scalar f.2)) =
      (fields.map fun f => (Ref.text f.1, .scalar f.2), s) := by
    induction fields with
    | nil => rfl
    | cons f rest ih =>
      have key : s.place (.text f.1) = (.text f.1, s) := rfl
      have value : s.place (.scalar f.2) = (.scalar f.2, s) := rfl
      simp only [List.map_cons, placeEntries, key, value, ih]
  rw [Draft.ofFields, place, entries]
  rfl

def given (fields : List (String × Scalar)) : List (String × Ref) :=
  fields.map fun f => (f.1, .scalar f.2)

/-- What is found under a name of what is kept of some fields. -/
theorem lookup_kept {α β : Type} {q : α → Bool} {g : α → β} {fields : List (String × α)}
    {name : String} {x : α} (hn : (fields.map Prod.fst).Nodup) (h : (name, x) ∈ fields) :
    ((fields.filter fun f => q f.2).map fun f => (f.1, g f.2)).lookup name =
      if q x then some (g x) else none := by
  induction fields with
  | nil => cases h
  | cons f rest ih =>
    obtain ⟨other, y⟩ := f
    obtain ⟨new, hrest⟩ := List.nodup_cons.mp hn
    rw [List.filter_cons]
    rcases List.mem_cons.mp h with same | h
    · obtain ⟨rfl, rfl⟩ := Prod.mk.inj same
      dsimp only
      split
      · rw [List.map_cons, List.lookup_cons_self]
      · rw [List.lookup_eq_none_iff]
        intro e he
        obtain ⟨f, hf, rfl⟩ := List.mem_map.mp he
        have apart : name ≠ f.1 := fun same =>
          new (List.mem_map.mpr ⟨f, (List.mem_filter.mp hf).1, same.symm⟩)
        simpa using apart
    · have apart : (name == other) = false :=
        beq_eq_false_iff_ne.mpr fun same => new (List.mem_map.mpr ⟨_, h, same⟩)
      rw [← ih hrest h]
      split
      · rw [List.map_cons, List.lookup_cons, apart]
      · rfl

theorem lookup_told {c : Credential} {name : String} {slot : Slot} (h : (name, slot) ∈ c.fields)
    (mode : DumpMode) (p : Pruning) : (given ((Record.credential c).told mode p)).lookup name =
      if p.keepsSlot slot then some (.scalar (textOrNothing slot.content?)) else none := by
  rw [given, Record.told, Pruning.keptFields, List.map_map, List.map_map]
  exact lookup_kept (q := p.keepsSlot) (g := fun slot => Ref.scalar (textOrNothing slot.content?))
    c.nodup_fields h

theorem checkSlot_textOrNothing (s : Store) (t : Option String) :
    s.checkSlot (.scalar (textOrNothing t)) = .ok (.ofContent t) := by
  cases t <;> rfl

/-- An optional text is given again, or left out where it held nothing. -/
theorem optional_told {c : Credential} {name : String} {slot : Slot} (h : (name, slot) ∈ c.fields)
    (s : Store) (mode : DumpMode) (p : Pruning) :
    Checked.optional (given ((Record.credential c).told mode p)) name .leftOut s.checkSlot =
      .ok (p.restored slot) := by
  rw [Checked.optional, lookup_told h, Pruning.restored]
  by_cases keeps : p.keepsSlot slot = true
  · simp only [if_pos keeps, checkSlot_textOrNothing, Checked.under_ok]
  · simp only [if_neg keeps]

theorem checkFilledText_text {t : String} (s : Store) (ht : t ≠ "") :
    s.checkFilledText (.text t) = .ok ⟨t, ht⟩ :=
  dif_neg ht

theorem checkName_told (s : Store) (n : CredentialName) (mode : DumpMode) (p : Pruning) :
    s.checkName n.scheme (given ((Record.name n).told mode p)) = .ok n := by
  have found : (given ((Record.name n).told mode p)).lookup "name" = some (.text n.path) := rfl
  rw [checkName, Checked.required, found]
  simp only [checkFilledText_text s n.path_ne_empty]
  rfl

theorem checkActor_told (s : Store) (a : Actor) (mode : DumpMode) (p : Pruning) :
    s.checkActor (given ((Record.actor a).told mode p)) = .ok a := by
  have kind : Checked.required (given ((Record.actor a).told mode p)) "type" checkActorKind =
      .ok a.kind := by
    cases mode with
    | wire =>
      have read : checkActorKind (.scalar (.text a.kind.wire)) = .ok a.kind := by
        rw [checkActorKind, ActorKind.ofWire?_wire]
      exact congrArg (Checked.under (.field "type")) read
    | plain => rfl
  have id : Checked.required (given ((Record.actor a).told mode p)) "id" s.checkFilledText =
      .ok ⟨a.id, a.id_ne_empty⟩ :=
    congrArg (Checked.under (.field "id")) (checkFilledText_text s a.id_ne_empty)
  rw [checkActor, kind, id]
  rfl

theorem checkUser_told (s : Store) (c : UserCredential) (mode : DumpMode) (p : Pruning) :
    s.checkUser (given ((Record.credential (.user c)).told mode p)) =
      .ok { c with username := p.restored c.username } := by
  have password : Checked.required (given ((Record.credential (.user c)).told mode p)) "password"
      s.checkFilledText = .ok ⟨c.password, c.password_ne_empty⟩ := by
    have kept : p.keepsSlot (.text c.password) = true := by
      simp [Pruning.keepsSlot, Slot.content?, Slot.isGiven]
    have field : ("password", .text c.password) ∈ (Credential.user c).fields := .tail _ (.head _)
    rw [Checked.required, lookup_told field, if_pos kept]
    exact congrArg (Checked.under (.field "password")) (checkFilledText_text s c.password_ne_empty)
  rw [checkUser, password, optional_told (c := .user c) (.head _)]
  rfl

theorem checkCertificate_told (s : Store) (c : CertificateCredential) (mode : DumpMode)
    (p : Pruning) : s.checkCertificate (given ((Record.credential (.certificate c)).told mode p)) =
      .ok (c.restored p) := by
  have slot {name : String} {x : Slot} (h : (name, x) ∈ (Credential.certificate c).fields) :=
    optional_told h s mode p
  simp only [checkCertificate, slot (.head _), slot (.tail _ (.head _)),
    slot (.tail _ (.tail _ (.head _))), slot (.tail _ (.tail _ (.tail _ (.head _)))),
    Checked.both_ok]
  exact dif_pos (c.restored p).isPresent

theorem checkKeyPair_told (s : Store) (c : KeyPair) (mode : DumpMode) (p : Pruning) :
    s.checkKeyPair c.scheme (given ((Record.credential (.keyPair c)).told mode p)) =
      .ok (c.restored p) := by
  have slot {name : String} {x : Slot} (h : (name, x) ∈ (Credential.keyPair c).fields) :=
    optional_told h s mode p
  simp only [checkKeyPair, slot (.head _), slot (.tail _ (.head _)), Checked.both_ok]
  exact dif_pos (c.restored p).isPresent

/-- What is made of the fields that a dump tells. -/
theorem make_told (hx : x.Stands c) (hk : c.maker? = some k) (s : Store) (mode : DumpMode)
    (p : Pruning) : ∃ d, (x.restored p).Stands d ∧ d.maker? = some k ∧
      s.make k (given (x.told mode p)) = (.ok (.address s.cells.size), (s.alloc d).2) := by
  cases hx with
  | name n =>
    obtain rfl := Option.some.inj hk
    exact ⟨_, .name n, rfl, by simp only [make, checkName_told]; rfl⟩
  | actor a =>
    obtain rfl := Option.some.inj hk
    exact ⟨_, .actor a, rfl, by simp only [make, checkActor_told]; rfl⟩
  | credential c =>
    refine ⟨_, .credential (c.restored p), ?_, ?_⟩
    · rw [← hk]
      cases c <;> rfl
    · cases c with
      | user c =>
        obtain rfl := Option.some.inj hk
        simp only [make, checkUser_told]
        rfl
      | certificate c =>
        obtain rfl := Option.some.inj hk
        simp only [make, checkCertificate_told]
        rfl
      | keyPair c =>
        obtain rfl := Option.some.inj hk
        simp only [make, checkKeyPair_told]
        rfl

/-- A record is found equal to what it is made again as, and has its hash. -/
theorem equalOf_restored {b : Address} {d : Cell} (ha : t.cell? a = some c) (hx : x.Stands c)
    {p : Pruning} (hb : t.cell? b = some d) (hy : (x.restored p).Stands d) :
    t.equalOf (.address a) (.address b) = .ok true ∧
      ∀ H, ∃ h, t.hashOf H (.address a) = .ok h ∧ t.hashOf H (.address b) = .ok h := by
  have first := view_of_stands ha hx
  have second := view_of_stands hb hy
  refine ⟨?_, fun H => ⟨H.record x, ?_, ?_⟩⟩
  · rw [equalOf_records first second, x.same_restored]
  · rw [hashOf, first]
    rfl
  · rw [hashOf, second, Hashing.Lawful.record_same (x.same_restored p)]
    rfl

end Store

/-- The entries of a dump, as fields by name, and the store in which their mapping stands. -/
def Store.DumpsAs (s : Store) (o : DumpOptions) (r : Ref) (fields : List (String × Ref))
    (t : Store) : Prop :=
  ∃ d b, s.dumpOf? o r = some (.ok d, s) ∧ s.place d = (.address b, t) ∧
    t.cell? b = some (.mapping false (fields.map fun f => (.text f.1, f.2)))

open Store in
/-- The class of a name, an actor or a credential makes an object of the entries of its dump, in
either mode and whatever is pruned; and this object is of the same class, equal to what was dumped
and of the same hash. -/
theorem dump_makes_equal {s : Store} {a : Address} {c : Cell} {k : RecordClass}
    (h : s.cell? a = some c) (hk : c.maker? = some k) (mode : DumpMode) (p : Pruning) :
    ∃ fields t m u, s.DumpsAs ⟨mode, p, .everything⟩ (.address a) fields t ∧
      t.make k fields = (.ok m, u) ∧ (u.cellOf? m).bind Cell.maker? = some k ∧
      u.equalOf (.address a) m = .ok true ∧
      ∀ H, ∃ h, u.hashOf H (.address a) = .ok h ∧ u.hashOf H m = .ok h := by
  obtain ⟨x, hx⟩ := Record.exists_stands hk
  let fields := x.told mode p
  let t := (s.alloc (.mapping false (fields.map fun f => (.text f.1, .scalar f.2)))).2
  obtain ⟨d, hy, hd, made⟩ := make_told hx hk t mode p
  have dumped : s.DumpsAs ⟨mode, p, .everything⟩ (.address a) (given fields) t := by
    refine ⟨_, s.cells.size, dumpOf?_stands h hx mode p, place_ofFields s fields, ?_⟩
    rw [given, List.map_map]
    exact cell?_alloc_self s _
  have before : (t.alloc d).2.cell? a = some c := cell?_alloc_of_cell? (cell?_alloc_of_cell? h)
  have after : (t.alloc d).2.cell? t.cells.size = some d := cell?_alloc_self t d
  obtain ⟨equal, hash⟩ := equalOf_restored before hx after hy
  refine ⟨given fields, t, .address t.cells.size, _, dumped, made, ?_, equal, hash⟩
  rw [cellOf?, after, Option.bind_some, hd]

/-- A certificate whose own text is empty, whose key was given as nothing and whose name was left
out. -/
def hollowCertificate : CertificateCredential := ⟨.text "", .text "ca", .absent, .leftOut, by decide⟩

/-- The empty text is kept when all that holds nothing is left out. -/
theorem dump_of_hollow_certificate_makes_equal :
    let s : Store := ⟨#[.credential (.certificate hollowCertificate)]⟩
    let o : DumpOptions := ⟨.wire, ⟨true, true, true⟩, .everything⟩
    s.cell? 0 = some (.credential (.certificate hollowCertificate)) ∧
      (Cell.credential (.certificate hollowCertificate)).maker? = some .certificate ∧
      s.dumpOf? o (.address 0) =
        some (.ok (.mapping [(.text "certificate", .text ""), (.text "ca", .text "ca")]), s) ∧
      ∃ fields t m u, s.DumpsAs o (.address 0) fields t ∧
        t.make .certificate fields = (.ok m, u) ∧
        (u.cellOf? m).bind Cell.maker? = some .certificate ∧
        u.equalOf (.address 0) m = .ok true ∧
        ∀ H, ∃ h, u.hashOf H (.address 0) = .ok h ∧ u.hashOf H m = .ok h :=
  ⟨rfl, rfl, rfl, dump_makes_equal rfl rfl .wire ⟨true, true, true⟩⟩

end CredentialWrite
