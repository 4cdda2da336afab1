import CredentialWrite.Proofs.Payload.Entries
import CredentialWrite.Proofs.Payload.Native
import Mathlib.Data.List.Perm.Subperm

/-!
# Equality of wire forms

Trees of JSON are compared as the values that they stand for: numbers by value, objects whatever
the order of their entries. Native values are equal exactly when their trees are. Payloads are
equal exactly when flags, paths, kinds, values and permissions are, since the actor and the
operations can be told from what is written of a permission, and the fields of a credential from
those that are present.
-/

namespace CredentialWrite

namespace Value

mutual

def ofJson : WireJson → Value
  | .null => .scalar .none
  | .bool b => .scalar (.bool b)
  | .int n => .scalar (.int n)
  | .number x => .scalar (.float x 0)
  | .text t => .scalar (.text t)
  | .array items => .sequence 0 .list (ofItems items)
  | .object entries => .mapping 0 false (ofEntries entries)

def ofItems : List WireJson → List Value
  | [] => []
  | j :: rest => ofJson j :: ofItems rest

def ofEntries : List (String × WireJson) → List (Value × Value)
  | [] => []
  | (key, j) :: rest => (.scalar (.text key), ofJson j) :: ofEntries rest

end

end Value

namespace Json

def same (j k : WireJson) : Bool := (Value.ofJson j).same (Value.ofJson k)

theorem same_text (s t : String) : (Json.text s).same (.text t) = decide (s = t) := by
  simp [same, Value.ofJson, Value.same, Scalar.same, Scalar.equal, Scalar.number?]

theorem same_bool (b c : Bool) : (Json.bool b).same (.bool c) = decide (b = c) := by
  cases b <;> cases c <;> rfl

theorem same_array_cons (j k : WireJson) (js ks : List WireJson) :
    (Json.array (j :: js)).same (.array (k :: ks)) =
      (j.same k && (Json.array js).same (.array ks)) := rfl

theorem length_ofEntries (es : List (String × WireJson)) :
    (Value.ofEntries es).length = es.length := by
  induction es with
  | nil => rfl
  | cons e rest ih => rw [Value.ofEntries, List.length_cons, List.length_cons, ih]

theorem any_ofEntries (key : String) (j : WireJson) (fs : List (String × WireJson)) :
    ((Value.ofEntries fs).any fun f =>
      (Value.scalar (.text key)).same f.1 && (Value.ofJson j).same f.2) =
    fs.any fun f => decide (key = f.1) && j.same f.2 := by
  induction fs with
  | nil => rfl
  | cons f rest ih =>
    rw [Value.ofEntries, List.any_cons, List.any_cons, ih]
    exact congrArg (fun b => b && _ || _) (same_text key f.1)

theorem entriesWithin_ofEntries (es fs : List (String × WireJson)) :
    Value.entriesWithin (Value.ofEntries es) (Value.ofEntries fs) =
      es.all fun e => fs.any fun f => decide (e.1 = f.1) && e.2.same f.2 := by
  induction es with
  | nil => rfl
  | cons e rest ih =>
    rw [Value.ofEntries, Value.entriesWithin, List.all_cons, ih, any_ofEntries]

/-- Objects are the same when there are as many entries, each with one of the same key and value. -/
theorem same_object (es fs : List (String × WireJson)) :
    (Json.object es).same (.object fs) = (decide (es.length = fs.length) &&
      es.all fun e => fs.any fun f => decide (e.1 = f.1) && e.2.same f.2) := by
  rw [← entriesWithin_ofEntries, ← length_ofEntries es, ← length_ofEntries fs]
  rfl

section Objects

variable {key : String} {x y : WireJson} {es fs : List (String × WireJson)}

theorem any_of_not_mem (x : WireJson) (h : key ∉ fs.map Prod.fst) :
    (fs.any fun f => decide (key = f.1) && x.same f.2) = false := by
  rw [List.any_eq_false]
  intro f hf hb
  rw [Bool.and_eq_true, decide_eq_true_eq] at hb
  exact h (hb.1 ▸ List.mem_map_of_mem hf)

/-- Entries of one key are compared with each other. -/
theorem same_object_cons (he : key ∉ es.map Prod.fst) (hf : key ∉ fs.map Prod.fst) :
    (Json.object ((key, x) :: es)).same (.object ((key, y) :: fs)) =
      (x.same y && (Json.object es).same (.object fs)) := by
  have hrest : (es.all fun e => ((key, y) :: fs).any fun f => decide (e.1 = f.1) && e.2.same f.2) =
      es.all fun e => fs.any fun f => decide (e.1 = f.1) && e.2.same f.2 := by
    rw [Bool.eq_iff_iff, List.all_eq_true, List.all_eq_true]
    refine forall₂_congr fun e hm => ?_
    have hne : e.1 ≠ key := fun heq => he (heq ▸ List.mem_map_of_mem hm)
    rw [List.any_cons, decide_eq_false hne, Bool.false_and, Bool.false_or]
  rw [same_object, same_object, List.all_cons, hrest, List.any_cons, any_of_not_mem x hf]
  simp [Bool.and_left_comm]

theorem same_object_missing_right (hf : key ∉ fs.map Prod.fst) :
    (Json.object ((key, x) :: es)).same (.object fs) = false := by
  rw [same_object, List.all_cons, any_of_not_mem x hf, Bool.false_and, Bool.and_false]

theorem mem_keys_of_same (h : (Json.object es).same (.object fs) = true)
    (hk : key ∈ es.map Prod.fst) : key ∈ fs.map Prod.fst := by
  rw [same_object, Bool.and_eq_true, List.all_eq_true] at h
  obtain ⟨e, he, rfl⟩ := List.mem_map.mp hk
  obtain ⟨f, hf, hb⟩ := List.any_eq_true.mp (h.2 e he)
  rw [Bool.and_eq_true, decide_eq_true_eq] at hb
  exact hb.1 ▸ List.mem_map_of_mem hf

/-- As there are as many entries, a key that only the second object has leaves one out. -/
theorem same_object_missing_left (hn : (es.map Prod.fst).Nodup) (he : key ∉ es.map Prod.fst) :
    (Json.object es).same (.object ((key, y) :: fs)) = false := by
  rw [Bool.eq_false_iff]
  intro h
  have hl : es.length = fs.length + 1 := by
    rw [same_object, Bool.and_eq_true, decide_eq_true_eq] at h
    exact h.1
  have hs : es.map Prod.fst ⊆ fs.map Prod.fst := by
    intro k hk
    rcases List.mem_cons.mp (mem_keys_of_same h hk) with rfl | hm
    · exact absurd hk he
    · exact hm
  have hle := (List.subperm_of_subset hn hs).length_le
  rw [List.length_map, List.length_map] at hle
  omega

end Objects

theorem keys_presentFields_subset (fields : List (String × Slot)) :
    (presentFields fields).map Prod.fst ⊆ fields.map Prod.fst := by
  intro key hk
  obtain ⟨entry, he, rfl⟩ := List.mem_map.mp hk
  obtain ⟨field, hf, hm⟩ := List.mem_filterMap.mp he
  obtain ⟨t, -, rfl⟩ := Option.map_eq_some_iff.mp hm
  exact List.mem_map_of_mem hf

theorem presentFields_cons (name : String) (slot : Slot) (fields : List (String × Slot)) :
    presentFields ((name, slot) :: fields) = match slot.content? with
      | some t => (name, .text t) :: presentFields fields
      | none => presentFields fields := by
  cases hs : slot.content? <;> simp [presentFields, hs]

theorem nodup_keys_presentFields {fields : List (String × Slot)}
    (h : (fields.map Prod.fst).Nodup) : ((presentFields fields).map Prod.fst).Nodup := by
  induction fields with
  | nil => exact List.nodup_nil
  | cons field rest ih =>
    obtain ⟨name, slot⟩ := field
    rw [List.map_cons, List.nodup_cons] at h
    rw [presentFields_cons]
    cases slot.content? with
    | none => exact ih h.2
    | some t =>
      rw [List.map_cons, List.nodup_cons]
      exact ⟨fun hm => h.1 (keys_presentFields_subset rest hm), ih h.2⟩

/-- Records of the same fields are written alike when these hold the same. -/
theorem same_presentFields {es fs : List (String × Slot)} (hk : es.map Prod.fst = fs.map Prod.fst)
    (hn : (es.map Prod.fst).Nodup) :
    (Json.object (presentFields es)).same (.object (presentFields fs)) = true ↔
      es.map (·.2.content?) = fs.map (·.2.content?) := by
  induction es generalizing fs with
  | nil =>
    obtain rfl : fs = [] := List.map_eq_nil_iff.mp hk.symm
    simp [same_object, presentFields]
  | cons e es ih =>
    cases fs with
    | nil => simp at hk
    | cons f fs =>
      obtain ⟨name, slot⟩ := e
      obtain ⟨name', slot'⟩ := f
      obtain ⟨rfl, hr⟩ : name = name' ∧ es.map Prod.fst = fs.map Prod.fst := by simpa using hk
      rw [List.map_cons, List.nodup_cons] at hn
      have he : name ∉ (presentFields es).map Prod.fst :=
        fun hm => hn.1 (keys_presentFields_subset es hm)
      have hf : name ∉ (presentFields fs).map Prod.fst :=
        fun hm => hn.1 (hr ▸ keys_presentFields_subset fs hm)
      have hrest := ih hr hn.2
      rw [presentFields_cons, presentFields_cons, List.map_cons, List.map_cons]
      cases hs : slot.content? with
      | none =>
        cases hs' : slot'.content? with
        | none => simpa using hrest
        | some t =>
          simp [same_object_missing_left (nodup_keys_presentFields hn.2) he]
      | some t =>
        cases hs' : slot'.content? with
        | none => simp [same_object_missing_right hf]
        | some t' => simp [same_object_cons he hf, same_text, hrest]

/-- Lists written item by item are the same when the items are. -/
theorem same_array_map {α : Type} {f : α → WireJson}
    (hf : ∀ a b, (f a).same (f b) = true ↔ a = b) (as bs : List α) :
    (Json.array (as.map f)).same (.array (bs.map f)) = true ↔ as = bs := by
  induction as generalizing bs with
  | nil => cases bs <;> simp [same, Value.ofJson, Value.ofItems, Value.same, Value.sameItems]
  | cons a as ih =>
    cases bs with
    | nil => simp [same, Value.ofJson, Value.ofItems, Value.same, Value.sameItems]
    | cons b bs => simp [same_array_cons, hf, ih]

end Json

/-- The kind of an actor and its id can be told from the identity. -/
theorem Actor.identity_injective {a b : Actor} (h : a.identity = b.identity) : a = b := by
  have hl := congrArg String.toList h
  simp only [Actor.identity, String.toList_append] at hl
  obtain ⟨ka, ia, ha⟩ := a
  obtain ⟨kb, ib, hb⟩ := b
  cases ka <;> cases kb <;>
    simp [ActorKind.wire, String.toList_inj] at hl ⊢ <;> exact hl

theorem Value.same_permissionWire (p q : Permission) :
    (permissionWire p).same (permissionWire q) = true ↔ p = q := by
  have ho : ∀ o o' : Operation, (Json.text o.wire).same (.text o'.wire) = true ↔ o = o' := by
    intro o o'
    rw [Json.same_text, decide_eq_true_eq]
    exact ⟨Operation.wire_injective, congrArg _⟩
  have ha : p.actor.identity = q.actor.identity ↔ p.actor = q.actor :=
    ⟨Actor.identity_injective, congrArg _⟩
  rw [permissionWire, permissionWire, Json.same_object_cons (by simp) (by simp),
    Json.same_object_cons (by simp) (by simp), Json.same_text]
  simp [Json.same_array_map ho, ha, Json.same_object, Permission.ext_iff]

/-- The kind that a credential is for; a plain key pair is for none. -/
def Credential.kind? : Credential → Option CredentialKind
  | .user _ => some .user
  | .certificate _ => some .certificate
  | .keyPair c => match c.scheme with
    | .plain => none
    | .rsa => some .rsa
    | .ssh => some .ssh

theorem Credential.same_presentFields {c d : Credential} (h : c.kind?.isSome)
    (hd : d.kind? = c.kind?) :
    (Json.object (presentFields c.fields)).same (.object (presentFields d.fields)) = c.same d := by
  rw [Bool.eq_iff_iff]
  cases c with
  | user a =>
    cases d with
    | user b =>
      refine Iff.trans (Json.same_presentFields rfl (by simp [fields])) ?_
      have ht : ∀ t, (Slot.text t).content? = some t := fun _ => rfl
      simp [fields, same, ht]
    | certificate b => simp [kind?] at hd
    | keyPair b => cases hb : b.scheme <;> simp [kind?, hb] at hd
  | certificate a =>
    cases d with
    | certificate b =>
      refine Iff.trans (Json.same_presentFields rfl (by simp [fields])) ?_
      simp [fields, same, and_assoc]
    | user b => simp [kind?] at hd
    | keyPair b => cases hb : b.scheme <;> simp [kind?, hb] at hd
  | keyPair a =>
    cases d with
    | keyPair b =>
      have hs : a.scheme = b.scheme := by
        cases ha : a.scheme <;> cases hb : b.scheme <;> simp [kind?, ha, hb] at h hd ⊢
      refine Iff.trans (Json.same_presentFields rfl (by simp [fields])) ?_
      simp [fields, same, hs]
    | user b => cases ha : a.scheme <;> simp [kind?, ha] at hd
    | certificate b => cases ha : a.scheme <;> simp [kind?, ha] at hd

/-- Payloads are compared by flags, paths, kinds, values and permissions. -/
theorem WriteRequest.same_payloadEntries (a b : WriteRequest CredentialName Permission Value)
    (w x : WireJson) :
    (Json.object (a.payloadEntries w)).same (.object (b.payloadEntries x)) =
      (decide (a.overwrite = b.overwrite) && a.name.same b.name && decide (a.kind = b.kind) &&
        w.same x && decide (a.permissions = b.permissions)) := by
  have hk : a.kind.wire = b.kind.wire ↔ a.kind = b.kind :=
    ⟨CredentialKind.wire_injective, congrArg _⟩
  have hp : (Json.object (if a.permissions = [] then [] else
        [("additional_permissions", .array (a.permissions.map Value.permissionWire))])).same
      (.object (if b.permissions = [] then [] else
        [("additional_permissions", .array (b.permissions.map Value.permissionWire))])) =
      decide (a.permissions = b.permissions) := by
    by_cases ha : a.permissions = [] <;> by_cases hb : b.permissions = []
    · simp [ha, hb, Json.same_object]
    · simp [ha, hb, Json.same_object, Ne.symm hb]
    · simp [ha, hb, Json.same_object]
    · rw [if_neg ha, if_neg hb, Json.same_object_cons (by simp) (by simp), Bool.eq_iff_iff]
      simp [Json.same_object, Json.same_array_map Value.same_permissionWire]
  unfold payloadEntries
  simp only [List.cons_append, List.nil_append]
  rw [Json.same_object_cons, Json.same_object_cons, Json.same_object_cons, Json.same_object_cons,
    hp, Json.same_bool, Json.same_text, Json.same_text]
  · simp only [hk, CredentialName.same, Bool.and_assoc, Bool.and_left_comm]
  all_goals
    by_cases ha : a.permissions = [] <;> by_cases hb : b.permissions = [] <;> simp [ha, hb]

/-- Finite numbers are compared by value, whichever copies they are. -/
theorem Scalar.same_float {x y : Binary64} (hx : x.isFinite = true) (copy other : Nat) :
    same (.float x copy) (.float y other) = same (.float x 0) (.float y 0) := by
  have h (c d : Nat) : same (.float x c) (.float y d) = x.equal y := by
    by_cases hxy : x = y
    · subst hxy
      cases x <;>
        simp [Binary64.isFinite, Binary64.equal, same, equal, number?, Number.equal] at hx ⊢
    · simp [same, equal, number?, Number.equal, hxy]
  rw [h, h]

theorem NativeEntries.length_eq {es : List (Value × Value)} {fs : List (String × WireJson)}
    (h : NativeEntries es fs) : es.length = fs.length := by
  cases h with
  | nil => rfl
  | cons _ _ hs => rw [List.length_cons, List.length_cons, hs.length_eq]

theorem NativeEntries.any_eq {fs : List (Value × Value)} {hs : List (String × WireJson)}
    (hn : NativeEntries fs hs) (key : String) {v : Value} {j : WireJson}
    (h : ∀ {w k}, Native w k → v.same w = j.same k) :
    (fs.any fun f => (Value.scalar (.text key)).same f.1 && v.same f.2) =
      hs.any fun f => decide (key = f.1) && j.same f.2 := by
  cases hn with
  | nil => rfl
  | cons key' k ks =>
    rw [List.any_cons, List.any_cons, ks.any_eq key h, h k]
    exact congrArg (fun b => b && _ || _) (Json.same_text key key')

mutual

/-- Native values are equal when their trees are. -/
theorem Native.same {v : Value} {j : WireJson} :
    Native v j → ∀ {w k}, Native w k → v.same w = j.same k
  | .none, _, _, hk | .bool _, _, _, hk | .int _, _, _, hk | .text _, _, _, hk => by
    cases hk <;> rfl
  | .float x copy hx, _, _, hk => by
    cases hk with
    | float y other hy => exact Scalar.same_float hx copy other
    | _ => rfl
  | .list _ h, _, _, .list _ hk => h.sameItems hk
  | .list _ _, _, _, .none | .list _ _, _, _, .bool _ | .list _ _, _, _, .int _
  | .list _ _, _, _, .float _ _ _ | .list _ _, _, _, .text _ | .list _ _, _, _, .mapping _ _ _ =>
    rfl
  | .mapping _ h _, _, _, .mapping _ hk _ => by
    rw [Json.same_object, ← h.entriesWithin hk, Value.same, h.length_eq, hk.length_eq]
  | .mapping _ _ _, _, _, .none | .mapping _ _ _, _, _, .bool _ | .mapping _ _ _, _, _, .int _
  | .mapping _ _ _, _, _, .float _ _ _ | .mapping _ _ _, _, _, .text _
  | .mapping _ _ _, _, _, .list _ _ => rfl

theorem NativeItems.sameItems {vs : List Value} {js : List WireJson} :
    NativeItems vs js → ∀ {ws ks}, NativeItems ws ks →
      Value.sameItems vs ws = (Json.array js).same (.array ks)
  | .nil, _, _, .nil => rfl
  | .nil, _, _, .cons _ _ => rfl
  | .cons _ _, _, _, .nil => rfl
  | .cons h hs, _, _, .cons k ks => by
    rw [Value.sameItems, h.same k, hs.sameItems ks, Json.same_array_cons]

theorem NativeEntries.entriesWithin {es : List (Value × Value)} {gs : List (String × WireJson)} :
    NativeEntries es gs → ∀ {fs hs}, NativeEntries fs hs → Value.entriesWithin es fs =
      gs.all fun g => hs.any fun f => decide (g.1 = f.1) && g.2.same f.2
  | .nil, _, _, _ => rfl
  | .cons key h hs, _, _, ks => by
    rw [Value.entriesWithin, hs.entriesWithin ks, List.all_cons,
      ks.any_eq key fun k => h.same k]

end

end CredentialWrite
