import CredentialWrite.Proofs.Payload.Faithful
import CredentialWrite.Proofs.Permission.History

/-!
# Identities tell actors apart

The wire form of a kind of actor has no colon, so an identity is cut at its first colon into the
kind and the id, whatever colons the id has. A dump of a permission lists the identity and the
operations in their order, and dumps are equal for equal permissions alone. The last slash of the
id of a user in a zone is the one between them, where the user has none.
-/

namespace CredentialWrite

open Store

theorem ActorKind.colon_notMem_wire (k : ActorKind) : ':' ∉ k.wire.toList := by
  cases k <;> decide

namespace Actor

variable {s : Store} {kind : ActorKind} {t u v zone zone' : String}

theorem cut_identity (a : Actor) :
    Text.cut ':' a.identity.toList = (a.kind.wire.toList, some a.id.toList) := by
  have laid : a.identity.toList = a.kind.wire.toList ++ ':' :: a.id.toList := by
    simp [identity]
  rw [laid]
  exact Text.cut_append a.kind.colon_notMem_wire _

theorem identity_inj {a b : Actor} : a.identity = b.identity ↔ a = b :=
  ⟨identity_injective, congrArg identity⟩

theorem part_identity {a : Address} {x : Actor} (h : s.cell? a = some (.actor x)) :
    s.part (.address a) "identity" = .ok (.text x.identity) :=
  RequestBuilder.part_of_lookup h rfl

theorem equalOf_actors {a b : Address} {x y : Actor} (ha : s.cell? a = some (.actor x))
    (hb : s.cell? b = some (.actor y)) :
    s.equalOf (.address a) (.address b) = .ok (decide (x = y)) :=
  equalOf_records (view_actor ha) (view_actor hb)

def zoneRef : Option String → Ref
  | none => .none
  | some zone => .text zone

/-- The id of a user below a zone, where nothing and an empty text are no zone. -/
def idBelow (zone user : String) : String := if zone = "" then user else zoned zone user

theorem userId_zoneRef (s : Store) (u : String) (z : Option String) :
    userId s (.text u) (zoneRef z) = .text (idBelow (z.getD "") u) := by
  have shown : (s.view (.text u)).shown = u := by
    rw [view, Ref.text, viewBelow_scalar]
    rfl
  cases z with
  | none => rfl
  | some zone =>
    by_cases h : zone = ""
    · subst h
      rfl
    · rw [zoneRef, userId_text s _ h, shown, Option.getD_some, idBelow, if_neg h]

theorem toList_zoned (zone user : String) :
    (zoned zone user).toList = zone.toList ++ '/' :: user.toList := by
  simp [zoned]

/-- The zone and the user are what stands before and after the last slash. -/
theorem zoned_inj (hu : '/' ∉ u.toList) (hv : '/' ∉ v.toList) :
    zoned zone u = zoned zone' v ↔ zone = zone' ∧ u = v := by
  have cut (zone u : String) (h : '/' ∉ u.toList) :
      Text.cut '/' (zoned zone u).toList.reverse =
        (u.toList.reverse, some zone.toList.reverse) := by
    rw [toList_zoned, List.reverse_append, List.reverse_cons, List.append_assoc]
    exact Text.cut_append (by simpa using h) _
  constructor
  · intro h
    have both := cut zone u hu
    rw [h, cut zone' v hv] at both
    simp only [Prod.mk.injEq, Option.some.injEq, List.reverse_inj, String.toList_inj] at both
    exact ⟨both.2.symm, both.1.symm⟩
  · rintro ⟨rfl, rfl⟩
    rfl

theorem slash_mem_zoned (zone user : String) : '/' ∈ (zoned zone user).toList := by
  simp [toList_zoned]

theorem idBelow_inj (hu : '/' ∉ u.toList) (hv : '/' ∉ v.toList) :
    idBelow zone u = idBelow zone' v ↔ u = v ∧ zone = zone' := by
  unfold idBelow
  by_cases h : zone = "" <;> by_cases h' : zone' = ""
  · simp [h, h']
  · rw [if_pos h, if_neg h']
    -- A user without a zone has no slash in the id.
    refine ⟨fun e => absurd (slash_mem_zoned zone' v) (e ▸ hu), fun e => ?_⟩
    exact absurd (e.2.symm.trans h) h'
  · rw [if_neg h, if_pos h']
    refine ⟨fun e => absurd (slash_mem_zoned zone u) (e ▸ hv), fun e => ?_⟩
    exact absurd (e.2.trans h') h
  · rw [if_neg h, if_neg h', zoned_inj hu hv, and_comm]

theorem idBelow_ne_empty_iff : idBelow zone u ≠ "" ↔ u ≠ "" ∨ zone ≠ "" := by
  unfold idBelow
  by_cases h : zone = ""
  · simp [h]
  · simp [h, zoned_ne_empty]

theorem make_text (s : Store) (kind : ActorKind) (h : t ≠ "") :
    make s kind (.text t) =
      (.ok ⟨s.cells.size, kind, t, h⟩, (s.alloc (.actor ⟨kind, t, h⟩)).2) := by
  rw [make, (checkActor_eq_ok (x := ⟨kind, t, h⟩)).mpr ⟨rfl, rfl⟩]
  rfl

def MadeEqual (s : Store) (user zone user' zone' : Ref) : Prop :=
  ∃ x t y t', Actor.user s user zone = (.ok x, t) ∧ Actor.user t user' zone' = (.ok y, t') ∧
    t'.equalOf x.ref y.ref = .ok true

theorem exists_of_make_text {x : Held Actor} {r : Store}
    (h : make s kind (.text t) = (.ok x, r)) : ∃ filled : t ≠ "",
      x = ⟨s.cells.size, kind, t, filled⟩ ∧ r = (s.alloc (.actor x.content)).2 := by
  have made := congrArg Prod.fst h
  obtain ⟨-, -, read⟩ := make_eq_ok.mp made
  have filled : t ≠ "" := by
    rw [show t = x.content.id from Except.ok.inj read]
    exact x.content.id_ne_empty
  rw [make_text s kind filled] at h
  cases h
  exact ⟨filled, rfl, rfl⟩

theorem madeEqual_iff {z w : Option String} (hu : '/' ∉ u.toList) (hv : '/' ∉ v.toList) :
    MadeEqual s (.text u) (zoneRef z) (.text v) (zoneRef w) ↔
      (u ≠ "" ∨ z.getD "" ≠ "") ∧ u = v ∧ z.getD "" = w.getD "" := by
  have compared (x y : Actor) : ((s.alloc (.actor x)).2.alloc (.actor y)).2.equalOf
      (.address s.cells.size) (.address (s.alloc (.actor x)).2.cells.size) =
        .ok (decide (x = y)) :=
    equalOf_actors (extends_alloc _ _ _ _ (s.cell?_alloc_self (.actor x)))
      (cell?_alloc_self _ (.actor y))
  constructor
  · rintro ⟨x, t, y, t', hx, hy, equal⟩
    rw [Actor.user, userId_zoneRef] at hx hy
    obtain ⟨filled, rfl, rfl⟩ := exists_of_make_text hx
    obtain ⟨_, rfl, rfl⟩ := exists_of_make_text hy
    have same := of_decide_eq_true (Except.ok.inj ((compared _ _).symm.trans equal))
    have ids := congrArg Actor.id same
    exact ⟨idBelow_ne_empty_iff.mp filled, (idBelow_inj hu hv).mp ids⟩
  · rintro ⟨filled, rfl, hz⟩
    have filled' := idBelow_ne_empty_iff.mpr filled
    let x : Actor := ⟨.user, idBelow (z.getD "") u, filled'⟩
    let t := (s.alloc (.actor x)).2
    have first : Actor.user s (.text u) (zoneRef z) = (.ok ⟨s.cells.size, x⟩, t) := by
      rw [Actor.user, userId_zoneRef, make_text s .user filled']
    have second : Actor.user t (.text u) (zoneRef w) =
        (.ok ⟨t.cells.size, x⟩, (t.alloc (.actor x)).2) := by
      rw [Actor.user, userId_zoneRef, ← hz, make_text t .user filled']
    have equal := (compared x x).trans (congrArg Except.ok (decide_eq_true rfl))
    exact ⟨_, _, _, _, first, second, equal⟩

end Actor

/-- How the dumps of two objects compare, as the new mappings that they become. -/
def DumpsCompare (s : Store) (o : DumpOptions) (r q : Ref) (same : Bool) : Prop :=
  ∃ d e, s.dumpOf? o r = some (.ok d, s) ∧ s.dumpOf? o q = some (.ok e, s) ∧
    let x := s.place d
    let y := x.2.place e
    y.2.equalOf x.1 y.1 = .ok same

namespace Store

variable {s : Store} {a b : Address} {p q : Permission} {x y z w : Address}

theorem permissionCopy_eq (p : Permission) :
    permissionCopy p = .ofWire (Value.permissionWire p) := by
  have listed : ∀ os : List Operation, Draft.ofWireItems (os.map fun o => .text o.wire) =
      os.map fun o => .text o.wire := by
    intro os
    induction os with
    | nil => rfl
    | cons o os ih => rw [List.map_cons, List.map_cons, Draft.ofWireItems, ih]; rfl
  simp only [permissionCopy, Value.permissionWire, Draft.ofWire, Draft.ofWireEntries, listed]

/-- The whole dump of a permission is the same in both modes, whatever is pruned. -/
theorem dumpOf?_whole_permission (h : s.cell? a = some (.permission p x y)) (mode : DumpMode)
    (pruning : Pruning) : s.dumpOf? ⟨mode, pruning, .everything⟩ (.address a) =
      some (.ok (.ofWire (Value.permissionWire p)), s) := by
  rw [dumpOf?_permission h]
  cases mode with
  | wire => rfl
  | plain => rw [← permissionCopy_eq]; rfl

theorem dumpsCompare_permissions (ha : s.cell? a = some (.permission p x y))
    (hb : s.cell? b = some (.permission q z w)) (mode : DumpMode) (pruning : Pruning) :
    DumpsCompare s ⟨mode, pruning, .everything⟩ (.address a) (.address b) (decide (p = q)) := by
  obtain ⟨v, hv⟩ := Json.isNative_permissionWire p
  obtain ⟨u, hu⟩ := Json.isNative_permissionWire q
  obtain ⟨first, second⟩ := native_view_place (s := s) hv hu
  refine ⟨_, _, dumpOf?_whole_permission ha mode pruning, dumpOf?_whole_permission hb mode pruning,
    ?_⟩
  intro x y
  refine (RequestBuilder.equalOf_objects first second).trans (congrArg Except.ok ?_)
  rw [Bool.eq_iff_iff, decide_eq_true_eq]
  exact Value.same_permissionWire p q

end Store

/-- Actors are equal if and only if their identities are, and an identity is cut at its first colon
into the wire form of the kind and the id. Permissions are equal if and only if their dumps are,
which tell the actor and the operations with their order and repetitions. Users made of an id
without a slash and of a zone, or of none, are equal if and only if ids and zones are, where an
empty zone is none. -/
theorem access_tells_actor_and_operations (s : Store) :
    (∀ a b x y, s.cell? a = some (.actor x) → s.cell? b = some (.actor y) →
      s.part (.address a) "identity" = .ok (.text x.identity) ∧
      Text.cut ':' x.identity.toList = (x.kind.wire.toList, some x.id.toList) ∧
      ∃ same, s.equalOf (.address a) (.address b) = .ok same ∧
        (same = true ↔ x.identity = y.identity)) ∧
    (∀ a b p q x y z w mode pruning, s.cell? a = some (.permission p x y) →
      s.cell? b = some (.permission q z w) →
      ∃ same, s.equalOf (.address a) (.address b) = .ok same ∧
        DumpsCompare s ⟨mode, pruning, .everything⟩ (.address a) (.address b) same ∧
        (same = true ↔ p.actor = q.actor ∧ p.operations = q.operations)) ∧
    ∀ u v z w, '/' ∉ u.toList → '/' ∉ v.toList →
      (Actor.MadeEqual s (.text u) (Actor.zoneRef z) (.text v) (Actor.zoneRef w) ↔
        (u ≠ "" ∨ z.getD "" ≠ "") ∧ u = v ∧ z.getD "" = w.getD "") := by
  refine ⟨fun a b x y ha hb => ?_, fun a b p q x y z w mode pruning ha hb => ?_,
    fun u v z w hu hv => Actor.madeEqual_iff hu hv⟩
  · refine ⟨Actor.part_identity ha, x.cut_identity, _, Actor.equalOf_actors ha hb, ?_⟩
    rw [decide_eq_true_eq, Actor.identity_inj]
  · refine ⟨_, equalOf_permissions ha hb, dumpsCompare_permissions ha hb mode pruning, ?_⟩
    rw [decide_eq_true_eq, Permission.ext_iff]

/-- A user and a client whose ids hold separators, and two permissions for the user that repeat an
operation in two orders. -/
def accessStore : Store :=
  let user : Actor := ⟨.user, "client:a/b", by decide⟩
  ⟨#[.actor user, .actor ⟨.client, "a/b", by decide⟩,
    .permission ⟨user, [.read, .write, .read], by decide⟩ 0 3,
    .sequence .tuple ([.read, .write, .read].map Operation.ref),
    .permission ⟨user, [.read, .read, .write], by decide⟩ 0 5,
    .sequence .tuple ([.read, .read, .write].map Operation.ref)]⟩

theorem access_of_separators_and_repetitions :
    Text.cut ':' "uaa-user:client:a/b".toList = ("uaa-user".toList, some "client:a/b".toList) ∧
    accessStore.equalOf (.address 0) (.address 1) = .ok false ∧
    DumpsCompare accessStore ⟨.plain, .none, .everything⟩ (.address 2) (.address 4) false ∧
    ¬ Actor.MadeEqual accessStore (.text "c") (Actor.zoneRef (some "a/b")) (.text "c")
      (Actor.zoneRef (some "a")) ∧
    Actor.MadeEqual accessStore (.text "c") (Actor.zoneRef (some "")) (.text "c")
      (Actor.zoneRef none) := by
  obtain ⟨actors, permissions, users⟩ := access_tells_actor_and_operations accessStore
  obtain ⟨-, cut, same, equal, told⟩ := actors 0 1 _ _ rfl rfl
  obtain ⟨same', -, dumps, told'⟩ := permissions 2 4 _ _ _ _ _ _ .plain .none rfl rfl
  obtain rfl : same = false := by
    rw [← Bool.not_eq_true, told]
    decide
  obtain rfl : same' = false := by
    rw [← Bool.not_eq_true, told']
    decide
  have plain : '/' ∉ "c".toList := by decide
  refine ⟨cut, equal, dumps, ?_, ?_⟩
  · rw [users "c" "c" _ _ plain plain]
    decide
  · rw [users "c" "c" _ _ plain plain]
    decide

end CredentialWrite
