import CredentialWrite.Permission.Builder
import CredentialWrite.Proofs.Outcome
import CredentialWrite.Proofs.Store.Viewing
import CredentialWrite.Proofs.Text.Octets

/-!
# Users in zones

The id of a user in a zone is put together before it is checked. What is shown of any object then
stands below the zone, and nothing is refused there: neither what is empty nor what is no text. So
texts that are not empty are the only objects of which a user is made alike with and without a zone.
-/

namespace CredentialWrite

open Text

theorem Member.wire_ne_shown (m : Member) : m.wire ≠ m.shown := by
  rcases m with k | k | k <;> cases k <;> decide

namespace Store

variable {s : Store} {r : Ref} {t : String}

theorem length_le_of_textOfOctets {content : List UInt8} (h : textOfOctets content = .ok t) :
    t.length ≤ content.length := by
  unfold textOfOctets at h
  split at h
  · next hd =>
    cases h
    exact length_decodeUtf8_le hd
  · cases h

/-- What a field for text reads is what is shown of the object for texts alone. -/
theorem eq_text_of_checkText (h : s.checkText r = .ok (s.view r).shown) : ∃ t, r = .text t := by
  obtain ⟨n, hn⟩ := s.exists_depthBound_eq
  rw [view, hn] at h
  cases r with
  | scalar x =>
    cases x with
    | text t => exact ⟨t, rfl⟩
    | octets content =>
      have read := length_le_of_textOfOctets h
      have shown := length_lt_quotedOctets content
      exact absurd (Nat.lt_of_lt_of_le shown read) (Nat.lt_irrefl _)
    | member m => exact absurd (Except.ok.inj h) m.wire_ne_shown
    | _ => cases h
  | address a =>
    simp only [checkText] at h
    split at h
    · next content hc =>
      have read := length_le_of_textOfOctets h
      have shown := length_lt_quotedBuffer content
      simp only [viewBelow, hc, Value.shown, Value.printed, String.length_append] at read
      omega
    · cases h

/-- A field for text that may not be empty. -/
theorem checkFilledText_eq_ok {t : { t : String // t ≠ "" }} :
    s.checkFilledText r = .ok t ↔ s.checkText r = .ok t.1 := by
  unfold checkFilledText
  constructor
  · intro h
    split at h
    · cases h
    · next t' ht =>
      split at h
      · cases h
      · cases h
        exact ht
  · intro h
    rw [h]
    exact dif_neg t.2

theorem checkActor_eq_ok {kind : ActorKind} {x : Actor} :
    s.checkActor [("type", .scalar (.member (.actorKind kind))), ("id", r)] = .ok x ↔
      x.kind = kind ∧ s.checkText r = .ok x.id := by
  have checked : s.checkActor [("type", .scalar (.member (.actorKind kind))), ("id", r)] =
      ((s.checkFilledText r).under (.field "id")).map fun t => ⟨kind, t.1, t.2⟩ := by
    have id : [("type", .scalar (.member (.actorKind kind))), ("id", r)].lookup "id" = some r := by
      simp [List.lookup_cons]
    simp only [checkActor, Checked.required, List.lookup_cons_self, id]
    cases s.checkFilledText r <;> rfl
  rw [checked]
  constructor
  · intro h
    obtain ⟨t, ht, rfl⟩ := exists_of_map_eq_ok h
    cases hr : s.checkFilledText r with
    | error faults =>
      rw [hr] at ht
      cases ht
    | ok t' =>
      rw [hr] at ht
      cases ht
      exact ⟨rfl, checkFilledText_eq_ok.mp hr⟩
  · rintro ⟨rfl, h⟩
    rw [(checkFilledText_eq_ok (t := ⟨x.id, x.id_ne_empty⟩)).mpr h]
    rfl

end Store

namespace Actor

variable {s : Store} {r : Ref} {kind : ActorKind}

theorem make_eq_ok {x : Held Actor} : (make s kind r).1 = .ok x ↔
    x.address = s.cells.size ∧ x.content.kind = kind ∧ s.checkText r = .ok x.content.id := by
  obtain ⟨a, x⟩ := x
  unfold make
  constructor
  · intro h
    split at h
    · next hx =>
      cases h
      exact ⟨rfl, Store.checkActor_eq_ok.mp hx⟩
    · cases h
  · rintro ⟨rfl, h⟩
    rw [Store.checkActor_eq_ok.mpr h]
    rfl

theorem userId_text (s : Store) (r : Ref) {zone : String} (h : zone ≠ "") :
    userId s r (.text zone) = .text (zoned zone (s.view r).shown) := by
  have given : s.isTrue (.text zone) = true := by simpa [Store.isTrue, Ref.text] using h
  have seen : (s.view (.text zone)).shown = zone := by
    rw [Store.view, Ref.text, Store.viewBelow_scalar]
    rfl
  rw [userId, if_pos given, seen]

theorem zoned_ne_empty (zone id : String) : zoned zone id ≠ "" := by
  simp [zoned]

theorem zoned_right_inj {zone a b : String} : zoned zone a = zoned zone b ↔ a = b := by
  simp [zoned]

/-- A user is made in both ways or in neither, and in the zone with the id below it. -/
structure AlikeInZone (zone : String) (alone below : Except Failure (Held Actor)) : Prop where
  made : below.isOk = alone.isOk
  id : ∀ x y, alone = .ok x → below = .ok y → y.content.id = zoned zone x.content.id

/-- In a zone a user is made of every object. -/
theorem exists_user_of_zone (s : Store) (r : Ref) {zone : String} (h : zone ≠ "") :
    ∃ x, (user s r (.text zone)).1 = .ok x ∧ x.content.kind = .user ∧
      x.content.id = zoned zone (s.view r).shown := by
  refine ⟨⟨s.cells.size, .user, _, zoned_ne_empty zone (s.view r).shown⟩, ?_, rfl, rfl⟩
  rw [user, userId_text s r h]
  exact make_eq_ok.mpr ⟨rfl, rfl, rfl⟩

theorem alikeInZone_iff (s : Store) (r : Ref) {zone : String} (h : zone ≠ "") :
    AlikeInZone zone (user s r .none).1 (user s r (.text zone)).1 ↔ ∃ t, t ≠ "" ∧ r = .text t := by
  obtain ⟨y, hy, -, hid⟩ := exists_user_of_zone s r h
  constructor
  · rintro ⟨made, id⟩
    cases hx : (user s r .none).1 with
    | error e => simp [hx, hy, Except.isOk, Except.toBool] at made
    | ok x =>
      have read : s.checkText r = .ok x.content.id := (make_eq_ok.mp hx).2.2
      have shown : (s.view r).shown = x.content.id :=
        zoned_right_inj.mp (hid.symm.trans (id x y hx hy))
      obtain ⟨t, rfl⟩ := Store.eq_text_of_checkText (shown ▸ read)
      obtain rfl : t = x.content.id := Except.ok.inj read
      exact ⟨_, x.content.id_ne_empty, rfl⟩
  · rintro ⟨t, ht, rfl⟩
    have alone : (user s (.text t) .none).1 = .ok ⟨s.cells.size, .user, t, ht⟩ :=
      make_eq_ok.mpr ⟨rfl, rfl, rfl⟩
    refine ⟨by rw [alone, hy]; rfl, fun x y' hx hy' => ?_⟩
    obtain rfl := Except.ok.inj (alone.symm.trans hx)
    obtain rfl := Except.ok.inj (hy.symm.trans hy')
    rw [hid, Store.view, Ref.text, Store.viewBelow_scalar]
    rfl

end Actor

namespace PermissionBuilder

def Outcome.actor (o : Outcome) : Except Failure (Option (Held Actor)) :=
  o.result.map fun _ => o.builder.actor

theorem actor_perform_user (b : PermissionBuilder) (s : Store) (id zone : Ref) :
    (b.perform s (.user id zone)).actor = (Actor.user s id zone).1.map some := by
  rw [perform]
  rcases Actor.user s id zone with ⟨e | x, t⟩ <;> rfl

end PermissionBuilder

/-- In a zone that is not empty a user is made of every object, under what is shown of the object.
So the zone only stands before the id that the user has alone, and nothing is accepted for it, when
the user is given as a text that is not empty, and for no other object. A builder is given the same
users. -/
theorem users_alike_in_zone_iff_filled_text (s : Store) (r : Ref) {zone : String}
    (h : zone ≠ "") :
    (∃ x, (Actor.user s r (.text zone)).1 = .ok x ∧ x.content.kind = .user ∧
      x.content.id = zone ++ "/" ++ (s.view r).shown) ∧
    (Actor.AlikeInZone zone (Actor.user s r .none).1 (Actor.user s r (.text zone)).1 ↔
      ∃ t, t ≠ "" ∧ r = .text t) ∧
    ∀ (b : PermissionBuilder) (z : Ref),
      (b.perform s (.user r z)).actor = (Actor.user s r z).1.map some :=
  ⟨Actor.exists_user_of_zone s r h, Actor.alikeInZone_iff s r h,
    fun b z => b.actor_perform_user s r z⟩

/-- Octets make a user alone under what they read as, and in a zone under what is shown of them. -/
theorem octets_not_alike_in_zone :
    let bob : Ref := .scalar (.octets [0x62, 0x6F, 0x62])
    (∃ x, (Actor.user .empty bob .none).1 = .ok x ∧ x.content.id = "bob") ∧
    (∃ y, (Actor.user .empty bob (.text "zone")).1 = .ok y ∧ y.content.id = "zone/b'bob'") ∧
    ¬ Actor.AlikeInZone "zone" (Actor.user .empty bob .none).1
      (Actor.user .empty bob (.text "zone")).1 := by
  intro bob
  have filled : "zone" ≠ "" := by decide
  obtain ⟨⟨y, hy, -, hid⟩, alike, -⟩ := users_alike_in_zone_iff_filled_text .empty bob filled
  refine ⟨⟨_, rfl, rfl⟩, ⟨y, hy, hid⟩, fun both => ?_⟩
  obtain ⟨t, -, ht⟩ := alike.mp both
  simp [bob, Ref.text] at ht

/-- An empty text makes no user alone, and one in a zone. -/
theorem empty_user_made_in_zone :
    (Actor.user .empty (.text "") .none).1 =
      .error (.validation ⟨"Actor", [⟨[.field "id"], .emptyText⟩]⟩) ∧
    (∃ y, (Actor.user .empty (.text "") (.text "zone")).1 = .ok y ∧ y.content.id = "zone/") ∧
    ¬ Actor.AlikeInZone "zone" (Actor.user .empty (.text "") .none).1
      (Actor.user .empty (.text "") (.text "zone")).1 :=
  ⟨rfl, ⟨_, rfl, rfl⟩, fun both => nomatch both.made⟩

end CredentialWrite
