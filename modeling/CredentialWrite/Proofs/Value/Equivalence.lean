import CredentialWrite.Proofs.Value.Numbers
import CredentialWrite.Proofs.Value.Trees
import Mathlib.Data.List.Forall2

/-!
# Equality of values is an equivalence

On finite trees, equality inside containers is an equivalence, and only a float that is no number
differs from its equality on its own. A tree is compared with its parts: scalars and buffers with
each other, sequences in pairs, and collections by partners, which are told apart because no
collection has two equal members.
-/

namespace CredentialWrite

section Pairs

variable {α : Type} {R : α → α → Prop} {xs ys zs : List α}

theorem pairs_symm (symm : ∀ x ∈ xs, ∀ y ∈ ys, R x y → R y x) (h : List.Forall₂ R xs ys) :
    List.Forall₂ R ys xs := by
  induction h with
  | nil => exact .nil
  | @cons x y xs ys hxy _ ih =>
    refine .cons (symm x List.mem_cons_self y List.mem_cons_self hxy) (ih fun x' hx' y' hy' => ?_)
    exact symm x' (List.mem_cons_of_mem x hx') y' (List.mem_cons_of_mem y hy')

theorem pairs_trans (trans : ∀ x ∈ xs, ∀ y ∈ ys, ∀ z ∈ zs, R x y → R y z → R x z)
    (h : List.Forall₂ R xs ys) (k : List.Forall₂ R ys zs) : List.Forall₂ R xs zs := by
  induction h generalizing zs with
  | nil =>
    cases k
    exact .nil
  | @cons x y xs ys hxy _ ih =>
    cases k with
    | @cons _ z _ zs hyz k =>
      refine .cons (trans x List.mem_cons_self y List.mem_cons_self z List.mem_cons_self hxy hyz)
        (ih (fun x' hx' y' hy' z' hz' => ?_) k)
      exact trans x' (List.mem_cons_of_mem x hx') y' (List.mem_cons_of_mem y hy') z'
        (List.mem_cons_of_mem z hz')

/-- Where every member of a list has a partner of its own in another as long, the lists are in pairs
but for the order of the second. -/
theorem exists_matching (length : xs.length = ys.length) (partner : ∀ x ∈ xs, ∃ y ∈ ys, R x y)
    (own : xs.Pairwise fun x x' => ∀ y ∈ ys, R x y → ¬ R x' y) :
    ∃ zs, zs.Perm ys ∧ List.Forall₂ R xs zs := by
  induction xs generalizing ys with
  | nil =>
    obtain rfl : ys = [] := List.eq_nil_of_length_eq_zero length.symm
    exact ⟨[], .nil, .nil⟩
  | cons x xs ih =>
    obtain ⟨y, hym, hxy⟩ := partner x List.mem_cons_self
    obtain ⟨own_x, own_xs⟩ := List.pairwise_cons.mp own
    obtain ⟨before, after, rfl⟩ := List.append_of_mem hym
    have moved : (y :: (before ++ after)).Perm (before ++ y :: after) := List.perm_middle.symm
    have sub : ∀ y' ∈ before ++ after, y' ∈ before ++ y :: after := fun y' hy' =>
      moved.subset (List.mem_cons_of_mem y hy')
    obtain ⟨zs, hp, hz⟩ : ∃ zs, zs.Perm (before ++ after) ∧ List.Forall₂ R xs zs := by
      refine ih ?_ ?_ (own_xs.imp fun h y' hy' => h y' (sub y' hy'))
      · simpa using length.trans moved.length_eq.symm
      · -- The partner of another member is not the one that was taken out.
        intro x' hx'
        obtain ⟨y', hy', hr⟩ := partner x' (List.mem_cons_of_mem x hx')
        have hne : y' ≠ y := fun he => own_x x' hx' y hym hxy (he ▸ hr)
        exact ⟨y', (List.mem_cons.mp (moved.symm.subset hy')).resolve_left hne, hr⟩
    exact ⟨y :: zs, (hp.cons y).trans moved, .cons hxy hz⟩

theorem exists_of_pairs (h : List.Forall₂ R xs ys) : ∀ y ∈ ys, ∃ x ∈ xs, R x y := by
  induction h with
  | nil => simp
  | @cons x y xs ys hxy _ ih =>
    rintro y' (_ | ⟨_, hy'⟩)
    · exact ⟨x, List.mem_cons_self, hxy⟩
    · obtain ⟨x', hx', hr⟩ := ih y' hy'
      exact ⟨x', List.mem_cons_of_mem x hx', hr⟩

/-- There all members of the second list are partners too. -/
theorem exists_partner (length : xs.length = ys.length) (partner : ∀ x ∈ xs, ∃ y ∈ ys, R x y)
    (own : xs.Pairwise fun x x' => ∀ y ∈ ys, R x y → ¬ R x' y) : ∀ y ∈ ys, ∃ x ∈ xs, R x y := by
  obtain ⟨zs, hp, hz⟩ := exists_matching length partner own
  exact fun y hy => exists_of_pairs hz y (hp.symm.subset hy)

end Pairs

theorem Credential.same_trans {c d e : Credential} (hcd : c.same d = true)
    (hde : d.same e = true) : c.same e = true := by
  cases c <;> cases d <;> simp [same] at hcd <;> cases e <;> simp [same] at hde ⊢ <;> grind

theorem Record.same_trans {r s t : Record} (hrs : r.same s = true) (hst : s.same t = true) :
    r.same t = true := by
  cases r with
  | credential c =>
    cases s with
    | credential d =>
      cases t with
      | credential e => exact Credential.same_trans hrs hst
      | _ => cases hst
    | _ => cases hrs
  | _ =>
    cases s <;> simp [same, CredentialName.same] at hrs
    cases t <;> simp [same, CredentialName.same] at hst ⊢
    grind

theorem Record.same_comm (r s : Record) : r.same s = s.same r := by
  cases r <;> cases s <;> simp [same, CredentialName.same, Credential.same_comm, eq_comm]

namespace Value

variable {x y z : Value}

def isNan : Value → Bool
  | scalar (.float .nan _) => true
  | _ => false

/-- Finite trees, whatever stands as a key. No two members of a set are equal, nor two keys of a
mapping. -/
inductive IsComparable : Value → Prop
  | scalar (s : Scalar) : IsComparable (.scalar s)
  | buffer (a : Address) (content : List UInt8) : IsComparable (.buffer a content)
  | sequence (a : Address) (shape : SequenceShape) {items : List Value}
      (h : ∀ x ∈ items, IsComparable x) : IsComparable (.sequence a shape items)
  | set (a : Address) {items : List Value} (h : ∀ x ∈ items, IsComparable x)
      (distinct : items.Pairwise fun x y => x.same y = false) : IsComparable (.set a items)
  | mapping (a : Address) (readOnly : Bool) {entries : List (Value × Value)}
      (keys : ∀ e ∈ entries, IsComparable e.1)
      (distinct : entries.Pairwise fun e f => e.1.same f.1 = false)
      (h : ∀ e ∈ entries, IsComparable e.2) : IsComparable (.mapping a readOnly entries)
  | record (a : Address) (r : Record) : IsComparable (.record a r)
  | request (a : Address) {q : WriteRequest CredentialName Permission Value}
      (h : IsComparable q.value) : IsComparable (.request a q)

theorem itemsWithin_iff {xs ys : List Value} :
    itemsWithin xs ys = true ↔ ∀ x ∈ xs, ∃ y ∈ ys, x.same y = true := by
  induction xs with
  | nil => simp [itemsWithin]
  | cons x xs ih => simp [itemsWithin, ih]

theorem entriesWithin_iff {es fs : List (Value × Value)} :
    entriesWithin es fs = true ↔
      ∀ e ∈ es, ∃ f ∈ fs, e.1.same f.1 = true ∧ e.2.same f.2 = true := by
  induction es with
  | nil => simp [entriesWithin]
  | cons e es ih => simp [entriesWithin, ih]

theorem sameItems_iff {xs ys : List Value} :
    sameItems xs ys = true ↔ List.Forall₂ (fun x y => x.same y = true) xs ys := by
  induction xs generalizing ys with
  | nil => cases ys <;> simp [sameItems]
  | cons x xs ih => cases ys <;> simp [sameItems, ih]

theorem same_request {a b : Address} {q r : WriteRequest CredentialName Permission Value} :
    (request a q).same (.request b r) = true ↔ q.overwrite = r.overwrite ∧
      q.name.path = r.name.path ∧ q.kind = r.kind ∧ q.value.same r.value = true ∧
        q.permissions = r.permissions := by
  simp [same, CredentialName.same, and_assoc]

namespace IsComparable

theorem hasLoop (h : IsComparable x) : x.hasLoop = false := by
  induction h with
  | scalar s => rfl
  | buffer a content => rfl
  | sequence a shape h ih => exact itemsHaveLoop_eq_false ih
  | set a h distinct ih => exact itemsHaveLoop_eq_false ih
  | mapping a readOnly keys distinct h ihk ih =>
    exact entriesHaveLoop_eq_false fun e he => ⟨ihk e he, ih e he⟩
  | record a r => rfl
  | request a h ih => exact ih

theorem same_refl (h : IsComparable x) : x.same x = true := by
  induction h with
  | scalar s => exact Scalar.same_refl s
  | buffer a content => simp [same]
  | sequence a shape h ih => simpa [same, sameItems_iff, List.forall₂_same] using ih
  | set a h distinct ih =>
    simp only [same, decide_true, Bool.true_and, itemsWithin_iff]
    exact fun x hx => ⟨x, hx, ih x hx⟩
  | mapping a readOnly keys distinct h ihk ih =>
    simp only [same, decide_true, Bool.true_and, entriesWithin_iff]
    exact fun e he => ⟨e, he, ihk e he, ih e he⟩
  | record a r => exact Record.same_refl r
  | request a h ih => exact same_request.mpr ⟨rfl, rfl, rfl, ih, rfl⟩

end IsComparable

/-! ### What a value is equal to -/

def leaf? : Value → Option Scalar
  | scalar s => some s
  | buffer _ content => some (.octets content)
  | _ => none

theorem same_leaf_iff {s : Scalar} (hx : x.leaf? = some s) (hy : IsComparable y) :
    x.same y = true ↔ ∃ t, y.leaf? = some t ∧ s.same t = true := by
  cases x with
  | scalar s' =>
    cases hx
    cases hy with
    | buffer b content =>
      cases s <;> simp [same, leaf?, Scalar.same, Scalar.equal, Scalar.number?]
    | scalar t => simp [same, leaf?]
    | _ => cases s <;> simp [same, leaf?]
  | buffer a content =>
    cases hx
    cases hy with
    | buffer b content' => simp [same, leaf?, Scalar.same, Scalar.equal, Scalar.number?]
    | scalar t =>
      cases t <;> simp [same, leaf?, Scalar.same, Scalar.equal, Scalar.number?]
    | _ => simp [same, leaf?]
  | _ => cases hx

theorem same_sequence_iff {a : Address} {shape : SequenceShape} {xs : List Value}
    (hy : IsComparable y) : (sequence a shape xs).same y = true ↔
      ∃ b ys, y = .sequence b shape ys ∧ List.Forall₂ (fun x y => x.same y = true) xs ys := by
  cases hy with
  | @sequence b shape' ys h =>
    simp only [same, Bool.and_eq_true, decide_eq_true_eq, sameItems_iff]
    constructor
    · rintro ⟨rfl, hs⟩
      exact ⟨b, ys, rfl, hs⟩
    · rintro ⟨_, _, e, hs⟩
      cases e
      exact ⟨rfl, hs⟩
  | _ => simp [same]

theorem same_set_iff {a : Address} {xs : List Value} (hy : IsComparable y) :
    (set a xs).same y = true ↔ ∃ b ys, y = .set b ys ∧ xs.length = ys.length ∧
      ∀ x ∈ xs, ∃ y ∈ ys, x.same y = true := by
  cases hy with
  | @set b ys h distinct =>
    simp only [same, Bool.and_eq_true, decide_eq_true_eq, itemsWithin_iff]
    constructor
    · rintro ⟨hl, hs⟩
      exact ⟨b, ys, rfl, hl, hs⟩
    · rintro ⟨_, _, e, hl, hs⟩
      cases e
      exact ⟨hl, hs⟩
  | _ => simp [same]

theorem same_mapping_iff {a : Address} {readOnly : Bool} {es : List (Value × Value)}
    (hy : IsComparable y) : (mapping a readOnly es).same y = true ↔
      ∃ b readOnly' fs, y = .mapping b readOnly' fs ∧ es.length = fs.length ∧
        ∀ e ∈ es, ∃ f ∈ fs, e.1.same f.1 = true ∧ e.2.same f.2 = true := by
  cases hy with
  | @mapping b readOnly' fs keys distinct h =>
    simp only [same, Bool.and_eq_true, decide_eq_true_eq, entriesWithin_iff]
    constructor
    · rintro ⟨hl, hs⟩
      exact ⟨b, readOnly', fs, rfl, hl, hs⟩
    · rintro ⟨_, _, _, e, hl, hs⟩
      cases e
      exact ⟨hl, hs⟩
  | _ => simp [same]

theorem same_record_iff {a : Address} {r : Record} (hy : IsComparable y) :
    (record a r).same y = true ↔ ∃ b t, y = .record b t ∧ r.same t = true := by
  cases hy <;> simp [same]

theorem exists_of_same_request {a : Address} {q : WriteRequest CredentialName Permission Value}
    (hy : IsComparable y) (h : (request a q).same y = true) : ∃ b r, y = .request b r := by
  cases hy with
  | @request b r hr => exact ⟨b, r, rfl⟩
  | _ => simp [same] at h

/-! ### Symmetry and transitivity -/

/-- Equality starting at a value goes back and goes on. -/
structure Agrees (x : Value) : Prop where
  symm : ∀ y, IsComparable y → x.same y = true → y.same x = true
  trans : ∀ y z, IsComparable y → IsComparable z → x.same y = true → y.same z = true →
    x.same z = true

/-- Values that are equal to one thing are equal to each other. -/
theorem Agrees.same_of_same (hx : Agrees x) (hy : Agrees y) (cy : IsComparable y)
    (cz : IsComparable z) (hxz : x.same z = true) (hyz : y.same z = true) : x.same y = true :=
  hx.trans z y cz cy hxz (hy.symm z cz hyz)

theorem agrees_leaf {s : Scalar} (cx : IsComparable x) (hx : x.leaf? = some s) : Agrees x where
  symm y cy h := by
    obtain ⟨t, ht, hst⟩ := (same_leaf_iff hx cy).mp h
    exact (same_leaf_iff ht cx).mpr ⟨s, hx, (Scalar.same_comm t s).trans hst⟩
  trans y z cy cz hxy hyz := by
    obtain ⟨t, ht, hst⟩ := (same_leaf_iff hx cy).mp hxy
    obtain ⟨u, hu, htu⟩ := (same_leaf_iff ht cz).mp hyz
    exact (same_leaf_iff hx cz).mpr ⟨u, hu, Scalar.same_trans hst htu⟩

theorem agrees_sequence (a : Address) (shape : SequenceShape) {xs : List Value}
    (cx : ∀ x ∈ xs, IsComparable x) (ih : ∀ x ∈ xs, Agrees x) :
    Agrees (.sequence a shape xs) where
  symm y cy h := by
    obtain ⟨b, ys, rfl, hs⟩ := (same_sequence_iff cy).mp h
    cases cy with
    | sequence _ _ cys =>
      refine (same_sequence_iff (.sequence a shape cx)).mpr ⟨a, xs, rfl, ?_⟩
      exact pairs_symm (fun x hx y hy => (ih x hx).symm y (cys y hy)) hs
  trans y z cy cz hxy hyz := by
    obtain ⟨b, ys, rfl, hs⟩ := (same_sequence_iff cy).mp hxy
    obtain ⟨c, zs, rfl, hs'⟩ := (same_sequence_iff cz).mp hyz
    cases cy with
    | sequence _ _ cys =>
      cases cz with
      | sequence _ _ czs =>
        refine (same_sequence_iff (.sequence c shape czs)).mpr ⟨c, zs, rfl, ?_⟩
        exact pairs_trans (fun x hx y hy z hz => (ih x hx).trans y z (cys y hy) (czs z hz)) hs hs'

theorem agrees_set (a : Address) {xs : List Value} (cx : ∀ x ∈ xs, IsComparable x)
    (distinct : xs.Pairwise fun x y => x.same y = false) (ih : ∀ x ∈ xs, Agrees x) :
    Agrees (.set a xs) where
  symm y cy h := by
    obtain ⟨b, ys, rfl, hl, hs⟩ := (same_set_iff cy).mp h
    cases cy with
    | set _ cys _ =>
      refine (same_set_iff (.set a cx distinct)).mpr ⟨a, xs, rfl, hl.symm, fun y hy => ?_⟩
      -- Two members with one partner would be equal.
      have own : xs.Pairwise fun x x' => ∀ y ∈ ys, x.same y = true → ¬ x'.same y = true := by
        refine distinct.imp_of_mem fun {x x'} hx hx' apart y hy hxy hxy' => ?_
        have := (ih x hx).same_of_same (ih x' hx') (cx x' hx') (cys y hy) hxy hxy'
        simp [apart] at this
      obtain ⟨x, hx, hxy⟩ := exists_partner hl hs own y hy
      exact ⟨x, hx, (ih x hx).symm y (cys y hy) hxy⟩
  trans y z cy cz hxy hyz := by
    obtain ⟨b, ys, rfl, hl, hs⟩ := (same_set_iff cy).mp hxy
    obtain ⟨c, zs, rfl, hl', hs'⟩ := (same_set_iff cz).mp hyz
    cases cy with
    | set _ cys _ =>
      have czs : ∀ z ∈ zs, IsComparable z := by
        cases cz with
        | set _ h _ => exact h
      refine (same_set_iff cz).mpr ⟨c, zs, rfl, hl.trans hl', fun x hx => ?_⟩
      obtain ⟨y, hy, hxy⟩ := hs x hx
      obtain ⟨z, hz, hyz⟩ := hs' y hy
      exact ⟨z, hz, (ih x hx).trans y z (cys y hy) (czs z hz) hxy hyz⟩

theorem agrees_mapping (a : Address) (readOnly : Bool) {es : List (Value × Value)}
    (ck : ∀ e ∈ es, IsComparable e.1) (distinct : es.Pairwise fun e f => e.1.same f.1 = false)
    (cv : ∀ e ∈ es, IsComparable e.2) (ihk : ∀ e ∈ es, Agrees e.1) (ihv : ∀ e ∈ es, Agrees e.2) :
    Agrees (.mapping a readOnly es) where
  symm y cy h := by
    obtain ⟨b, readOnly', fs, rfl, hl, hs⟩ := (same_mapping_iff cy).mp h
    cases cy with
    | mapping _ _ ckf _ cvf =>
      refine (same_mapping_iff (.mapping a readOnly ck distinct cv)).mpr
        ⟨a, readOnly, es, rfl, hl.symm, fun f hf => ?_⟩
      -- Two entries with one partner would have equal keys.
      have own : es.Pairwise fun e e' => ∀ f ∈ fs, e.1.same f.1 = true ∧ e.2.same f.2 = true →
          ¬ (e'.1.same f.1 = true ∧ e'.2.same f.2 = true) := by
        refine distinct.imp_of_mem fun {e e'} he he' apart f hf hef hef' => ?_
        have := (ihk e he).same_of_same (ihk e' he') (ck e' he') (ckf f hf) hef.1 hef'.1
        simp [apart] at this
      obtain ⟨e, he, hk, hv⟩ := exists_partner hl hs own f hf
      exact ⟨e, he, (ihk e he).symm f.1 (ckf f hf) hk, (ihv e he).symm f.2 (cvf f hf) hv⟩
  trans y z cy cz hxy hyz := by
    obtain ⟨b, readOnly', fs, rfl, hl, hs⟩ := (same_mapping_iff cy).mp hxy
    obtain ⟨c, readOnly'', gs, rfl, hl', hs'⟩ := (same_mapping_iff cz).mp hyz
    cases cy with
    | mapping _ _ ckf _ cvf =>
      have cg : ∀ g ∈ gs, IsComparable g.1 ∧ IsComparable g.2 := by
        cases cz with
        | mapping _ _ hk _ hv => exact fun g hg => ⟨hk g hg, hv g hg⟩
      refine (same_mapping_iff cz).mpr ⟨c, readOnly'', gs, rfl, hl.trans hl', fun e he => ?_⟩
      obtain ⟨f, hf, hk, hv⟩ := hs e he
      obtain ⟨g, hg, hk', hv'⟩ := hs' f hf
      exact ⟨g, hg, (ihk e he).trans f.1 g.1 (ckf f hf) (cg g hg).1 hk hk',
        (ihv e he).trans f.2 g.2 (cvf f hf) (cg g hg).2 hv hv'⟩

theorem agrees_record (a : Address) (r : Record) : Agrees (.record a r) where
  symm y cy h := by
    obtain ⟨b, t, rfl, hs⟩ := (same_record_iff cy).mp h
    exact (same_record_iff (.record a r)).mpr ⟨a, r, rfl, (Record.same_comm t r).trans hs⟩
  trans y z cy cz hxy hyz := by
    obtain ⟨b, t, rfl, hs⟩ := (same_record_iff cy).mp hxy
    obtain ⟨c, u, rfl, hs'⟩ := (same_record_iff cz).mp hyz
    exact (same_record_iff cz).mpr ⟨c, u, rfl, Record.same_trans hs hs'⟩

theorem agrees_request (a : Address) {q : WriteRequest CredentialName Permission Value}
    (ih : Agrees q.value) : Agrees (.request a q) where
  symm y cy h := by
    obtain ⟨b, r, rfl⟩ := exists_of_same_request cy h
    obtain ⟨ho, hn, hk, hv, hp⟩ := same_request.mp h
    cases cy with
    | request _ cr =>
      exact same_request.mpr ⟨ho.symm, hn.symm, hk.symm, ih.symm r.value cr hv, hp.symm⟩
  trans y z cy cz hxy hyz := by
    obtain ⟨b, r, rfl⟩ := exists_of_same_request cy hxy
    obtain ⟨c, t, rfl⟩ := exists_of_same_request cz hyz
    obtain ⟨ho, hn, hk, hv, hp⟩ := same_request.mp hxy
    obtain ⟨ho', hn', hk', hv', hp'⟩ := same_request.mp hyz
    cases cy with
    | request _ cr =>
      cases cz with
      | request _ ct =>
        exact same_request.mpr ⟨ho.trans ho', hn.trans hn', hk.trans hk',
          ih.trans r.value t.value cr ct hv hv', hp.trans hp'⟩

namespace IsComparable

theorem agrees (h : IsComparable x) : Agrees x := by
  induction h with
  | scalar s => exact agrees_leaf (.scalar s) rfl
  | buffer a content => exact agrees_leaf (.buffer a content) rfl
  | sequence a shape h ih => exact agrees_sequence a shape h ih
  | set a h distinct ih => exact agrees_set a h distinct ih
  | mapping a readOnly keys distinct h ihk ih =>
    exact agrees_mapping a readOnly keys distinct h ihk ih
  | record a r => exact agrees_record a r
  | request a h ih => exact agrees_request a ih

theorem same_comm (hx : IsComparable x) (hy : IsComparable y) : x.same y = y.same x :=
  Bool.eq_iff_iff.mpr ⟨hx.agrees.symm y hy, hy.agrees.symm x hx⟩

theorem same_trans (hx : IsComparable x) (hy : IsComparable y) (hz : IsComparable z)
    (hxy : x.same y = true) (hyz : y.same z = true) : x.same z = true :=
  hx.agrees.trans y z hy hz hxy hyz

theorem same_of_same (hx : IsComparable x) (hy : IsComparable y) (hz : IsComparable z)
    (hxz : x.same z = true) (hyz : y.same z = true) : x.same y = true :=
  hx.agrees.same_of_same hy.agrees hy hz hxz hyz

end IsComparable

/-- Only a float that is no number is not equal to itself on its own. -/
theorem equal_eq_same (h : x.isNan = false) (y : Value) : x.equal y = x.same y := by
  cases x with
  | scalar s =>
    cases y with
    | scalar t =>
      change s.equal t = s.same t
      rw [Scalar.same, eq_comm, Bool.or_eq_right_iff_imp, decide_eq_true_eq]
      rintro rfl
      cases s with
      | float n copy =>
        cases n with
        | nan => cases h
        | _ => simp [Scalar.equal, Scalar.number?, Number.equal, Binary64.equal]
      | _ => simp [Scalar.equal, Scalar.number?, Number.equal]
    | _ => rfl
  | _ => cases y <;> rfl

theorem IsKey.isComparable (h : IsKey x) : IsComparable x := by
  cases h with
  | scalar s => exact .scalar s
  | tuple a items =>
    refine .sequence a .tuple fun x hx => ?_
    obtain ⟨s, -, rfl⟩ := List.mem_map.mp hx
    exact .scalar s
  | record a r => exact .record a r

end Value

end CredentialWrite
