import CredentialWrite.Proofs.Session.Steps

/-!
# What an action leaves alone

An action that updates nothing below a reference, and does not read an iterator there, leaves the
value as it is; and what an action that updates does reach afterwards was reached before, from the
same reference or from what was stored. So two references that lead to nothing in common go on like
this until something below one of them is stored below the other.
-/

namespace CredentialWrite

namespace Store

variable {s t u : Store} {p r : Ref} {a b : Address} {x : Action}

theorem Sound.lt_of_reaches (hs : s.Sound) (hr : s.Has r) (h : s.Reaches r a) :
    a < s.cells.size := by
  induction h with
  | here h =>
    subst h
    exact hr
  | part _ hc hb _ => exact (hs.supports _ _ hc).parts _ hb

def NoIterators (s : Store) (r : Ref) : Prop :=
  ∀ a, s.Reaches r a → ∀ rest, s.cell? a ≠ some (.iterator rest)

theorem AlikeFrom.reaches_iff (h : s.AlikeFrom t r) : t.Reaches r a ↔ s.Reaches r a := by
  constructor
  · intro k
    induction k with
    | here h => exact .here h
    | part _ hc hb ih =>
      obtain ⟨c, d, hs, ht, hcd⟩ := h _ ih
      obtain rfl := Option.some.inj (ht.symm.trans hc)
      exact .part ih hs (hcd.parts ▸ hb)
  · intro k
    induction k with
    | here h => exact .here h
    | part k hc hb ih =>
      obtain ⟨c, d, hs, ht, hcd⟩ := h _ k
      obtain rfl := Option.some.inj (hs.symm.trans hc)
      exact .part ih ht (hcd.parts.symm ▸ hb)

theorem AlikeFrom.trans (h : s.AlikeFrom t r) (k : t.AlikeFrom u r) : s.AlikeFrom u r := by
  intro a ha
  obtain ⟨c, d, hc, hd, hcd⟩ := h a ha
  obtain ⟨d', e, hd', he, hde⟩ := k a (h.reaches_iff.mpr ha)
  obtain rfl := Option.some.inj (hd.symm.trans hd')
  exact ⟨c, e, hc, he, hcd.trans hde⟩

theorem Sound.alikeFrom_refl (hs : s.Sound) (hr : s.Has r) : s.AlikeFrom s r := by
  intro a ha
  obtain ⟨c, hc⟩ := exists_cell?_of_lt (hs.lt_of_reaches hr ha)
  exact ⟨c, c, hc, hc, .refl c⟩

theorem AlikeFrom.noIterators (h : s.AlikeFrom t r) (hi : s.NoIterators r) : t.NoIterators r := by
  intro a ha rest ht
  obtain ⟨c, d, hc, hd, hcd⟩ := h a (h.reaches_iff.mp ha)
  obtain rfl := Option.some.inj (hd.symm.trans ht)
  cases hcd
  exact hi a (h.reaches_iff.mp ha) rest hc

/-- The payload of a request is that of its value. -/
theorem payloadOf_eq_of_view {q : StoredRequest} (h : t.view q.value = s.view q.value) :
    (t.payloadOf q).1 = (s.payloadOf q).1 := by
  simp only [payloadOf, readRequest, viewRequest, WriteRequest.map, h]

def Apart (s : Store) (p r : Ref) : Prop := ∀ a, s.Reaches p a → ¬ s.Reaches r a

end Store

namespace Action

def Spares (s : Store) (r : Ref) (x : Action) : Prop := ∀ a, x.Updates a → ¬ s.Reaches r a

/-- An action that stores nothing from below one of two references below the other. -/
def KeepsApart (p r : Ref) (s : Store) (x : Action) : Prop :=
  ∀ a, x.Updates a → ∀ y ∈ x.stored,
    (s.Reaches p a → s.Apart y r) ∧ (s.Reaches r a → s.Apart y p)

theorem Updates.unique {x : Action} {a b : Address} (h : x.Updates a) (k : x.Updates b) : a = b :=
  Ref.address.inj (Option.some.inj (h.symm.trans k))

end Action

namespace Store

variable {s t : Store} {p r : Ref} {a b : Address} {x : Action}

theorem Steps.alikeFrom (h : s.Steps x t) (hs : s.Sound) (hr : s.Has r) (hi : s.NoIterators r)
    (hx : x.Spares s r) : s.AlikeFrom t r := by
  intro a ha
  obtain ⟨c, hc⟩ := exists_cell?_of_lt (hs.lt_of_reaches hr ha)
  obtain ⟨d, hd, hcd | ⟨hu, -⟩⟩ := h.cell hc
  · exact ⟨c, d, hc, hd, hcd.alike fun rest hrest => hi a ha rest (hrest ▸ hc)⟩
  · exact absurd ha (hx a hu)

theorem Steps.alikeFrom_of_updates (h : s.Steps x t) (hs : s.Sound) (hr : s.Has r)
    (hx : x.Updates a) (ha : ¬ s.Reaches r a) : s.AlikeFrom t r := by
  intro b hb
  obtain ⟨c, hc⟩ := exists_cell?_of_lt (hs.lt_of_reaches hr hb)
  have hba : b ≠ a := fun hba => ha (hba ▸ hb)
  exact ⟨c, c, hc, (h.cell_of_ne hx hba).trans hc, .refl c⟩

/-- The parts that an object has after an action: its own, or what the action stores in it. -/
theorem Steps.parts (h : s.Steps x t) (ha : a < s.cells.size) {d : Cell} (hd : t.cell? a = some d)
    {y : Ref} (hy : y ∈ d.parts) :
    (∃ c, s.cell? a = some c ∧ y ∈ c.parts) ∨ x.Updates a ∧ y ∈ x.stored := by
  obtain ⟨c, hc⟩ := exists_cell?_of_lt ha
  obtain ⟨e, he, hce⟩ := h.cell hc
  obtain rfl := Option.some.inj (hd.symm.trans he)
  rcases hce with hce | ⟨hu, hce⟩
  · exact .inl ⟨c, hc, hce.parts_subset hy⟩
  · exact (hce.parts hy).imp (fun hy => ⟨c, hc, hy⟩) fun hy => ⟨hu, hy⟩

/-- What is reached after an action was reached before it, from the same reference or from what was
stored below it. -/
theorem Steps.reaches (h : s.Steps x t) (hs : s.Sound) (hx : x.Given s) (hr : s.Has r)
    (k : t.Reaches r b) :
    s.Reaches r b ∨ ∃ a, x.Updates a ∧ s.Reaches r a ∧ ∃ y ∈ x.stored, s.Reaches y b := by
  induction k with
  | here h => exact .inl (.here h)
  | part _ hd hb ih =>
    rcases ih with ih | ⟨e, hu, he, y, hy, ih⟩
    · rcases h.parts (hs.lt_of_reaches hr ih) hd hb with ⟨c, hc, hb⟩ | ⟨hu, hb⟩
      · exact .inl (.part ih hc hb)
      · exact .inr ⟨_, hu, ih, _, hb, .here rfl⟩
    · rcases h.parts (hs.lt_of_reaches (hx.stored y hy) ih) hd hb with ⟨c, hc, hb⟩ | ⟨-, hb⟩
      · exact .inr ⟨e, hu, he, y, hy, .part ih hc hb⟩
      · exact .inr ⟨e, hu, he, _, hb, .here rfl⟩

theorem Steps.apart (h : s.Steps x t) (hs : s.Sound) (hx : x.Given s) (hp : s.Has p)
    (hr : s.Has r) (ha : s.Apart p r) (hk : x.KeepsApart p r s) : t.Apart p r := by
  intro b hpb hrb
  rcases h.reaches hs hx hp hpb with hpb | ⟨a, hu, hpa, y, hy, hyb⟩
  · rcases h.reaches hs hx hr hrb with hrb | ⟨a, hu, hra, y, hy, hyb⟩
    · exact ha b hpb hrb
    · exact (hk a hu y hy).2 hra b hyb hpb
  · rcases h.reaches hs hx hr hrb with hrb | ⟨a', hu', hra, -⟩
    · exact (hk a hu y hy).1 hpa b hyb hrb
    · exact ha a hpa (hu.unique hu' ▸ hra)

end Store

namespace Session

open Store

variable {σ τ : Session} {p r : Ref}

/-- A value is seen alike after a run that updates nothing below it. -/
theorem Leads.alikeFrom (h : Leads (fun _ x => x.Spares σ.store r) σ τ) (hs : σ.store.Sound)
    (hr : σ.store.Has r) (hi : σ.store.NoIterators r) : σ.store.AlikeFrom τ.store r := by
  induction h with
  | start => exact hs.alikeFrom_refl hr
  | @step τ h x hx hp ih =>
    have sound := h.sound hs
    have spares : x.Spares τ.store r := fun a ha k => hp a ha (ih.reaches_iff.mp k)
    exact ih.trans ((steps_perform sound hx).alikeFrom sound (hr.mono (h.evolves hs))
      (ih.noIterators hi) spares)

theorem Leads.view_eq (h : Leads (fun _ x => x.Spares σ.store r) σ τ) (hs : σ.store.Sound)
    (hr : σ.store.Has r) (hi : σ.store.NoIterators r) : τ.store.view r = σ.store.view r :=
  view_eq_of_alike hs.younger (h.evolves hs).size_le (h.alikeFrom hs hr hi)

theorem Leads.apart (h : Leads (fun ρ x => x.KeepsApart p r ρ.store) σ τ) (hs : σ.store.Sound)
    (hp : σ.store.Has p) (hr : σ.store.Has r) (ha : σ.store.Apart p r) : τ.store.Apart p r := by
  induction h with
  | start => exact ha
  | step h hx hk ih =>
    have sound := h.sound hs
    have evolved := h.evolves hs
    exact (steps_perform sound hx).apart sound hx (hp.mono evolved) (hr.mono evolved) ih hk

/-- An update that is not below a reference leaves the value as it is. -/
theorem view_perform_eq {x : Action} (hs : σ.store.Sound) (hx : x.Given σ.store)
    (hr : σ.store.Has r) {a : Address} (hu : x.Updates a) (ha : ¬ σ.store.Reaches r a) :
    (σ.perform x).2.store.view r = σ.store.view r := by
  have steps := steps_perform hs hx
  exact view_eq_of_alike hs.younger steps.evolves.size_le (steps.alikeFrom_of_updates hs hr hu ha)

end Session

end CredentialWrite
