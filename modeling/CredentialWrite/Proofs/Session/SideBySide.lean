import CredentialWrite.Proofs.Request.Twins
import CredentialWrite.Proofs.Session.Records

/-!
# Runs side by side

Two runs of the same calls that differ only in the values and in which permissions are given. Their
builders and requests stay twins, so their journals are the same, and so are the faults of their
builders: neither depends on a value or on what is in a permission.
-/

namespace CredentialWrite

namespace Cell

/-- Objects of two runs that differ in nothing but values and permissions. -/
inductive Twin : Cell → Cell → Prop
  | requestBuilder {b b' : RequestBuilder} (h : RequestBuilder.Twin b b') :
      Twin (.requestBuilder b) (.requestBuilder b')
  | permissionBuilder {b b' : PermissionBuilder} (h : PermissionBuilder.Twin b b') :
      Twin (.permissionBuilder b) (.permissionBuilder b')
  | request {q q' : StoredRequest} {listed listed' : Address}
      (h : RequestBuilder.TwinRequests q q') : Twin (.request q listed) (.request q' listed')

def IsCallee : Cell → Prop
  | requestBuilder _ | permissionBuilder _ | request _ _ => True
  | _ => False

theorem Twin.isCallee {c c' : Cell} (h : c.Twin c') : c.IsCallee ∧ c'.IsCallee := by
  cases h <;> exact ⟨trivial, trivial⟩

theorem IsCallee.dropItems {c : Cell} (h : c.IsCallee) (n : Nat) : c.dropItems n = c := by
  cases c <;> first | rfl | exact h.elim

theorem IsCallee.not_changed {c d : Cell} (h : c.IsCallee) {stored : List Ref} :
    ¬ c.Changed stored d := by
  intro k
  cases k <;> exact h

end Cell

theorem Store.Steps.cell_of_isCallee {s t : Store} {x : Action} {a : Address} {c : Cell}
    (h : s.Steps x t) (hc : s.cell? a = some c) (hi : c.IsCallee)
    (hx : x.builder? ≠ some (.address a)) : t.cell? a = some c := by
  cases h with
  | stays h => rw [h, hc]
  | grows _ h =>
    obtain ⟨n, hn⟩ := h.cell hc
    rw [hn, hi.dropItems]
  | changes _ h =>
    obtain ⟨b, e, d, -, he, hed, rfl⟩ := h
    by_cases hba : b = a
    · subst hba
      obtain rfl := Option.some.inj (he.symm.trans hc)
      exact absurd hed hi.not_changed
    · exact (cell?_update_of_ne hba).trans hc
  | @builds u b e d hb h _ _ _ ht =>
    obtain ⟨n, hn⟩ := h.cell hc
    have hba : b ≠ a := fun hba => hx (hba ▸ hb)
    rw [ht, cell?_update_of_ne hba, hn, hi.dropItems]

namespace RequestBuilder

variable {b : RequestBuilder} {s : Store}

/-- A request that a call gives is new and stands in the store. -/
theorem Coherent.stands_of_perform (h : b.Coherent s) {call : Call} {r : Held StoredRequest}
    (hr : (b.perform s call).result = .ok (some r)) :
    s.cells.size ≤ r.address ∧ Stands (b.perform s call).store r := by
  obtain ⟨rfl, n, v, hn, hv⟩ := eq_build_of_perform_ok hr
  obtain ⟨q, t, hq, -, -, stands⟩ := h.build hn hv
  have address := h.build_eq hn hv
  rw [result_perform_build, hq] at hr
  rw [store_perform_build, hq]
  rw [hq] at address
  cases hr
  cases address
  refine ⟨?_, stands⟩
  simp only [Store.size_alloc]
  exact Nat.le_add_right _ 2

end RequestBuilder

namespace Session

open Store RequestBuilder

def builtPairs : Except Failure (Option (Held StoredRequest)) →
    Except Failure (Option (Held StoredRequest)) → List (Address × Address)
  | .ok (some r), .ok (some r') => [(r.address, r'.address)]
  | _, _ => []

/-- The same action in two runs, but for values and permissions, with the addresses of what is made
by both. What was made before by both is in pairs. -/
inductive AlikeActions (σ σ' : Session) (ps : List (Address × Address)) :
    Action → Action → List (Address × Address) → Prop
  | make {c c' : Cell} (hc : σ.store.Supports c) (hc' : σ'.store.Supports c') (ht : c.Twin c') :
      AlikeActions σ σ' ps (.create c) (.create c') [(σ.store.cells.size, σ'.store.cells.size)]
  | call {a a' : Address} (hp : (a, a') ∈ ps) {b b' : RequestBuilder}
      (hb : σ.store.cell? a = some (.requestBuilder b))
      (hb' : σ'.store.cell? a' = some (.requestBuilder b')) {c c' : RequestBuilder.Call}
      (hc : RequestBuilder.AlikeCalls b b' σ.store σ'.store c c') :
      AlikeActions σ σ' ps (.callRequestBuilder (.address a) c)
        (.callRequestBuilder (.address a') c')
        (builtPairs (b.perform σ.store c).result (b'.perform σ'.store c').result)
  | grant {a a' : Address} (hp : (a, a') ∈ ps) {b b' : PermissionBuilder}
      (hb : σ.store.cell? a = some (.permissionBuilder b))
      (hb' : σ'.store.cell? a' = some (.permissionBuilder b')) {c c' : PermissionBuilder.Call}
      (hc : PermissionBuilder.AlikeCalls b b' σ.store σ'.store c c') :
      AlikeActions σ σ' ps (.callPermissionBuilder (.address a) c)
        (.callPermissionBuilder (.address a') c') []
  | write {a a' : Address} (hp : (a, a') ∈ ps) {q q' : StoredRequest} {listed listed' : Address}
      (hq : σ.store.cell? a = some (.request q listed))
      (hq' : σ'.store.cell? a' = some (.request q' listed'))
      (hd : (σ'.store.payloadOf q').1.isOk = (σ.store.payloadOf q).1.isOk) (http http' : Ref) :
      AlikeActions σ σ' ps (.buildWrite http (.address a)) (.buildWrite http' (.address a')) []
  | refuse {r r' : Ref} (hr : ∀ q listed, σ.store.cellOf? r ≠ some (.request q listed))
      (hr' : ∀ q listed, σ'.store.cellOf? r' ≠ some (.request q listed))
      (hc : σ'.store.className r' = σ.store.className r) (http http' : Ref) :
      AlikeActions σ σ' ps (.buildWrite http r) (.buildWrite http' r') []
  | configure (hl : (σ'.perform .configureLogging).2.logging =
      (σ.perform .configureLogging).2.logging) :
      AlikeActions σ σ' ps .configureLogging .configureLogging []

/-- Two runs side by side, with the pairs of what was made by both and the faults that were raised,
step by step. Beside the steps that they have in common, each may do silent actions of its own. -/
inductive SideBySide : Session → Session → List (Address × Address) →
    List (Option RequestFault) → List (Option RequestFault) → Prop
  | start {σ σ' : Session} (hs : σ.store.Sound) (hs' : σ'.store.Sound)
      (hl : σ'.logging = σ.logging) (hj : σ'.journal = σ.journal) : SideBySide σ σ' [] [] []
  | left {σ σ' : Session} {ps : List (Address × Address)} {fs fs' : List (Option RequestFault)}
      (h : SideBySide σ σ' ps fs fs') {x : Action} (hx : x.Given σ.store) (hq : x.IsSilent) :
      SideBySide (σ.perform x).2 σ' ps (fs ++ (fault? (σ.perform x).1).toList.map some) fs'
  | right {σ σ' : Session} {ps : List (Address × Address)} {fs fs' : List (Option RequestFault)}
      (h : SideBySide σ σ' ps fs fs') {x : Action} (hx : x.Given σ'.store) (hq : x.IsSilent) :
      SideBySide σ (σ'.perform x).2 ps fs (fs' ++ (fault? (σ'.perform x).1).toList.map some)
  | both {σ σ' : Session} {ps new : List (Address × Address)}
      {fs fs' : List (Option RequestFault)} (h : SideBySide σ σ' ps fs fs') {x x' : Action}
      (hx : AlikeActions σ σ' ps x x' new) :
      SideBySide (σ.perform x).2 (σ'.perform x').2 (ps ++ new)
        (fs ++ [fault? (σ.perform x).1]) (fs' ++ [fault? (σ'.perform x').1])

structure Mirrors (σ σ' : Session) (ps : List (Address × Address)) : Prop where
  sound : σ.store.Sound
  sound' : σ'.store.Sound
  logging : σ'.logging = σ.logging
  journal : σ'.journal = σ.journal
  twins : ∀ p ∈ ps, ∃ c c', σ.store.cell? p.1 = some c ∧ σ'.store.cell? p.2 = some c' ∧ c.Twin c'
  matched : ∀ p ∈ ps, ∀ p' ∈ ps, p.1 = p'.1 ↔ p.2 = p'.2

variable {σ σ' τ τ' : Session} {ps new : List (Address × Address)} {x x' : Action}

theorem Mirrors.after (h : Mirrors σ σ' ps) (k : σ.store.Steps x τ.store)
    (k' : σ'.store.Steps x' τ'.store) (hs : τ.store.Sound) (hs' : τ'.store.Sound)
    (hl : τ'.logging = τ.logging) (hj : τ'.journal = τ.journal)
    (called : ∀ p ∈ ps, x.builder? = some (.address p.1) ∨ x'.builder? = some (.address p.2) →
      ∃ c c', τ.store.cell? p.1 = some c ∧ τ'.store.cell? p.2 = some c' ∧ c.Twin c') :
    Mirrors τ τ' ps := by
  refine ⟨hs, hs', hl, hj, fun p hp => ?_, h.matched⟩
  by_cases hc : x.builder? = some (.address p.1) ∨ x'.builder? = some (.address p.2)
  · exact called p hp hc
  · obtain ⟨hx, hx'⟩ := not_or.mp hc
    obtain ⟨c, c', hc, hc', ht⟩ := h.twins p hp
    exact ⟨c, c', k.cell_of_isCallee hc ht.isCallee.1 hx, k'.cell_of_isCallee hc' ht.isCallee.2 hx',
      ht⟩

/-- What was made by both is paired with each other alone. -/
theorem Mirrors.add (h : Mirrors σ σ' ps) {a a' : Address} {c c' : Cell}
    (hc : σ.store.cell? a = some c) (hc' : σ'.store.cell? a' = some c') (ht : c.Twin c')
    (hn : ∀ p ∈ ps, p.1 < a) (hn' : ∀ p ∈ ps, p.2 < a') : Mirrors σ σ' (ps ++ [(a, a')]) := by
  refine { h with twins := fun p hp => ?_, matched := fun p hp p' hp' => ?_ }
  · rcases List.mem_append.mp hp with hp | hp
    · exact h.twins p hp
    · obtain rfl := List.mem_singleton.mp hp
      exact ⟨c, c', hc, hc', ht⟩
  · rcases List.mem_append.mp hp with hp | hp <;> rcases List.mem_append.mp hp' with hp' | hp'
    · exact h.matched p hp p' hp'
    · obtain rfl := List.mem_singleton.mp hp'
      exact iff_of_false (Nat.ne_of_lt (hn p hp)) (Nat.ne_of_lt (hn' p hp))
    · obtain rfl := List.mem_singleton.mp hp
      exact iff_of_false (Nat.ne_of_gt (hn p' hp')) (Nat.ne_of_gt (hn' p' hp'))
    · obtain rfl := List.mem_singleton.mp hp
      obtain rfl := List.mem_singleton.mp hp'
      exact iff_of_true rfl rfl

theorem Mirrors.lt_size (h : Mirrors σ σ' ps) :
    ∀ p ∈ ps, p.1 < σ.store.cells.size ∧ p.2 < σ'.store.cells.size := by
  intro p hp
  obtain ⟨c, c', hc, hc', -⟩ := h.twins p hp
  exact ⟨lt_size_of_cell? hc, lt_size_of_cell? hc'⟩

/-- Twins that are not called are as they were after steps that tell the same records. -/
theorem Mirrors.perform (h : Mirrors σ σ' ps) (hx : x.Given σ.store) (hx' : x'.Given σ'.store)
    {records : List LogRecord} {f f' : Option RequestFault}
    (tells : Tells σ (σ.perform x) records f) (tells' : Tells σ' (σ'.perform x') records f')
    (called : ∀ p ∈ ps, x.builder? = some (.address p.1) ∨ x'.builder? = some (.address p.2) →
      ∃ c c', (σ.perform x).2.store.cell? p.1 = some c ∧
        (σ'.perform x').2.store.cell? p.2 = some c' ∧ c.Twin c') :
    Mirrors (σ.perform x).2 (σ'.perform x').2 ps := by
  have steps := steps_perform h.sound hx
  have steps' := steps_perform h.sound' hx'
  refine h.after steps steps' (steps.sound h.sound hx) (steps'.sound h.sound' hx') ?_ ?_ called
  · rw [tells.logging, tells'.logging, h.logging]
  · rw [tells.journal, tells'.journal, h.journal]

theorem Mirrors.uncalled (h : Mirrors σ σ' ps) (hx : x.Given σ.store) (hx' : x'.Given σ'.store)
    {records : List LogRecord} {f f' : Option RequestFault}
    (tells : Tells σ (σ.perform x) records f) (tells' : Tells σ' (σ'.perform x') records f')
    (hb : x.builder? = none) (hb' : x'.builder? = none) :
    Mirrors (σ.perform x).2 (σ'.perform x').2 ps :=
  h.perform hx hx' tells tells' fun p _ hc => by simp [hb, hb'] at hc

/-- After a call on builders that are paired, they are the only ones to be compared again. -/
theorem Mirrors.called (h : Mirrors σ σ' ps) {a a' : Address} (hp : (a, a') ∈ ps)
    (hx : x.builder? = some (.address a)) (hx' : x'.builder? = some (.address a'))
    {records : List LogRecord} {f f' : Option RequestFault}
    (tells : Tells σ (σ.perform x) records f) (tells' : Tells σ' (σ'.perform x') records f')
    {c c' : Cell} (hc : (σ.perform x).2.store.cell? a = some c)
    (hc' : (σ'.perform x').2.store.cell? a' = some c') (ht : c.Twin c') :
    Mirrors (σ.perform x).2 (σ'.perform x').2 ps := by
  refine h.perform (.of_builder? hx) (.of_builder? hx') tells tells' fun p hm hcalled => ?_
  -- A builder that is called in one run alone would not be a twin any longer.
  have same : a = p.1 ∧ a' = p.2 := by
    have matched := h.matched (a, a') hp p hm
    rw [hx, hx'] at hcalled
    simp only [Option.some.injEq, Ref.address.injEq] at hcalled
    exact hcalled.elim (fun h => ⟨h, matched.mp h⟩) fun h => ⟨matched.mpr h, h⟩
  rw [← same.1, ← same.2]
  exact ⟨c, c', hc, hc', ht⟩

end Session

end CredentialWrite
