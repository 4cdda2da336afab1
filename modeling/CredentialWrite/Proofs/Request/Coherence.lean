import CredentialWrite.Proofs.Request.Reading
import Mathlib.Tactic.SplitIfs

/-!
# Coherent builders

A builder is coherent with a store when it holds a name and permissions that stand in the store at
their addresses, and a value that fits its kind. Every call keeps this, and so does time. A
coherent builder with a name and a value builds a request of exactly what it holds.
-/

namespace CredentialWrite

open RequestBuilder

inductive Fits (s : Store) : CredentialKind → Ref → Prop
  | value (t : String) : Fits s .value (.text t)
  | password (t : String) (h : t ≠ "") : Fits s .password (.text t)
  | json {a : Address} {readOnly : Bool} {entries : List (Ref × Ref)}
      (h : s.cell? a = some (.mapping readOnly entries)) : Fits s .json (.address a)
  | user {a : Address} {c : UserCredential} (h : s.cell? a = some (.credential (.user c))) :
      Fits s .user (.address a)
  | certificate {a : Address} {c : CertificateCredential}
      (h : s.cell? a = some (.credential (.certificate c))) : Fits s .certificate (.address a)
  | rsa {a : Address} {c : KeyPair} (h : s.cell? a = some (.credential (.keyPair c)))
      (hs : c.scheme = .rsa) : Fits s .rsa (.address a)
  | ssh {a : Address} {c : KeyPair} (h : s.cell? a = some (.credential (.keyPair c)))
      (hs : c.scheme = .ssh) : Fits s .ssh (.address a)

theorem Fits.evolves {s t : Store} {kind : CredentialKind} {v : Ref} (h : Fits s kind v)
    (k : s.Evolves t) : Fits t kind v := by
  cases h with
  | value x => exact .value x
  | password x hx => exact .password x hx
  | json h =>
    obtain ⟨d, hd, hc⟩ := k _ _ h
    obtain ⟨entries, rfl⟩ := Cell.eq_mapping_of_className hc.className
    exact .json hd
  | user h => exact .user (k.cell?_eq h rfl)
  | certificate h => exact .certificate (k.cell?_eq h rfl)
  | rsa h hs => exact .rsa (k.cell?_eq h rfl) hs
  | ssh h hs => exact .ssh (k.cell?_eq h rfl) hs

namespace RequestBuilder

theorem fits_of_accepts {kind : CredentialKind} {s : Store} {r : Ref}
    (h : accepts kind s r = true) (hp : kind = .password → s.isTrue r = true) :
    Fits s kind r := by
  unfold accepts at h
  split at h
  · exact .value _
  · exact .password _ (by simpa [Store.isTrue] using hp rfl)
  · next hc =>
    obtain ⟨a, rfl, ha⟩ := Store.exists_of_cellOf? hc
    exact .json ha
  · next hc =>
    obtain ⟨a, rfl, ha⟩ := Store.exists_of_cellOf? hc
    exact .user ha
  · next hc =>
    obtain ⟨a, rfl, ha⟩ := Store.exists_of_cellOf? hc
    exact .certificate ha
  · next hc =>
    obtain ⟨a, rfl, ha⟩ := Store.exists_of_cellOf? hc
    exact .rsa ha (of_decide_eq_true h)
  · next hc =>
    obtain ⟨a, rfl, ha⟩ := Store.exists_of_cellOf? hc
    exact .ssh ha (of_decide_eq_true h)
  · cases h

theorem setValue_ok {b b' : RequestBuilder} {s : Store} {r : Ref} (h : b.setValue s r = .ok b') :
    b' = { b with value := some r } ∧ Fits s b.kind r := by
  unfold setValue at h
  split_ifs at h with h1 h2 h3
  cases h
  refine ⟨rfl, fits_of_accepts (by simpa using h2) ?_⟩
  intro hk
  simpa [hk] using h3

theorem setName_ok {b b' : RequestBuilder} {s : Store} {r : Ref} (h : b.setName s r = .ok b') :
    ∃ n : Held CredentialName, n.ref = r ∧ s.cell? n.address = some (.name n.content) ∧
      b' = { b with name := some n } := by
  unfold setName at h
  split_ifs at h with hr
  clear hr
  split at h
  · next a n hc =>
    cases h
    exact ⟨⟨a, n⟩, rfl, hc, rfl⟩
  · cases h

structure Coherent (b : RequestBuilder) (s : Store) : Prop where
  name : ∀ n, b.name = some n → s.cell? n.address = some (.name n.content)
  value : ∀ v, b.value = some v → Fits s b.kind v
  permissions : ∀ p ∈ b.permissions.getD [], permission? s p.ref = some p

namespace Coherent

variable {b : RequestBuilder} {s t : Store}

theorem new (kind : CredentialKind) (s : Store) : Coherent (.new kind) s :=
  ⟨by simp [RequestBuilder.new], by simp [RequestBuilder.new], by simp [RequestBuilder.new]⟩

theorem evolves (h : Coherent b s) (k : s.Evolves t) : Coherent b t :=
  ⟨fun n hn => k.cell?_eq (h.name n hn) rfl, fun v hv => (h.value v hv).evolves k,
    fun p hp => permission?_evolves (h.permissions p hp) k⟩

theorem addPermissions (h : Coherent b s) {ps : List (Held Permission)}
    (hp : ∀ p ∈ ps, permission? s p.ref = some p) : Coherent (b.addPermissions ps) s := by
  refine ⟨h.name, h.value, ?_⟩
  intro p hm
  rcases List.mem_append.mp hm with hm | hm
  · exact h.permissions p hm
  · exact hp p hm

theorem perform_setter (h : Coherent b s) {call : Call} (hc : call ≠ .build) :
    Coherent (b.perform s call).builder (b.perform s call).store := by
  cases call with
  | build => exact absurd rfl hc
  | overwrite flag => exact ⟨h.name, h.value, h.permissions⟩
  | name r =>
    cases hn : b.setName s r with
    | error e => simpa [perform, hn] using h
    | ok b' =>
      obtain ⟨n, -, hcell, rfl⟩ := setName_ok hn
      simp only [perform, hn]
      exact ⟨fun m hm => by cases hm; exact hcell, h.value, h.permissions⟩
  | value r =>
    cases hv : b.setValue s r with
    | error e => simpa [perform, hv] using h
    | ok b' =>
      obtain ⟨rfl, hf⟩ := setValue_ok hv
      simp only [perform, hv]
      exact ⟨h.name, fun v hm => by cases hm; exact hf, h.permissions⟩
  | permission r =>
    cases hp : permission? s r with
    | none => simpa [perform, hp] using h
    | some p =>
      simp only [perform, hp]
      apply h.addPermissions
      intro q hq
      obtain rfl := List.mem_singleton.mp hq
      rw [(permission?_eq_some hp).1, hp]
  | permissions rs =>
    have hr := reads_arguments s rs
    have hs : Coherent b (readArguments s rs).2 := h.evolves (evolves_readArguments s rs)
    cases ha : readArguments s rs with
    | mk result t =>
      rw [ha] at hr hs
      cases result with
      | error e => simpa [perform, ha] using hs
      | ok held =>
        simp only [perform, ha]
        apply hs.addPermissions
        intro p hp
        obtain ⟨hf, rfl⟩ := outcome_eq_ok hr.outcome.symm
        obtain ⟨before, x, after, rfl, hm⟩ := mem_trail_iff.mp (Finding.mem_permissions.mp hp)
        have ht : t = drainAll (drainAll s before) (x :: after) := by
          rw [← drainAll_append]
          exact hr.drained hf
        have hd : (drainAll s before).Evolves t := ht ▸ evolves_drainAll _ _
        exact permission?_evolves (permission?_of_findings hm) hd

end Coherent

theorem heldPermissions_eq {s : Store} {ps : List (Held Permission)}
    (h : ∀ p ∈ ps, permission? s p.ref = some p) :
    s.heldPermissions (ps.map Held.ref) = (ps.map Except.ok, s) := by
  induction ps with
  | nil => rfl
  | cons p rest ih =>
    obtain ⟨-, x, y, hc⟩ := permission?_eq_some (h p List.mem_cons_self)
    have hp : s.heldPermission p.ref = (.ok p, s) := by
      simp [Store.heldPermission, Held.ref, Store.cellOf?, hc]
    simp [Store.heldPermissions, hp, ih fun q hq => h q (List.mem_cons_of_mem p hq)]

end RequestBuilder

theorem Checked.all_ok {α : Type} (place : Nat) (xs : List α) :
    Checked.all place (xs.map Except.ok) = .ok xs := by
  induction xs generalizing place with
  | nil => rfl
  | cons x rest ih =>
    rw [List.map_cons, Checked.all, ih]
    rfl

namespace RequestBuilder

def request (b : RequestBuilder) (n : Held CredentialName) (v : Ref) : StoredRequest where
  declared := .any
  overwrite := b.overwrite
  overwriteGiven := true
  name := n
  kind := b.kind
  value := v
  permissions := b.permissions.getD []
  permissionsGiven := true

/-- A request that stands in the store, with its permissions as a tuple. -/
def Stands (s : Store) (r : Held StoredRequest) : Prop :=
  ∃ listed, s.cell? r.address = some (.request r.content listed) ∧
    s.cell? listed = some (.sequence .tuple (r.content.permissions.map Held.ref))

theorem checkPermissions_eq {s : Store} {a : Address} {ps : List (Held Permission)}
    (ha : s.cell? a = some (.sequence .tuple (ps.map Held.ref)))
    (h : ∀ p ∈ ps, permission? s p.ref = some p) :
    s.checkPermissions (.address a) = (.ok ps, s) := by
  have ht : s.tupleItems? (.address a) = some (ps.map Held.ref, s) := by
    simp [Store.tupleItems?, Store.cellOf?, Store.elements?, ha]
  simp [Store.checkPermissions, ht, heldPermissions_eq h, Checked.all_ok]

theorem checkRequest_eq {b : RequestBuilder} {s : Store} (h : Coherent b s)
    {n : Held CredentialName} {v : Ref} (hn : b.name = some n) {a : Address}
    (ha : s.cell? a = some (.sequence .tuple ((b.permissions.getD []).map Held.ref))) :
    s.checkRequest .any [("credential_name", n.ref), ("overwrite", .bool b.overwrite),
      ("value_type", .scalar (.member (.kind b.kind))), ("value", v),
      ("additional_permissions", .address a)] = (.ok (b.request n v), s) := by
  have hname : s.heldName n.ref = (.ok n, s) := by
    simp [Store.heldName, Held.ref, Store.cellOf?, h.name n hn]
  have hlisted := checkPermissions_eq ha h.permissions
  simp [Store.checkRequest, Store.checkValue, List.lookup_cons, Checked.optional, Checked.required,
    hname, hlisted, Ref.bool, Store.checkFlag, Store.checkKind, Except.map, request]

/-- What is built, with the two tuples of permissions that are made before it. -/
theorem Coherent.build_eq {b : RequestBuilder} {s : Store} (h : Coherent b s)
    {n : Held CredentialName} {v : Ref} (hn : b.name = some n) (hv : b.value = some v) :
    let ps := (b.permissions.getD []).map Held.ref
    let s₁ := (s.alloc (.sequence .tuple ps)).2
    let s₂ := (s₁.alloc (.sequence .tuple ps)).2
    b.build s = (.ok ⟨s₂.cells.size, b.request n v⟩,
      (s₂.alloc (.request (b.request n v) s₁.cells.size)).2) := by
  intro ps s₁ s₂
  have h₁ : s.Extends s₁ := Store.extends_alloc s _
  have hc := checkRequest_eq (v := v) (h.evolves h₁.evolves) hn (Store.cell?_alloc_self s _)
  simp only [RequestBuilder.build, hn, hv, Store.newSequence, Store.makeRequest]
  rw [hc]
  rfl

theorem Coherent.build {b : RequestBuilder} {s : Store} (h : Coherent b s)
    {n : Held CredentialName} {v : Ref} (hn : b.name = some n) (hv : b.value = some v) :
    ∃ r t, b.build s = (.ok r, t) ∧ r.content = b.request n v ∧ s.Extends t ∧ Stands t r := by
  let ps := (b.permissions.getD []).map Held.ref
  let s₁ := (s.alloc (.sequence .tuple ps)).2
  let s₂ := (s₁.alloc (.sequence .tuple ps)).2
  let s₃ := (s₂.alloc (.request (b.request n v) s₁.cells.size)).2
  have h₁ : s.Extends s₁ := Store.extends_alloc s _
  have h₂ : s₁.Extends s₂ := Store.extends_alloc s₁ _
  have h₃ : s₂.Extends s₃ := Store.extends_alloc s₂ _
  refine ⟨_, s₃, h.build_eq hn hv, rfl, h₁.trans (h₂.trans h₃), s₁.cells.size, ?_, ?_⟩
  · exact Store.cell?_alloc_self s₂ _
  · exact h₃ _ _ (Store.cell?_alloc_self s₁ _)

end RequestBuilder

end CredentialWrite
