import CredentialWrite.Proofs.Request.History
import Mathlib.Data.List.Forall2

/-!
# Twin builders

Two builders are twins when they differ in nothing but the value and the permissions that they hold;
so are two requests. Calls that tell builders no more than this keep them twins, are refused for the
same reason, and build twins. Why a value is refused depends on the kind and on the class of the
value alone.
-/

namespace CredentialWrite

namespace Cell

/-- No object in a store has the class of a text or of nothing. -/
theorem className_ne (c : Cell) : c.className ≠ "NoneType" ∧ c.className ≠ "str" := by
  cases c with
  | name n => cases hs : n.scheme <;> simp [className, NameScheme.className, hs]
  | sequence shape items => cases shape <;> simp [className]
  | mapping readOnly entries => cases readOnly <;> simp [className]
  | credential c =>
    cases c with
    | keyPair p => cases hs : p.scheme <;> simp [className, Credential.className, hs]
    | _ => simp [className, Credential.className]
  | request q listed =>
    cases hd : q.declared <;> simp [className, ValueDeclaration.className, hd]
  | requestBuilder b =>
    cases hk : b.kind <;> simp [className, ObjectClass.className, ObjectClass.builderName, hk]
  | _ => simp [className, ObjectClass.className]

end Cell

namespace Store

variable {s : Store} {r : Ref}

theorem className_address_ne (s : Store) (a : Address) :
    s.className (.address a) ≠ "NoneType" ∧ s.className (.address a) ≠ "str" := by
  simp only [className]
  cases s.cell? a with
  | none => simp
  | some c => exact c.className_ne

theorem className_eq_none_iff : s.className r = "NoneType" ↔ r.isNone = true := by
  cases r with
  | address a => simp [(s.className_address_ne a).1, Ref.isNone]
  | scalar x =>
    cases x with
    | member m => cases m <;> simp [className, Scalar.className, Member.className, Member.family,
        MemberFamily.className, Ref.isNone]
    | _ => simp [className, Scalar.className, Ref.isNone]

theorem className_eq_text_iff : s.className r = "str" ↔ ∃ t, r = .text t := by
  cases r with
  | address a => simp [(s.className_address_ne a).2, Ref.text]
  | scalar x =>
    cases x with
    | member m => cases m <;> simp [className, Scalar.className, Member.className, Member.family,
        MemberFamily.className, Ref.text]
    | _ => simp [className, Scalar.className, Ref.text]

end Store

namespace RequestBuilder

variable {b b' : RequestBuilder} {s s' : Store} {r r' : Ref}

/-- Two builders that differ in nothing but the value and the permissions that they hold. -/
structure Twin (b b' : RequestBuilder) : Prop where
  kind : b'.kind = b.kind
  name : b'.name.map Held.content = b.name.map Held.content
  overwrite : b'.overwrite = b.overwrite
  value : b'.value.isSome = b.value.isSome
  count : (b'.permissions.getD []).length = (b.permissions.getD []).length

structure TwinRequests (q q' : StoredRequest) : Prop where
  kind : q'.kind = q.kind
  name : q'.name.content = q.name.content
  overwrite : q'.overwrite = q.overwrite
  count : q'.permissions.length = q.permissions.length

theorem Twin.new (kind : CredentialKind) : Twin (.new kind) (.new kind) := ⟨rfl, rfl, rfl, rfl, rfl⟩

def nameFault (className : String) : RequestFault :=
  if className = "NoneType" then .nameIsNone else .wrongName className

def valueFault (kind : CredentialKind) (className : String) : RequestFault :=
  if className = "NoneType" then .valueIsNone kind
  else if kind = .password ∧ className = "str" then .emptyPassword
  else .wrongValue kind className

def nameAt? (s : Store) (r : Ref) : Option CredentialName :=
  match s.cellOf? r with
  | some (.name n) => some n
  | _ => none

theorem setName_of_nameAt (b : RequestBuilder) {n : CredentialName} (h : nameAt? s r = some n) :
    ∃ held : Held CredentialName, held.content = n ∧
      b.setName s r = .ok { b with name := some held } := by
  unfold nameAt? at h
  split at h
  · next hc =>
    cases h
    obtain ⟨a, rfl, ha⟩ := Store.exists_of_cellOf? hc
    exact ⟨⟨a, n⟩, rfl, by simp [setName, Ref.isNone, Store.cellOf?, ha]⟩
  · cases h

theorem setName_of_none (h : nameAt? s r = none) :
    b.setName s r = .error (nameFault (s.className r)) := by
  simp only [setName, nameFault, Store.className_eq_none_iff]
  split
  · rfl
  · split
    · next hc => simp [nameAt?, hc] at h
    · rfl

theorem setValue_error {e : RequestFault} (h : b.setValue s r = .error e) :
    e = valueFault b.kind (s.className r) := by
  unfold setValue at h
  simp only [valueFault, Store.className_eq_none_iff]
  split_ifs at h with hn ha hp
  · cases h
    rw [if_pos hn]
  · cases h
    rw [if_neg hn, if_neg]
    rintro ⟨hk, ht⟩
    obtain ⟨t, rfl⟩ := Store.className_eq_text_iff.mp ht
    simp [hk, accepts, Ref.text] at ha
  · cases h
    simp only [Bool.and_eq_true, decide_eq_true_eq] at hp
    have ht : s.className r = "str" := by
      rw [hp.1] at ha
      unfold accepts at ha
      split at ha <;> simp_all [Store.className, Scalar.className]
    rw [if_neg hn, if_pos ⟨hp.1, ht⟩]

inductive AlikeFindings : Finding → Finding → Prop
  | permission (p p' : Held Permission) : AlikeFindings (.ok p) (.ok p')
  | other (className : String) : AlikeFindings (.error className) (.error className)

theorem firstOther?_eq_of_alike {fs fs' : List Finding} (h : List.Forall₂ AlikeFindings fs fs') :
    Finding.firstOther? fs' = Finding.firstOther? fs := by
  induction h with
  | nil => rfl
  | cons hf _ ih =>
    cases hf with
    | permission p p' => simpa using ih
    | other c => rfl

theorem length_permissions_eq_of_alike {fs fs' : List Finding}
    (h : List.Forall₂ AlikeFindings fs fs') :
    (Finding.permissions fs').length = (Finding.permissions fs).length := by
  induction h with
  | nil => rfl
  | cons hf _ ih =>
    cases hf with
    | permission p p' => simp [ih]
    | other c => simpa using ih

/-- The same call on two builders, but for the value and for which permissions are given: values of
one class that are both accepted or both refused, and as many permissions in the same places. -/
inductive AlikeCalls (b b' : RequestBuilder) (s s' : Store) : Call → Call → Prop
  | name {r r' : Ref} (hn : nameAt? s' r' = nameAt? s r) (hc : s'.className r' = s.className r) :
      AlikeCalls b b' s s' (.name r) (.name r')
  | overwrite {r r' : Ref} (h : s'.isTrue r' = s.isTrue r) :
      AlikeCalls b b' s s' (.overwrite r) (.overwrite r')
  | value {r r' : Ref} (hc : s'.className r' = s.className r)
      (ha : (b'.setValue s' r').isOk = (b.setValue s r).isOk) :
      AlikeCalls b b' s s' (.value r) (.value r')
  | permission {r r' : Ref} (h : AlikeFindings (inspect s r) (inspect s' r')) :
      AlikeCalls b b' s s' (.permission r) (.permission r')
  | permissions {rs rs' : List Ref}
      (h : List.Forall₂ AlikeFindings ((trail s rs).map Prod.snd) ((trail s' rs').map Prod.snd)) :
      AlikeCalls b b' s s' (.permissions rs) (.permissions rs')
  | build : AlikeCalls b b' s s' .build .build

inductive AlikeResults : Except Failure (Option (Held StoredRequest)) →
    Except Failure (Option (Held StoredRequest)) → Prop
  | refused (e : Failure) : AlikeResults (.error e) (.error e)
  | called : AlikeResults (.ok none) (.ok none)
  | built {r r' : Held StoredRequest} (h : TwinRequests r.content r'.content) :
      AlikeResults (.ok (some r)) (.ok (some r'))

structure TwinOutcomes (o o' : Outcome) : Prop where
  result : AlikeResults o.result o'.result
  builder : Twin o.builder o'.builder

theorem Twin.addPermissions (h : Twin b b') {ps ps' : List (Held Permission)}
    (hp : ps'.length = ps.length) : Twin (b.addPermissions ps) (b'.addPermissions ps') :=
  ⟨h.kind, h.name, h.overwrite, h.value, by simp [RequestBuilder.addPermissions, h.count, hp]⟩

theorem Twin.perform_build (h : Twin b b') (hb : b.Coherent s) (hb' : b'.Coherent s') :
    TwinOutcomes (b.perform s .build) (b'.perform s' .build) := by
  refine ⟨?_, ?_⟩
  · rw [result_perform_build, result_perform_build]
    have names := h.name
    cases hn : b.name with
    | none =>
      have hn' : b'.name = none := by simpa [hn] using names
      rw [build_nameUnset hn, build_nameUnset hn']
      exact .refused _
    | some n =>
      obtain ⟨n', hn', hnn⟩ : ∃ n', b'.name = some n' ∧ n'.content = n.content := by
        simpa [hn] using names
      have values := h.value
      cases hv : b.value with
      | none =>
        have hv' : b'.value = none := by simpa [hv] using values
        rw [build_valueUnset hn hv, build_valueUnset hn' hv']
        exact .refused _
      | some v =>
        obtain ⟨v', hv'⟩ : ∃ v', b'.value = some v' := by
          simpa [hv, Option.isSome_iff_exists] using values
        obtain ⟨r, t, hr, hq, -⟩ := hb.build hn hv
        obtain ⟨r', t', hr', hq', -⟩ := hb'.build hn' hv'
        rw [hr, hr']
        refine .built ⟨?_, ?_, ?_, ?_⟩
        · rw [hq, hq']
          exact h.kind
        · rw [hq, hq']
          exact hnn
        · rw [hq, hq']
          exact h.overwrite
        · rw [hq, hq']
          exact h.count
  · rw [builder_perform_build, builder_perform_build]
    exact h

theorem Twin.perform (h : Twin b b') (hb : b.Coherent s) (hb' : b'.Coherent s')
    {call call' : Call} (hc : AlikeCalls b b' s s' call call') :
    TwinOutcomes (b.perform s call) (b'.perform s' call') := by
  cases hc with
  | build => exact h.perform_build hb hb'
  | overwrite ht => exact ⟨.called, h.kind, h.name, ht, h.value, h.count⟩
  | @name r r' hn hc =>
    cases hr : nameAt? s r with
    | none =>
      rw [hr] at hn
      simp only [RequestBuilder.perform, setName_of_none hr, setName_of_none hn, hc]
      exact ⟨.refused _, h⟩
    | some n =>
      rw [hr] at hn
      obtain ⟨held, hh, hs⟩ := setName_of_nameAt b hr
      obtain ⟨held', hh', hs'⟩ := setName_of_nameAt b' hn
      simp only [RequestBuilder.perform, hs, hs']
      exact ⟨.called, h.kind, by simp [hh, hh'], h.overwrite, h.value, h.count⟩
  | @value r r' hc ha =>
    cases hv : b.setValue s r with
    | error e =>
      cases hv' : b'.setValue s' r' with
      | error e' =>
        obtain rfl : e' = e := by
          rw [setValue_error hv, setValue_error hv', hc, h.kind]
        simp only [RequestBuilder.perform, hv, hv']
        exact ⟨.refused _, h⟩
      | ok c => simp [hv, hv', Except.isOk, Except.toBool] at ha
    | ok c =>
      cases hv' : b'.setValue s' r' with
      | error e' => simp [hv, hv', Except.isOk, Except.toBool] at ha
      | ok c' =>
        obtain ⟨rfl, -⟩ := setValue_ok hv
        obtain ⟨rfl, -⟩ := setValue_ok hv'
        simp only [RequestBuilder.perform, hv, hv']
        exact ⟨.called, h.kind, h.name, h.overwrite, rfl, h.count⟩
  | @permission r r' hf =>
    unfold inspect at hf
    cases hp : permission? s r with
    | none =>
      cases hp' : permission? s' r' with
      | none =>
        rw [hp, hp'] at hf
        simp only [RequestBuilder.perform, hp, hp']
        generalize s.className r = c at hf ⊢
        generalize s'.className r' = c' at hf ⊢
        cases hf
        exact ⟨.refused _, h⟩
      | some p' =>
        rw [hp, hp'] at hf
        cases hf
    | some p =>
      cases hp' : permission? s' r' with
      | none =>
        rw [hp, hp'] at hf
        cases hf
      | some p' =>
        simp only [RequestBuilder.perform, hp, hp']
        exact ⟨.called, h.addPermissions rfl⟩
  | @permissions rs rs' hf =>
    rw [perform_permissions, perform_permissions]
    cases ho : Finding.firstOther? ((trail s rs).map Prod.snd) with
    | some c =>
      simp only [outcome, firstOther?_eq_of_alike hf, ho]
      exact ⟨.refused _, h⟩
    | none =>
      simp only [outcome, firstOther?_eq_of_alike hf, ho]
      exact ⟨.called, h.addPermissions (length_permissions_eq_of_alike hf)⟩

end RequestBuilder

end CredentialWrite
