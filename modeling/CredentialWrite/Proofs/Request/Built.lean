import CredentialWrite.Proofs.Request.History

/-!
# Requests that were built

A request stands in the store at every later time as it was built: its kind, its flag and its
permissions are those of the history, and its value still fits its kind. The value may have
changed inside.
-/

namespace CredentialWrite.RequestBuilder

/-- A request that was built at the end of a history, some time ago. -/
def Built (kind : CredentialKind) (es : List Event) (s : Store) (r : Held StoredRequest) : Prop :=
  ∃ b s₀, History kind es b s₀ ∧ (b.perform s₀ .build).result = .ok (some r) ∧
    (b.perform s₀ .build).store.Evolves s

structure Sound (kind : CredentialKind) (es : List Event) (s : Store) (r : Held StoredRequest) :
    Prop where
  value : Fits s kind r.content.value
  kind : r.content.kind = kind
  overwrite : r.content.overwrite = lastOverwrite es
  permissions : r.content.permissions = granted es
  cell : ∃ listed, s.cell? r.address = some (.request r.content listed)

namespace Built

variable {kind : CredentialKind} {es : List Event} {s t : Store} {r : Held StoredRequest}

theorem sound (h : Built kind es s r) : Sound kind es s r := by
  obtain ⟨b, s₀, hh, hr, hs⟩ := h
  rw [result_perform_build] at hr
  rw [store_perform_build] at hs
  have ht := hh.tells
  cases hn : b.name with
  | none =>
    rw [build_nameUnset hn] at hr
    cases hr
  | some n =>
    cases hv : b.value with
    | none =>
      rw [build_valueUnset hn hv] at hr
      cases hr
    | some v =>
      obtain ⟨q, t, hb, hq, hst, listed, hc, -⟩ := hh.coherent.build hn hv
      rw [hb] at hr hs
      obtain rfl : q = r := Option.some.inj (Except.ok.inj hr)
      have hf : Fits s b.kind v := ((hh.coherent.value v hv).evolves hst.evolves).evolves hs
      refine ⟨?_, ?_, ?_, ?_, listed, hs.cell?_eq hc rfl⟩
      · rw [hq, ← ht.kind]
        exact hf
      · rw [hq, ← ht.kind, request]
      · rw [hq, ← ht.overwrite, request]
      · rw [hq, ← ht.permissions, request]

end Built

end CredentialWrite.RequestBuilder
