import CredentialWrite.Proofs.Value.Numbers
import CredentialWrite.Session.Lookup
import Mathlib.Tactic.Ring

/-!
# What requests fold to

A request folds its parts to one number in which each part has a weight of its own. So requests that
differ in the overwrite flag and in a whole number for their value fold to numbers whose distance is
told by these two, and the numbers meet only where a difference of the values makes up for that of
the flags.
-/

namespace CredentialWrite

/-- The integer that a scalar is as a number, whatever its type. -/
def Scalar.integer? (x : Scalar) : Option Int :=
  match x.number? with
  | some (.integer n) => some n
  | some (.float y) => y.toInt?
  | _ => Option.none

namespace Number

/-- The size of a number by the modulus, with the sign of the number, and `-2` in place of `-1`. -/
def signedResidue (n : Int) : Int :=
  let residue := n.sign * ((n.natAbs % (2 ^ 61 - 1) : Nat) : Int)
  if residue = -1 then -2 else residue

theorem sign_mul_residue {n : Int} {residue : Nat} (h : n = 0 → residue = 0) :
    n.sign * (residue : Int) = if n < 0 then -(residue : Int) else residue := by
  rcases lt_trichotomy n 0 with hn | rfl | hn
  · rw [if_pos hn, Int.sign_eq_neg_one_of_neg hn, neg_one_mul]
  · simp [h rfl]
  · rw [if_neg (not_lt.mpr hn.le), Int.sign_eq_one_of_pos hn, one_mul]

theorem hashInt_eq_signedResidue (n : Int) : hashInt n = signedResidue n := by
  have residue : n = 0 → n.natAbs % (2 ^ 61 - 1) = 0 := by
    rintro rfl
    rfl
  rw [signedResidue, sign_mul_residue residue]
  simp only [hashInt, signedHash, decide_eq_true_eq]
  rfl

end Number

namespace Scalar

variable {x y : Scalar} {m n : Int}

/-- Scalars that are integers are equal when the integers are. -/
theorem equal_iff_of_integer? (hx : x.integer? = some m) (hy : y.integer? = some n) :
    x.equal y = true ↔ m = n := by
  unfold integer? at hx hy
  unfold equal
  cases hxn : x.number? with
  | none => simp [hxn] at hx
  | some a =>
    cases hyn : y.number? with
    | none => simp [hyn] at hy
    | some b =>
      simp only [hxn] at hx
      simp only [hyn] at hy
      cases a with
      | integer a =>
        cases hx
        cases b with
        | integer b =>
          cases hy
          simp [Number.equal]
        | float y => simp [Number.equal, Binary64.equalInt, hy, eq_comm]
      | float x =>
        cases b with
        | integer b =>
          cases hy
          simp [Number.equal, Binary64.equalInt, hx]
        | float y =>
          constructor
          · intro h
            exact Option.some.inj (hx.symm.trans ((Binary64.toInt?_eq_of_equal h).trans hy))
          · rintro rfl
            exact Binary64.equal_of_toInt? hx hy

end Scalar

/-- Numbers hash by their residue; of all else nothing is asked. -/
structure Hashing.CountsNumbers (H : Hashing) : Prop where
  integer : ∀ x n, x.number? = some (.integer n) → H.scalar x = Number.hashInt n
  float : ∀ x y, x.number? = some (.float y) → ∃ copy, H.scalar x = Number.hashFloat copy y

namespace Hashing

variable {H : Hashing} {x : Scalar} {n : Int}

theorem standard_countsNumbers : standard.CountsNumbers where
  integer _ _ h := Scalar.scalarHash_of_integer h
  float _ _ h := Scalar.scalarHash_of_float h

theorem CountsNumbers.scalar_eq (L : H.CountsNumbers) (h : x.integer? = some n) :
    H.scalar x = Number.signedResidue n := by
  rw [← Number.hashInt_eq_signedResidue]
  unfold Scalar.integer? at h
  cases hx : x.number? with
  | none => simp [hx] at h
  | some a =>
    simp only [hx] at h
    cases a with
    | integer m =>
      cases h
      exact L.integer x n hx
    | float y =>
      obtain ⟨copy, hy⟩ := L.float x y hx
      rw [hy, Number.hashFloat_of_toInt? h]

def flag (overwrite : Bool) : Int := if overwrite then 1 else 0

/-- Each part counts with its own power of thirty-one. -/
theorem fold_eq (overwrite : Bool) (name kind value permissions : Int) :
    fold overwrite [name, kind, value, permissions] =
      31 ^ 4 * flag overwrite + 31 ^ 3 * name + 31 ^ 2 * kind + 31 * value + permissions := by
  simp only [fold, flag, List.foldl_cons, List.foldl_nil]
  ring

theorem fold_sub_fold (overwrite other : Bool) (name kind value given permissions : Int) :
    fold overwrite [name, kind, value, permissions] - fold other [name, kind, given, permissions] =
      31 ^ 4 * (flag overwrite - flag other) + 31 * (value - given) := by
  rw [fold_eq, fold_eq]
  ring

theorem flag_sub_ne_zero {a b : Bool} (h : a ≠ b) : flag a - flag b ≠ 0 := by
  cases a <;> cases b <;> simp [flag] at h ⊢

end Hashing

namespace Store

open Hashing

variable {H : Hashing} {s : Store} {a b : Ref} {p q : StoredRequest} {listed listed' : Address}
  {x y : Scalar} {m n : Int}

theorem foldOf_request (ha : s.cellOf? a = some (.request p listed)) (hx : p.value = .scalar x) :
    s.foldOf H a = .ok (fold p.overwrite [H.name p.name.content, H.kind p.kind, H.scalar x,
      H.permissions (p.permissions.map Held.content)]) := by
  have shown : (s.viewRequest p).value = .scalar x := by
    have seen : (s.viewRequest p).value = s.view p.value := rfl
    rw [seen, hx]
    rfl
  simp only [foldOf, ha, Value.requestFold, shown]
  rfl

/-- Requests of one name, one kind and the same permissions whose values are whole numbers fold to
numbers that are apart by the difference of the flags and that of the hashes of the values, each
with its weight. So the numbers meet exactly where the one difference makes up for the other, which
no equal values do for different flags. -/
theorem folds_apart_by_flags_and_values (L : H.CountsNumbers)
    (ha : s.cellOf? a = some (.request p listed)) (hb : s.cellOf? b = some (.request q listed'))
    (name : p.name.content.same q.name.content = true) (kind : p.kind = q.kind)
    (permissions : p.permissions.map Held.content = q.permissions.map Held.content)
    (hx : p.value = .scalar x) (hy : q.value = .scalar y) (hm : x.integer? = some m)
    (hn : y.integer? = some n) :
    ∃ h k, s.foldOf H a = .ok h ∧ s.foldOf H b = .ok k ∧
      h - k = 31 ^ 4 * (flag p.overwrite - flag q.overwrite) +
        31 * (Number.signedResidue m - Number.signedResidue n) ∧
      (h = k ↔ Number.signedResidue n - Number.signedResidue m =
        29791 * (flag p.overwrite - flag q.overwrite)) ∧
      (x.equal y = true → h - k = 31 ^ 4 * (flag p.overwrite - flag q.overwrite) ∧
        (p.overwrite ≠ q.overwrite → h ≠ k)) := by
  have path : H.name p.name.content = H.name q.name.content :=
    congrArg H.text (of_decide_eq_true name)
  have first := foldOf_request (H := H) ha hx
  have second := foldOf_request (H := H) hb hy
  rw [path, kind, permissions, L.scalar_eq hm] at first
  rw [L.scalar_eq hn] at second
  have apart := fold_sub_fold p.overwrite q.overwrite (H.name q.name.content) (H.kind q.kind)
    (Number.signedResidue m) (Number.signedResidue n)
    (H.permissions (q.permissions.map Held.content))
  refine ⟨_, _, first, second, apart, by omega, fun equal => ?_⟩
  obtain rfl := (Scalar.equal_iff_of_integer? hm hn).mp equal
  refine ⟨by omega, fun differ => ?_⟩
  have := flag_sub_ne_zero differ
  omega

/-- A request that overwrites, of the number that hashes apart, and a plain one of a float. -/
def meetingStore : Store :=
  let name : CredentialName := ⟨.plain, "a", by decide⟩
  ⟨#[.name name, .sequence .tuple [],
    .request ⟨.any, true, true, ⟨0, name⟩, .value, .scalar (.int (-1)), [], false⟩ 1,
    .request ⟨.any, false, true, ⟨0, name⟩, .value,
      .scalar (.float (Binary64.ofRatio false 29789 1) 0), [], false⟩ 1]⟩

theorem folds_meet_of_flag_and_value : ∃ h, meetingStore.foldOf .standard (.address 2) = .ok h ∧
    meetingStore.foldOf .standard (.address 3) = .ok h := by
  have whole : (Scalar.float (Binary64.ofRatio false 29789 1) 0).integer? = some 29789 := by
    decide +kernel
  obtain ⟨h, k, hh, hk, -, meet, -⟩ := folds_apart_by_flags_and_values
    standard_countsNumbers (s := meetingStore) (a := .address 2) (b := .address 3) rfl rfl
    (by decide) rfl rfl rfl rfl rfl whole
  have same : h = k := meet.mpr (by decide +kernel)
  exact ⟨h, hh, same ▸ hk⟩

end Store

end CredentialWrite
