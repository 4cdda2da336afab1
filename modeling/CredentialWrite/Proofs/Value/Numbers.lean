import CredentialWrite.Value.Hash
import Mathlib.Data.Nat.ModEq

/-!
# Comparing numbers

A number of double precision has one canonical form, so it is told by the integer that it is. With
that, equality of numbers across their types is transitive, and equal numbers hash alike: halving
a number rotates its residue, because the modulus is one less than a power of two.
-/

namespace CredentialWrite

namespace Binary64

variable {m k : Nat} {e f : Int} {x y : Binary64} {n : Int}

def inLeastUnits (significand : Nat) (exponent : Int) : Nat :=
  significand * 2 ^ (exponent + 1074).toNat

theorem Canonical.eq_of_le (hm : Canonical m e) (hk : Canonical k f) (hef : e ≤ f)
    (h : inLeastUnits m e = inLeastUnits k f) : m = k ∧ e = f := by
  obtain ⟨hm53, hle, -, -⟩ := hm
  obtain ⟨-, -, -, hfull⟩ := hk
  obtain ⟨d, hd⟩ : ∃ d : Nat, (f + 1074).toNat = (e + 1074).toNat + d :=
    ⟨(f - e).toNat, by omega⟩
  have hmk : m = k * 2 ^ d := by
    unfold inLeastUnits at h
    rw [hd, Nat.pow_add, Nat.mul_comm (2 ^ _) (2 ^ d), ← Nat.mul_assoc] at h
    exact Nat.eq_of_mul_eq_mul_right (Nat.two_pow_pos _) h
  cases d with
  | zero => exact ⟨by simpa using hmk, by omega⟩
  | succ d =>
    -- A larger exponent needs a full significand, and twice that is out of range.
    have hk52 : Nat.pow 2 52 ≤ k := hfull.resolve_right (by omega)
    have hpow : 2 ≤ 2 ^ (d + 1) := by
      have := Nat.two_pow_pos d
      rw [Nat.pow_succ]
      omega
    have hbig : Nat.pow 2 52 * 2 ≤ m := hmk ▸ Nat.mul_le_mul hk52 hpow
    have : Nat.pow 2 53 = Nat.pow 2 52 * 2 := rfl
    omega

/-- There is one canonical form of a number. -/
theorem Canonical.unique (hm : Canonical m e) (hk : Canonical k f)
    (h : inLeastUnits m e = inLeastUnits k f) : m = k ∧ e = f := by
  rcases Int.le_total e f with hef | hef
  · exact hm.eq_of_le hk hef h
  · obtain ⟨rfl, rfl⟩ := hk.eq_of_le hm hef h.symm
    exact ⟨rfl, rfl⟩

/-- The integer that a number is, by its sign and its size. -/
theorem exists_of_toInt? (h : x.toInt? = some n) :
    ∃ negative significand exponent canonical,
      x = .finite negative significand exponent canonical ∧
        n = (if negative then -(n.natAbs : Int) else n.natAbs) ∧
          inLeastUnits significand exponent = inLeastUnits n.natAbs 0 := by
  cases x with
  | nan => simp [toInt?] at h
  | infinity _ => simp [toInt?] at h
  | finite negative significand exponent canonical =>
    have hle : -1074 ≤ exponent := canonical.2.1
    have signed {size : Nat} (hs : (if negative then -(size : Int) else size) = n) :
        n.natAbs = size ∧ n = (if negative then -(n.natAbs : Int) else n.natAbs) := by
      cases negative <;> simp only [Bool.false_eq_true, if_true, if_false] at hs ⊢ <;> omega
    refine ⟨negative, significand, exponent, canonical, rfl, ?_⟩
    simp only [toInt?] at h
    split at h
    · next he =>
      obtain ⟨hsize, hsign⟩ := signed (Option.some.inj h)
      have hsum : (exponent + 1074).toNat = exponent.toNat + (0 + 1074 : Int).toNat := by omega
      refine ⟨hsign, ?_⟩
      rw [hsize, inLeastUnits, inLeastUnits, hsum, Nat.pow_add, ← Nat.mul_assoc]
      rfl
    · next he =>
      split at h
      · next hdvd =>
        obtain ⟨hsize, hsign⟩ := signed (Option.some.inj h)
        have hsum : (0 + 1074 : Int).toNat = (-exponent).toNat + (exponent + 1074).toNat := by
          omega
        have hmul : significand / 2 ^ (-exponent).toNat * 2 ^ (-exponent).toNat = significand :=
          Nat.div_mul_cancel (Nat.dvd_of_mod_eq_zero hdvd)
        refine ⟨hsign, ?_⟩
        rw [hsize, inLeastUnits, inLeastUnits, hsum, Nat.pow_add, ← Nat.mul_assoc]
        exact congrArg (· * _) hmul.symm
      · cases h

theorem equal_finite {a b : Bool} {hm : Canonical m e} {hk : Canonical k f} :
    equal (.finite a m e hm) (.finite b k f hk) = true ↔
      m = 0 ∧ k = 0 ∨ a = b ∧ m = k ∧ e = f := by
  simp [equal, and_assoc]

/-- Numbers that are one integer are equal. -/
theorem equal_of_toInt? (hx : x.toInt? = some n) (hy : y.toInt? = some n) :
    x.equal y = true := by
  obtain ⟨a, m, e, hm, rfl, hna, hmn⟩ := exists_of_toInt? hx
  obtain ⟨b, k, f, hk, rfl, hnb, hkn⟩ := exists_of_toInt? hy
  obtain ⟨rfl, rfl⟩ := hm.unique hk (hmn.trans hkn.symm)
  rw [equal_finite]
  by_cases hzero : m = 0
  · exact .inl ⟨hzero, hzero⟩
  · have hn : n.natAbs ≠ 0 := by
      intro h0
      rw [h0, inLeastUnits, inLeastUnits, Nat.zero_mul] at hmn
      exact (Nat.mul_ne_zero hzero (Nat.two_pow_pos _).ne') hmn
    refine .inr ⟨?_, rfl, rfl⟩
    cases a <;> cases b <;> simp at hna hnb ⊢ <;> omega

theorem toInt?_zero {a : Bool} {h : Canonical 0 e} :
    (Binary64.finite a 0 e h).toInt? = some 0 := by
  cases a <;> simp [toInt?]

theorem toInt?_eq_of_equal (h : x.equal y = true) : x.toInt? = y.toInt? := by
  cases x with
  | nan => simp at h
  | infinity a =>
    cases y with
    | infinity b => rfl
    | _ => simp [equal] at h
  | finite a m e hm =>
    cases y with
    | finite b k f hk =>
      rcases equal_finite.mp h with ⟨rfl, rfl⟩ | ⟨rfl, rfl, rfl⟩
      · rw [toInt?_zero, toInt?_zero]
      · rfl
    | _ => simp [equal] at h

theorem equal_trans {z : Binary64} (hxy : x.equal y = true) (hyz : y.equal z = true) :
    x.equal z = true := by
  cases x with
  | nan => simp at hxy
  | infinity a =>
    cases y with
    | infinity b =>
      obtain rfl : a = b := by simpa [equal] using hxy
      exact hyz
    | _ => simp [equal] at hxy
  | finite a m e hm =>
    cases y with
    | finite b k f hk =>
      cases z with
      | finite c l g hl =>
        rw [equal_finite] at hxy hyz ⊢
        rcases hxy with ⟨hm0, hk0⟩ | ⟨rfl, rfl, rfl⟩
        · rcases hyz with ⟨-, hl0⟩ | ⟨-, rfl, -⟩
          · exact .inl ⟨hm0, hl0⟩
          · exact .inl ⟨hm0, hk0⟩
        · exact hyz
      | _ => simp [equal] at hyz
    | _ => simp [equal] at hxy

end Binary64

namespace Number

theorem equal_trans {a b c : Number} (hab : a.equal b = true) (hbc : b.equal c = true) :
    a.equal c = true := by
  cases a with
  | integer a =>
    cases b with
    | integer b =>
      obtain rfl : a = b := by simpa [equal] using hab
      exact hbc
    | float y =>
      have hy : y.toInt? = some a := by simpa [equal, Binary64.equalInt] using hab
      cases c with
      | integer c => simpa [equal, Binary64.equalInt, hy] using hbc
      | float z => simpa [equal, Binary64.equalInt, Binary64.toInt?_eq_of_equal hbc] using hy
  | float x =>
    cases b with
    | integer b =>
      have hx : x.toInt? = some b := by simpa [equal, Binary64.equalInt] using hab
      cases c with
      | integer c =>
        obtain rfl : b = c := by simpa [equal] using hbc
        exact hab
      | float z =>
        have hz : z.toInt? = some b := by simpa [equal, Binary64.equalInt] using hbc
        exact Binary64.equal_of_toInt? hx hz
    | float y =>
      cases c with
      | integer c =>
        have hy : y.toInt? = some c := by simpa [equal, Binary64.equalInt] using hbc
        simpa [equal, Binary64.equalInt, Binary64.toInt?_eq_of_equal hab] using hy
      | float z => exact Binary64.equal_trans hab hbc

end Number

namespace Number

theorem two_pow_modEq (k : Nat) : 2 ^ (61 * k) ≡ 1 [MOD hashModulus] := by
  have h : 2 ^ 61 ≡ 1 [MOD hashModulus] := rfl
  rw [Nat.pow_mul]
  simpa using h.pow k

/-- A power may be reduced by the period of the rotation. -/
theorem powerResidue_modEq {exponent : Int} (h : -1074 ≤ exponent) :
    powerResidue exponent * 2 ^ (0 + 1074 : Int).toNat ≡
      2 ^ (exponent + 1074).toNat [MOD hashModulus] := by
  have hr : powerResidue exponent ≡ 2 ^ (exponent % 61).toNat [MOD hashModulus] :=
    Nat.mod_modEq _ _
  refine (hr.mul_right _).trans ?_
  rw [← Nat.pow_add]
  -- The two exponents differ by a multiple of the period, on one side or the other.
  have hdiv := Int.emod_add_mul_ediv exponent 61
  have hmod := Int.emod_nonneg exponent (by decide : (61 : Int) ≠ 0)
  rcases Int.le_total 0 (exponent / 61) with hq | hq
  · have hsum : (exponent + 1074).toNat =
        (exponent % 61).toNat + (0 + 1074 : Int).toNat + 61 * (exponent / 61).toNat := by omega
    rw [hsum, Nat.pow_add _ _ (61 * _)]
    simpa using ((two_pow_modEq (exponent / 61).toNat).mul_left _).symm
  · have hsum : (exponent % 61).toNat + (0 + 1074 : Int).toNat =
        (exponent + 1074).toNat + 61 * (-(exponent / 61)).toNat := by omega
    rw [hsum, Nat.pow_add]
    simpa using (two_pow_modEq (-(exponent / 61)).toNat).mul_left (2 ^ (exponent + 1074).toNat)

theorem coprime_two_pow (k : Nat) : hashModulus.Coprime (2 ^ k) :=
  Nat.Coprime.pow_right k (by decide)

/-- A number that is an integer hashes as that integer. -/
theorem hashFloat_of_toInt? {x : Binary64} {n : Int} (h : x.toInt? = some n) (copy : Nat) :
    hashFloat copy x = hashInt n := by
  obtain ⟨negative, significand, exponent, canonical, rfl, hsign, hsize⟩ :=
    Binary64.exists_of_toInt? h
  have hres : significand * powerResidue exponent ≡ n.natAbs [MOD hashModulus] := by
    refine Nat.ModEq.cancel_right_of_coprime (coprime_two_pow (0 + 1074 : Int).toNat) ?_
    rw [Nat.mul_assoc]
    refine ((powerResidue_modEq canonical.2.1).mul_left significand).trans ?_
    exact congrArg (· % hashModulus) hsize
  have hmod : significand * powerResidue exponent % hashModulus = n.natAbs % hashModulus := hres
  rw [hashFloat, hashInt, hmod]
  by_cases hn : n = 0
  · subst hn
    cases negative <;> rfl
  · have hneg : negative = decide (n < 0) := by
      cases negative with
      | false =>
        simp only [Bool.false_eq_true, if_false] at hsign
        exact (decide_eq_false (by omega)).symm
      | true =>
        simp only [if_true] at hsign
        exact (decide_eq_true (by omega)).symm
    rw [hneg]

theorem hashFloat_of_equal {x y : Binary64} (h : x.equal y = true) (copy other : Nat) :
    hashFloat copy x = hashFloat other y := by
  cases x with
  | nan => simp at h
  | infinity a =>
    cases y with
    | infinity b =>
      obtain rfl : a = b := by simpa [Binary64.equal] using h
      rfl
    | _ => simp [Binary64.equal] at h
  | finite a m e hm =>
    cases y with
    | finite b k f hk =>
      rcases Binary64.equal_finite.mp h with ⟨rfl, rfl⟩ | ⟨rfl, rfl, rfl⟩
      · cases a <;> cases b <;> simp [hashFloat, signedHash]
      · rfl
    | _ => simp [Binary64.equal] at h

end Number

namespace Scalar

theorem equal_trans {s t u : Scalar} (hst : s.equal t = true) (htu : t.equal u = true) :
    s.equal u = true := by
  unfold equal at *
  cases hs : s.number? <;> cases ht : t.number? <;> simp only [hs, ht, Bool.false_eq_true] at hst
  · obtain rfl : s = t := of_decide_eq_true hst
    simpa [hs] using htu
  · cases hu : u.number? with
    | none => simp [ht, hu] at htu
    | some c =>
      simp only [ht, hu] at htu
      exact Number.equal_trans hst htu

/-- Equality inside containers is transitive, also where a float is no number. -/
theorem same_trans {s t u : Scalar} (hst : s.same t = true) (htu : t.same u = true) :
    s.same u = true := by
  rw [same, Bool.or_eq_true, decide_eq_true_eq] at *
  rcases hst with rfl | hst
  · exact htu
  · rcases htu with rfl | htu
    · exact .inr hst
    · exact .inr (equal_trans hst htu)

/-- A scalar that is an integer hashes as that integer. -/
theorem scalarHash_of_integer {s : Scalar} {n : Int} (h : s.number? = some (.integer n)) :
    Hashing.scalarHash s = Number.hashInt n := by
  cases s with
  | bool b =>
    cases h
    cases b <;> rfl
  | int m =>
    cases h
    rfl
  | _ => simp [number?] at h

theorem scalarHash_of_float {s : Scalar} {x : Binary64} (h : s.number? = some (.float x)) :
    ∃ copy, Hashing.scalarHash s = Number.hashFloat copy x := by
  cases s with
  | float y copy =>
    cases h
    exact ⟨copy, rfl⟩
  | _ => simp [number?] at h

/-- Equal scalars hash alike, numbers whatever their types. -/
theorem scalarHash_of_equal {s t : Scalar} (h : s.equal t = true) :
    Hashing.scalarHash s = Hashing.scalarHash t := by
  unfold equal at h
  cases hs : s.number? with
  | none =>
    cases ht : t.number? with
    | none =>
      simp only [hs, ht, decide_eq_true_eq] at h
      rw [h]
    | some b => simp [hs, ht] at h
  | some a =>
    cases ht : t.number? with
    | none => simp [hs, ht] at h
    | some b =>
      simp only [hs, ht] at h
      cases a with
      | integer n =>
        rw [scalarHash_of_integer hs]
        cases b with
        | integer m =>
          obtain rfl : n = m := of_decide_eq_true h
          rw [scalarHash_of_integer ht]
        | float y =>
          obtain ⟨copy, hy⟩ := scalarHash_of_float ht
          rw [hy, Number.hashFloat_of_toInt? (of_decide_eq_true h)]
      | float x =>
        obtain ⟨copy, hx⟩ := scalarHash_of_float hs
        rw [hx]
        cases b with
        | integer m =>
          rw [scalarHash_of_integer ht, Number.hashFloat_of_toInt? (of_decide_eq_true h)]
        | float y =>
          obtain ⟨other, hy⟩ := scalarHash_of_float ht
          rw [hy, Number.hashFloat_of_equal h]

end Scalar

end CredentialWrite
