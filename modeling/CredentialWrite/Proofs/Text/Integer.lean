import CredentialWrite.Text.Integer
import Mathlib.Data.List.Basic

/-!
# Digits and integers

The digits of a natural number are at least one, stand for that number again, and start with a zero
for zero alone. The digits of an integer are plain, with no blanks around them and no underscores
between them. So they are read as that integer, unless they are too many to be read.
-/

namespace CredentialWrite.Text

section Digits

variable {n : Nat}

theorem isDigit_of_mem_naturalDigits {c : Char} (h : c ∈ naturalDigits n) : isDigit c = true :=
  Nat.isDigit_of_mem_toDigits (by decide) (by decide) h

theorem all_isDigit_naturalDigits (n : Nat) : (naturalDigits n).all isDigit = true :=
  List.all_eq_true.mpr fun _ => isDigit_of_mem_naturalDigits

theorem naturalDigits_ne_nil : naturalDigits n ≠ [] := Nat.toDigits_ne_nil

theorem digitsValue_naturalDigits (n : Nat) : digitsValue (naturalDigits n) = n :=
  Nat.ofDigitChars_ten_toDigits

theorem head?_naturalDigits (h : n ≠ 0) : (naturalDigits n).head? ≠ some '0' := by
  induction n using Nat.strongRecOn with
  | ind n ih =>
    unfold naturalDigits
    by_cases hn : n < 10
    · rw [Nat.toDigits_of_lt_base hn]
      have small : ∀ m < 10, m ≠ 0 → [m.digitChar].head? ≠ some '0' := by decide
      exact small n hn h
    · have hq : n / 10 ≠ 0 := by omega
      rw [Nat.toDigits_of_base_le (by decide) (Nat.le_of_not_lt hn),
        List.head?_append_of_ne_nil _ Nat.toDigits_ne_nil]
      exact ih (n / 10) (by omega) hq

theorem takeSign_naturalDigits (n : Nat) :
    takeSign (naturalDigits n) = (false, naturalDigits n) := by
  have digits : ∀ c ∈ naturalDigits n, isDigit c = true := fun c => isDigit_of_mem_naturalDigits
  unfold takeSign
  split
  · next h => exact absurd (digits '-' (h ▸ List.mem_cons_self)) (by decide)
  · next h => exact absurd (digits '+' (h ▸ List.mem_cons_self)) (by decide)
  · rfl

end Digits

variable {c : Char} {cs : List Char} {n : Int}

/-- What all seven-bit characters have, told of their codes. -/
theorem of_ascii {P : Char → Prop} (h : ∀ n < 0x80, P (Char.ofNat n)) (hc : c.toNat < 0x80) :
    P c := by
  have known := h c.toNat hc
  rwa [Char.ofNat_toNat] at known

theorem trimBoth_eq_self {drop : Char → Bool} (h : ∀ c ∈ cs, drop c = false) :
    trimBoth drop cs = cs := by
  have stays {ds : List Char} (hd : ∀ c ∈ ds, drop c = false) : ds.dropWhile drop = ds := by
    cases ds with
    | nil => rfl
    | cons d ds => exact List.dropWhile_cons_of_neg (by simp [hd d List.mem_cons_self])
  rw [trimBoth, stays h, stays fun c hc => h c (List.mem_reverse.mp hc), List.reverse_reverse]

theorem joinDigits?_eq_self (h : '_' ∉ cs) (afterDigit : Bool) :
    joinDigits? afterDigit cs = some cs := by
  induction cs generalizing afterDigit with
  | nil => rfl
  | cons c rest ih =>
    obtain ⟨hc, hrest⟩ : '_' ≠ c ∧ '_' ∉ rest := by simpa using h
    rw [joinDigits?]
    · rw [if_neg (Ne.symm hc), ih hrest, Option.map_some]
    · rintro d ds rfl
      exact absurd rfl hc

theorem integerDigits_ne_nil : integerDigits n ≠ [] := by
  cases n with
  | ofNat n => exact naturalDigits_ne_nil
  | negSucc n => exact List.cons_ne_nil _ _

theorem isDigit_or_eq_of_mem_integerDigits (h : c ∈ integerDigits n) :
    isDigit c = true ∨ c = '-' := by
  cases n with
  | ofNat n => exact .inl (isDigit_of_mem_naturalDigits h)
  | negSucc n => exact (List.mem_cons.mp h).symm.imp_left isDigit_of_mem_naturalDigits

/-- What a character of an integer is not. -/
theorem plain_of_mem_integerDigits (h : c ∈ integerDigits n) :
    plainDigit c = c ∧ isWhiteSpace c = false ∧ c ≠ '_' := by
  have known : ∀ n < 0x80, isDigit (Char.ofNat n) = true ∨ Char.ofNat n = '-' →
      plainDigit (Char.ofNat n) = Char.ofNat n ∧ isWhiteSpace (Char.ofNat n) = false ∧
        Char.ofNat n ≠ '_' := by
    decide +kernel
  have found := isDigit_or_eq_of_mem_integerDigits h
  have small : c.toNat < 0x80 := by
    rcases found with hd | rfl
    · have high : c ≤ '9' := by
        simp only [isDigit, Bool.and_eq_true, decide_eq_true_eq] at hd
        exact hd.2
      exact Nat.lt_of_le_of_lt high (by decide)
    · decide
  exact of_ascii (P := fun c => isDigit c = true ∨ c = '-' →
    plainDigit c = c ∧ isWhiteSpace c = false ∧ c ≠ '_') known small found

theorem numberText?_integerDigits (n : Int) :
    numberText? (integerDigits n) = some (integerDigits n) := by
  have plain : (integerDigits n).map plainDigit = integerDigits n :=
    (List.map_congr_left fun c hc => (plain_of_mem_integerDigits hc).1).trans (List.map_id' _)
  rw [numberText?, plain, trimBoth_eq_self fun c hc => (plain_of_mem_integerDigits hc).2.1]
  exact joinDigits?_eq_self (fun hc => (plain_of_mem_integerDigits hc).2.2 rfl) false

/-- No other integer is read from the digits of one. -/
theorem eq_of_readInteger?_integerDigits {m : Int} (h : readInteger? (integerDigits n) = some m) :
    m = n := by
  rw [readInteger?, numberText?_integerDigits, Option.bind_some] at h
  cases n with
  | ofNat n =>
    rw [integerDigits, takeSign_naturalDigits] at h
    dsimp only at h
    split at h
    · cases h
    · rw [← Option.some.inj h, digitsValue_naturalDigits]
      rfl
  | negSucc n =>
    rw [integerDigits, takeSign] at h
    dsimp only at h
    split at h
    · cases h
    · rw [← Option.some.inj h, digitsValue_naturalDigits]
      rfl

end CredentialWrite.Text
