/-!
# Numbers of double precision

A finite number is a sign and a significand below `2 ^ 53` times a power of two, in the one form
that has either a full significand or the least exponent. Comparison with other numbers and with
integers is exact: no operand is rounded first. `ofRatio` rounds a quotient to the nearest
number, a half to the even significand.
-/

namespace CredentialWrite

namespace Binary64

/-- The significand is full, or the exponent is the least one. -/
def Canonical (significand : Nat) (exponent : Int) : Prop :=
  significand < Nat.pow 2 53 ∧ -1074 ≤ exponent ∧ exponent ≤ 971 ∧
    (Nat.pow 2 52 ≤ significand ∨ exponent = -1074)

instance (significand : Nat) (exponent : Int) : Decidable (Canonical significand exponent) :=
  inferInstanceAs (Decidable (_ ∧ _ ∧ _ ∧ _))

end Binary64

inductive Binary64 where
  | nan
  | infinity (negative : Bool)
  | finite (negative : Bool) (significand : Nat) (exponent : Int)
      (canonical : Binary64.Canonical significand exponent)
  deriving DecidableEq

namespace Binary64

/-- A number in canonical form; what does not fit is infinite. -/
def make (negative : Bool) (significand : Nat) (exponent : Int) : Binary64 :=
  if h : Canonical significand exponent then .finite negative significand exponent h
  else .infinity negative

def zero (negative : Bool) : Binary64 := .finite negative 0 (-1074) (by decide)

/-- The fraction that `num / den` becomes when divided by `2 ^ e`. -/
def unscale (num den : Nat) (e : Int) : Nat × Nat :=
  if 0 ≤ e then (num, den * Nat.pow 2 e.toNat) else (num * Nat.pow 2 (-e).toNat, den)

/-- The nearest whole number, a half going to the even neighbour. -/
def roundHalfEven (num den : Nat) : Nat :=
  let floor := num / den
  let twice := 2 * (num % den)
  if den < twice || (twice = den && floor % 2 = 1) then floor + 1 else floor

/-- The exponent of the unit in the last place at `num / den`. -/
def unitExponent (num den : Nat) : Int :=
  let estimate : Int := Nat.log2 num - Nat.log2 den - 52
  let (n, d) := unscale num den estimate
  max (-1074) (if n / d < Nat.pow 2 52 then estimate - 1 else estimate)

/-- The number nearest to `num / den`. -/
def ofRatio (negative : Bool) (num den : Nat) : Binary64 :=
  if num = 0 then zero negative
  else
    let e := unitExponent num den
    let (n, d) := unscale num den e
    let m := roundHalfEven n d
    if m = Nat.pow 2 53 then make negative (Nat.pow 2 52) (e + 1) else make negative m e

/-- The number nearest to `digits · 10 ^ exponent`. Beyond four hundred places all is infinite or
zero, so no larger power is formed. -/
def ofDecimal (negative : Bool) (digits : Nat) (exponent : Int) : Binary64 :=
  let size : Int := Nat.log2 digits * 3 / 10 + exponent
  if digits = 0 then zero negative
  else if 400 < size then .infinity negative
  else if size < -400 then zero negative
  else if 0 ≤ exponent then ofRatio negative (digits * Nat.pow 10 exponent.toNat) 1
  else ofRatio negative digits (Nat.pow 10 (-exponent).toNat)

/-- The number nearest to an integer, where it is finite. -/
def ofInt? (n : Int) : Option Binary64 :=
  if 1100 < Nat.log2 n.natAbs then none
  else match ofRatio (n < 0) n.natAbs 1 with
    | .finite s m e h => some (.finite s m e h)
    | _ => none

def isFinite : Binary64 → Bool
  | .finite .. => true
  | _ => false

def isZero : Binary64 → Bool
  | .finite _ significand _ _ => significand = 0
  | _ => false

/-- Equality of numbers: the two zeros are equal, and no NaN equals anything. -/
def equal : Binary64 → Binary64 → Bool
  | .infinity a, .infinity b => a = b
  | .finite a m e _, .finite b k f _ => (m = 0 && k = 0) || (a = b && m = k && e = f)
  | _, _ => false

/-- The integer that a number is, where it is one. -/
def toInt? : Binary64 → Option Int
  | .finite negative significand exponent _ =>
    let signed (n : Nat) : Int := if negative then -n else n
    if 0 ≤ exponent then some (signed (significand * Nat.pow 2 exponent.toNat))
    else
      let unit := Nat.pow 2 (-exponent).toNat
      if significand % unit = 0 then some (signed (significand / unit)) else none
  | _ => none

def equalInt (x : Binary64) (n : Int) : Bool := x.toInt? = some n

@[simp] theorem equal_nan (x : Binary64) : equal .nan x = false := by cases x <;> rfl

theorem equal_comm (x y : Binary64) : equal x y = equal y x := by
  cases x <;> cases y <;> grind [equal]

example : ofDecimal false 1 (-1) = ofRatio false 1 10 := by decide +kernel

example : (ofRatio false 3 2).toInt? = none ∧ (ofRatio true 8 2).toInt? = some (-4) := by
  decide +kernel

end Binary64

end CredentialWrite
