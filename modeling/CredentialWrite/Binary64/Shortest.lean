import CredentialWrite.Binary64.Basic

/-!
# Shortest decimals

The decimal with the fewest digits that rounds back to a number, and of those the one nearest to
it. All comparisons are between exact fractions. A grid of `count` digits is tried from one digit
upward; only the two grid points around the number can be the answer, because if any point of a
grid rounds back then so does one of these two.
-/

namespace CredentialWrite

/-- A quotient of natural numbers. -/
structure Ratio where
  num : Nat
  den : Nat

namespace Ratio

def le (a b : Ratio) : Bool := a.num * b.den ≤ b.num * a.den

def lt (a b : Ratio) : Bool := a.num * b.den < b.num * a.den

/-- `num` times a power of a base. -/
def scaled (base num : Nat) (exponent : Int) : Ratio :=
  if 0 ≤ exponent then ⟨num * Nat.pow base exponent.toNat, 1⟩
  else ⟨num, Nat.pow base (-exponent).toNat⟩

/-- How often `unit` fits. -/
def floorDiv (a unit : Ratio) : Nat := a.num * unit.den / (a.den * unit.num)

/-- Twice the distance to a lower point, compared with the distance between neighbours. -/
def compareHalf (low a high : Ratio) : Ordering :=
  compare (2 * a.num * low.den * high.den) ((low.num * high.den + high.num * low.den) * a.den)

end Ratio

namespace Binary64

/-- The fractions that round to a number: an interval, closed where the significand is even. -/
structure Neighbourhood where
  low : Ratio
  value : Ratio
  high : Ratio
  closed : Bool

def neighbourhood (significand : Nat) (exponent : Int) : Neighbourhood :=
  let below := if significand = Nat.pow 2 52 && -1074 < exponent then 1 else 2
  { low := .scaled 2 (4 * significand - below) (exponent - 2)
    value := .scaled 2 (4 * significand) (exponent - 2)
    high := .scaled 2 (4 * significand + 2) (exponent - 2)
    closed := significand % 2 = 0 }

def Neighbourhood.contains (n : Neighbourhood) (a : Ratio) : Bool :=
  if n.closed then n.low.le a && a.le n.high else n.low.lt a && a.lt n.high

/-- The count of digits before the point; zero or negative below one tenth. -/
def pointPlace (significand : Nat) (exponent : Int) (value : Ratio) : Int :=
  let estimate := ((exponent + Nat.log2 significand) * 30103).fdiv 100000 + 1
  if (Ratio.scaled 10 1 estimate).le value then estimate + 1
  else if value.lt (.scaled 10 1 (estimate - 1)) then estimate - 1
  else estimate

/-- The point of a decimal grid that rounds back, the nearer of two, the even one of a tie. -/
def gridPoint? (n : Neighbourhood) (unit : Int) : Option Nat :=
  let floor := n.value.floorDiv (.scaled 10 1 unit)
  let low : Ratio := .scaled 10 floor unit
  let high : Ratio := .scaled 10 (floor + 1) unit
  match n.contains low, n.contains high with
  | true, true =>
    match Ratio.compareHalf low n.value high with
    | .lt => some floor
    | .gt => some (floor + 1)
    | .eq => some (if floor % 2 = 0 then floor else floor + 1)
  | true, false => some floor
  | false, true => some (floor + 1)
  | false, false => none

/-- Tries the grids of `count`, `count + 1`, … digits; seventeen always suffice. -/
def shortestFrom (n : Neighbourhood) (place : Int) : Nat → Nat → Nat × Int
  | 0, count => (n.value.floorDiv (.scaled 10 1 (place - count)) + 1, place - count)
  | fuel + 1, count =>
    match gridPoint? n (place - count) with
    | some digits => (digits, place - count)
    | none => shortestFrom n place fuel (count + 1)

/-- Drops trailing zeros of the digits, `fuel` of them at most. -/
def dropZeros : Nat → Nat × Int → Nat × Int
  | 0, d => d
  | fuel + 1, (digits, exponent) =>
    if digits % 10 = 0 then dropZeros fuel (digits / 10, exponent + 1) else (digits, exponent)

/-- Digits and a power of ten for a positive number. -/
def shortest (significand : Nat) (exponent : Int) : Nat × Int :=
  let n := neighbourhood significand exponent
  dropZeros 20 (shortestFrom n (pointPlace significand exponent n.value) 17 1)

end Binary64

end CredentialWrite
