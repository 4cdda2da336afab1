import CredentialWrite.Binary64.Shortest
import CredentialWrite.Text.Digits

/-!
# Layout of decimal numbers

How the digits of a number are set out. A layout says from which power of ten numbers are written
with a plain point and how many digits an exponent has at least; from `10 ^ 16` on every layout
uses an exponent. `plain` is the layout of printed values and request bodies, `compact` the one of
records written directly as JSON.
-/

namespace CredentialWrite.Binary64

open Text

structure Layout where
  leastPlain : Int
  exponentDigits : Nat

namespace Layout

/-- Plain from one ten-thousandth on; exponents of two digits. -/
def plain : Layout := ⟨-4, 2⟩

/-- Plain from one hundred-thousandth on; exponents as short as they are. -/
def compact : Layout := ⟨-5, 1⟩

def zeros (count : Nat) : List Char := List.replicate count '0'

def padLeft (width : Nat) (digits : List Char) : List Char :=
  zeros (width - digits.length) ++ digits

/-- Digits with the point after the first `place` of them. -/
def withPoint (digits : List Char) (place : Int) : List Char :=
  if place ≤ 0 then '0' :: '.' :: zeros (-place).toNat ++ digits
  else
    let whole := place.toNat
    if digits.length ≤ whole then digits ++ zeros (whole - digits.length) ++ ['.', '0']
    else digits.take whole ++ '.' :: digits.drop whole

/-- Digits with the point after the first of them and an exponent. -/
def withExponent (l : Layout) (digits : List Char) (exponent : Int) : List Char :=
  let mantissa := match digits with
    | first :: second :: rest => first :: '.' :: second :: rest
    | short => short
  let sign := if exponent < 0 then '-' else '+'
  mantissa ++ 'e' :: sign :: padLeft l.exponentDigits (naturalDigits exponent.natAbs)

/-- The digits of `digits · 10 ^ power`. -/
def decimal (l : Layout) (digits : Nat) (power : Int) : List Char :=
  let text := naturalDigits digits
  let place := text.length + power
  if l.leastPlain ≤ place - 1 && place - 1 < 16 then withPoint text place
  else l.withExponent text (place - 1)

end Layout

/-- The text of a number in a layout. -/
def toText (l : Layout) : Binary64 → String
  | .nan => "nan"
  | .infinity negative => if negative then "-inf" else "inf"
  | .finite negative significand exponent _ =>
    let sign := if negative then ['-'] else []
    let body := if significand = 0 then ['0', '.', '0']
      else
        let (digits, power) := shortest significand exponent
        l.decimal digits power
    String.ofList (sign ++ body)

end CredentialWrite.Binary64
