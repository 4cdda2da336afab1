/-!
# Digits

The decimal digits of natural numbers and integers, and the number that digits stand for; and numbers
written with a fixed count of lower-case hexadecimal digits, as the escapes of quoted and of JSON text
need them.
-/

namespace CredentialWrite.Text

def isDigit (c : Char) : Bool := '0' ≤ c && c ≤ '9'

def naturalDigits (n : Nat) : List Char := Nat.toDigits 10 n

def integerDigits : Int → List Char
  | .ofNat n => naturalDigits n
  | .negSucc n => '-' :: naturalDigits (n + 1)

def integerText (n : Int) : String := String.ofList (integerDigits n)

def digitsValue (digits : List Char) : Nat :=
  digits.foldl (fun n c => 10 * n + (c.toNat - 48)) 0

/-- A sign and the text after it. -/
def takeSign : List Char → Bool × List Char
  | '-' :: rest => (true, rest)
  | '+' :: rest => (false, rest)
  | cs => (false, cs)

example : integerDigits (-120) = ['-', '1', '2', '0'] := by decide

def hexDigit (n : Nat) : Char :=
  if n < 10 then Char.ofNat (n + 48) else Char.ofNat (n + 87)

/-- The last `width` hexadecimal digits of `n`. -/
def hexDigits : Nat → Nat → List Char
  | 0, _ => []
  | width + 1, n => hexDigits width (n / 16) ++ [hexDigit (n % 16)]

def hexValue? (c : Char) : Option Nat :=
  if '0' ≤ c ∧ c ≤ '9' then some (c.toNat - 48)
  else if 'a' ≤ c ∧ c ≤ 'f' then some (c.toNat - 87)
  else if 'A' ≤ c ∧ c ≤ 'F' then some (c.toNat - 55)
  else none

@[simp] theorem hexDigits_zero (n : Nat) : hexDigits 0 n = [] := rfl

theorem hexDigits_succ (width n : Nat) :
    hexDigits (width + 1) n = hexDigits width (n / 16) ++ [hexDigit (n % 16)] := rfl

@[simp] theorem length_hexDigits (width n : Nat) : (hexDigits width n).length = width := by
  induction width generalizing n with
  | zero => rfl
  | succ width ih => simp [hexDigits_succ, ih]

example : hexDigits 4 255 = ['0', '0', 'f', 'f'] := by decide

end CredentialWrite.Text
