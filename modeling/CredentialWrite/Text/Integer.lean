import CredentialWrite.Text.Digits
import CredentialWrite.Text.Split

/-!
# Reading integers

An integer is an optional sign and digits, with blanks around it and single underscores between
digits. The digits may be those of any script: each script has its ten digits at consecutive code
points, so the table lists the zeros only. It follows version 14 of the Unicode character database.
No more than 4300 digits are read.
-/

namespace CredentialWrite.Text

def digitZeros : List Nat := [
  0x30, 0x660, 0x6F0, 0x7C0, 0x966, 0x9E6, 0xA66, 0xAE6, 0xB66, 0xBE6, 0xC66, 0xCE6, 0xD66,
  0xDE6, 0xE50, 0xED0, 0xF20, 0x1040, 0x1090, 0x17E0, 0x1810, 0x1946, 0x19D0, 0x1A80, 0x1A90,
  0x1B50, 0x1BB0, 0x1C40, 0x1C50, 0xA620, 0xA8D0, 0xA900, 0xA9D0, 0xA9F0, 0xAA50, 0xABF0, 0xFF10,
  0x104A0, 0x10D30, 0x11066, 0x110F0, 0x11136, 0x111D0, 0x112F0, 0x11450, 0x114D0, 0x11650,
  0x116C0, 0x11730, 0x118E0, 0x11950, 0x11C50, 0x11D50, 0x11DA0, 0x16A60, 0x16AC0, 0x16B50,
  0x1D7CE, 0x1D7D8, 0x1D7E2, 0x1D7EC, 0x1D7F6, 0x1E140, 0x1E2F0, 0x1E950, 0x1FBF0]

/-- The value of a decimal digit of any script. -/
def digitValue? (c : Char) : Option Nat :=
  (digitZeros.find? fun start => start ≤ c.toNat && c.toNat < start + 10).map (c.toNat - ·)

example : digitValue? '7' = some 7 ∧ digitValue? 'x' = none ∧ digitValue? '٣' = some 3 := by decide

/-- The text without underscores, each of which must stand between digits. -/
def joinDigits? : Bool → List Char → Option (List Char)
  | _, [] => some []
  | afterDigit, '_' :: c :: rest =>
    if afterDigit && isDigit c then (joinDigits? true rest).map (c :: ·) else none
  | _, c :: rest => if c = '_' then none else (joinDigits? (isDigit c) rest).map (c :: ·)

/-- Digits of any script as seven-bit digits. -/
def plainDigit (c : Char) : Char :=
  match digitValue? c with
  | some value => Char.ofNat (48 + value)
  | none => c

/-- The text of a number in seven-bit digits, without blanks around it and without underscores. -/
def numberText? (cs : List Char) : Option (List Char) :=
  joinDigits? false (trimBoth isWhiteSpace (cs.map plainDigit))

def digitLimit : Nat := 4300

def readInteger? (cs : List Char) : Option Int :=
  (numberText? cs).bind fun text =>
    let (negative, digits) := takeSign text
    if digits.isEmpty || !digits.all isDigit || digitLimit < digits.length then none
    else some (if negative then -(digitsValue digits) else digitsValue digits)

example : readInteger? [' ', '-', '1', '_', '0', ' '] = some (-10) := by decide +kernel

example : readInteger? ['1', '_', '_', '0'] = none := by decide +kernel

end CredentialWrite.Text
