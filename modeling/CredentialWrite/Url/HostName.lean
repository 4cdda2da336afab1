import CredentialWrite.Text.Case
import CredentialWrite.Text.Split
import CredentialWrite.Url.Label

/-!
# Host names

A host name is a row of labels between dots, of which there are four kinds; the last label may be
empty. A name with wide characters has a seven-bit form, made label by label from its letters in
lower case. A name that is in seven-bit form already is only checked, and only where its first label
is in Punycode.
-/

namespace CredentialWrite

inductive HostNameFault where
  | label (fault : LabelFault)
  | tooLong
  deriving DecidableEq

def HostNameFault.message : HostNameFault → String
  | label fault => fault.message
  | tooLong => "Domain too long"

namespace HostName

open Text

def isDot (c : Char) : Bool := c = '.' || c = '\u3002' || c = '\uff0e' || c = '\uff61'

/-- A name that ends in a dot may be longer by it. -/
def lengthLimit (isRooted : Bool) : Nat := if isRooted then 254 else 253

/-- The labels between dots, and whether the name ends in one. -/
def labels (name : List Char) : List (List Char) × Bool :=
  let dotted := name.map fun c => if isDot c then '.' else c
  let isRooted := dotted.getLast? = some '.'
  (split '.' (if isRooted then dotted.dropLast else dotted), isRooted)

/-- The seven-bit form of a name; a dot at its end stays. -/
def toAscii (name : List Char) : Except HostNameFault (List Char) := do
  let lower := lowerCased name
  if lengthLimit true < lower.length then throw .tooLong
  let (labels, isRooted) := labels lower
  let ascii ← (labels.mapM Label.toAscii).mapError .label
  let name := join '.' ascii ++ if isRooted then ['.'] else []
  if lengthLimit isRooted < name.length then throw .tooLong
  return name

/-- Checks a name in seven-bit form. -/
def check (name : List Char) : Except HostNameFault Unit := do
  if Label.encodedMark.isPrefixOf name then
    if lengthLimit true < name.length then throw .tooLong
    ((labels name).1.forM Label.checkAscii).mapError .label

example : (toAscii "Bücher.example".toList).toOption = some "xn--bcher-kva.example".toList := by
  decide +kernel

end HostName

end CredentialWrite
