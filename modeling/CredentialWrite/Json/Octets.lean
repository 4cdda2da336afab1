import CredentialWrite.Json.Basic
import CredentialWrite.Text.Digits
import CredentialWrite.Text.Utf8

/-!
# Writing JSON octet by octet

JSON written straight into octets. A string is written from the octets of its text, and a table
tells of each octet whether it stands for itself, is escaped by a letter or is escaped by its
number. Octets from 0x80 on, of which all characters of more than seven bits are made, stand for
themselves. Every item but the first has a comma before it.
-/

namespace CredentialWrite.Json

open Text

variable {ν : Type}

/-- How an octet of a string is written. -/
inductive OctetEscape where
  | none
  | letter (octet : UInt8)
  | number

namespace OctetEscape

def of (octet : UInt8) : OctetEscape :=
  if octet = 0x22 || octet = 0x5C then .letter octet
  else if octet = 0x08 then .letter 0x62
  else if octet = 0x09 then .letter 0x74
  else if octet = 0x0A then .letter 0x6E
  else if octet = 0x0C then .letter 0x66
  else if octet = 0x0D then .letter 0x72
  else if octet < 0x20 then .number
  else .none

def hexOctet (n : UInt8) : UInt8 := if n < 10 then 0x30 + n else 0x57 + n

/-- What is written for an octet. -/
def octets (octet : UInt8) : OctetEscape → List UInt8
  | none => [octet]
  | letter l => [0x5C, l]
  | number => [0x5C, 0x75, 0x30, 0x30, hexOctet (octet / 16), hexOctet (octet % 16)]

end OctetEscape

def textOctets (s : String) : List UInt8 :=
  0x22 :: (encodeUtf8 s).flatMap (fun octet => (OctetEscape.of octet).octets octet) ++ [0x22]

def separatorOctets (isFirst : Bool) : List UInt8 := if isFirst then [] else [0x2C]

mutual

/-- The octets of a value, given the text of its numbers. -/
def octets (number : ν → String) : Json ν → List UInt8
  | .null => encodeUtf8 "null"
  | .bool b => encodeUtf8 (if b then "true" else "false")
  | .int n => encodeUtf8 (integerText n)
  | .number x => encodeUtf8 (number x)
  | .text s => textOctets s
  | .array items => 0x5B :: itemOctets number true items ++ [0x5D]
  | .object entries => 0x7B :: entryOctets number true entries ++ [0x7D]

def itemOctets (number : ν → String) (isFirst : Bool) : List (Json ν) → List UInt8
  | [] => []
  | j :: rest => separatorOctets isFirst ++ octets number j ++ itemOctets number false rest

def entryOctets (number : ν → String) (isFirst : Bool) : List (String × Json ν) → List UInt8
  | [] => []
  | (key, j) :: rest =>
    separatorOctets isFirst ++ textOctets key ++ 0x3A :: octets number j ++
      entryOctets number false rest

end

/-- The text of the octets of a value. -/
def renderOctets (number : ν → String) (j : Json ν) : String :=
  (String.fromUTF8? (j.octets number).toByteArray).getD ""

end CredentialWrite.Json
