import CredentialWrite.Text.Digits
import CredentialWrite.Text.Printable

/-!
# Quoted text

Text and octets between quotes, as messages and printed records show them. The quote is `'` unless
the content has a `'` and no `"`. A backslash, the chosen quote, tab, line feed and carriage
return take a backslash; every other character that is not printable is written by its number, in
two, four or eight hexadecimal digits.
-/

namespace CredentialWrite.Text

def quoteFor (content : List Char) : Char :=
  if content.contains '\'' && !content.contains '"' then '"' else '\''

/-- A code point by its number, with the fewest of two, four or eight digits. -/
def numberEscape (n : Nat) : List Char :=
  if n < 0x100 then '\\' :: 'x' :: hexDigits 2 n
  else if n < 0x10000 then '\\' :: 'u' :: hexDigits 4 n
  else '\\' :: 'U' :: hexDigits 8 n

def quotedChar (quote c : Char) : List Char :=
  if c = quote || c = '\\' then ['\\', c]
  else if c = '\t' then ['\\', 't']
  else if c = '\n' then ['\\', 'n']
  else if c = '\r' then ['\\', 'r']
  else if isPrintable c then [c]
  else numberEscape c.toNat

def quotedChars (content : List Char) : List Char :=
  let quote := quoteFor content
  quote :: content.flatMap (quotedChar quote) ++ [quote]

def quoted (s : String) : String := String.ofList (quotedChars s.toList)

/-- Code points in quotes; those that are no characters are written by number. -/
def quotedCodes (codes : List Nat) : String :=
  let quote := quoteFor (codes.map Char.ofNat)
  String.ofList (quote :: codes.flatMap (fun n =>
    if n.isValidChar then quotedChar quote (Char.ofNat n) else numberEscape n) ++ [quote])

/-- An octet above the seven-bit range is never printable. -/
def quotedOctet (quote : Char) (octet : UInt8) : List Char :=
  if octet.toNat < 0x80 then quotedChar quote (Char.ofNat octet.toNat)
  else numberEscape octet.toNat

def octetQuote (octets : List UInt8) : Char :=
  quoteFor (octets.map fun octet => Char.ofNat octet.toNat)

def quotedOctets (octets : List UInt8) : String :=
  let quote := octetQuote octets
  String.ofList ('b' :: quote :: octets.flatMap (quotedOctet quote) ++ [quote])

/-- In a buffer `'` takes a backslash whichever quote is chosen. -/
def quotedBuffer (octets : List UInt8) : String :=
  let quote := octetQuote octets
  String.ofList ('b' :: quote :: octets.flatMap (quotedOctet '\'') ++ [quote])

example : quotedChars ['i', 't', '\'', 's'] = ['"', 'i', 't', '\'', 's', '"'] := by decide

example : quotedChars ['a', '\n', 'é', '\u200b'] =
    ['\'', 'a', '\\', 'n', 'é', '\\', 'u', '2', '0', '0', 'b', '\''] := by decide +kernel

end CredentialWrite.Text
