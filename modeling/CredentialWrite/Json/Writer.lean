import CredentialWrite.Json.Basic
import CredentialWrite.Text.Digits

/-!
# Writing JSON

Text without any blanks. In a string the quote, the backslash and the control characters below
the space are escaped, five of these by a letter and the rest by four hexadecimal digits; every
other character stands for itself.
-/

namespace CredentialWrite.Json

open Text

variable {ν : Type}

def escapeChar (c : Char) : List Char :=
  if c = '"' then ['\\', '"']
  else if c = '\\' then ['\\', '\\']
  else if c = '\n' then ['\\', 'n']
  else if c = '\r' then ['\\', 'r']
  else if c = '\t' then ['\\', 't']
  else if c.toNat = 8 then ['\\', 'b']
  else if c.toNat = 12 then ['\\', 'f']
  else if c.toNat < 0x20 then '\\' :: 'u' :: hexDigits 4 c.toNat
  else [c]

def writeText (s : String) : List Char := '"' :: s.toList.flatMap escapeChar ++ ['"']

mutual

/-- The text of a value, given the text of its numbers. -/
def write (number : ν → List Char) : Json ν → List Char
  | .null => ['n', 'u', 'l', 'l']
  | .bool true => ['t', 'r', 'u', 'e']
  | .bool false => ['f', 'a', 'l', 's', 'e']
  | .int n => integerDigits n
  | .number x => number x
  | .text s => writeText s
  | .array [] => ['[', ']']
  | .array (j :: rest) => '[' :: write number j ++ writeItems number rest
  | .object [] => ['\x7b', '\x7d']
  | .object ((key, j) :: rest) =>
    '\x7b' :: writeText key ++ ':' :: write number j ++ writeEntries number rest

/-- The items after the first one and the closing bracket. -/
def writeItems (number : ν → List Char) : List (Json ν) → List Char
  | [] => [']']
  | j :: rest => ',' :: write number j ++ writeItems number rest

def writeEntries (number : ν → List Char) : List (String × Json ν) → List Char
  | [] => ['\x7d']
  | (key, j) :: rest =>
    ',' :: writeText key ++ ':' :: write number j ++ writeEntries number rest

end

def render (number : ν → String) (j : Json ν) : String :=
  String.ofList (write (fun x => (number x).toList) j)

example : write (fun x : List Char => x)
    (.object [("a", .array [.int (-1), .null]), ("b", .number ['1', '.', '5'])]) =
    ['\x7b', '"', 'a', '"', ':', '[', '-', '1', ',', 'n', 'u', 'l', 'l', ']', ',',
      '"', 'b', '"', ':', '1', '.', '5', '\x7d'] := by decide +kernel

end CredentialWrite.Json
