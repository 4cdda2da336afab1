import CredentialWrite.Json.Basic
import CredentialWrite.Text.Digits

/-!
# Reading JSON

Reads a value and gives the text that follows it. Numbers with a fraction or an exponent are kept
as their text. A pair of surrogate escapes is one character; a surrogate on its own reads as the
replacement character. The fuel counts values and separators; the length of the text bounds it.
-/

namespace CredentialWrite.Json

open Text

def isSpace (c : Char) : Bool := c = ' ' || c = '\t' || c = '\n' || c = '\r'

def skipSpace : List Char → List Char
  | [] => []
  | c :: rest => if isSpace c then skipSpace rest else c :: rest

def hexNumber? (a b c d : Char) : Option Nat := do
  let a ← hexValue? a
  let b ← hexValue? b
  let c ← hexValue? c
  let d ← hexValue? d
  return ((a * 16 + b) * 16 + c) * 16 + d

def unescape? : Char → Option Char
  | '"' => some '"'
  | '\\' => some '\\'
  | '/' => some '/'
  | 'b' => some '\x08'
  | 'f' => some '\x0c'
  | 'n' => some '\n'
  | 'r' => some '\r'
  | 't' => some '\t'
  | _ => none

/-- The code units of a string up to its closing quote, and the text after it. -/
def readUnits : List Char → Option (List Nat × List Char)
  | [] => none
  | '"' :: rest => some ([], rest)
  | '\\' :: 'u' :: a :: b :: c :: d :: rest => do
    let unit ← hexNumber? a b c d
    let (units, rest) ← readUnits rest
    return (unit :: units, rest)
  | '\\' :: e :: rest => do
    let c ← unescape? e
    let (units, rest) ← readUnits rest
    return (c.toNat :: units, rest)
  | c :: rest =>
    if c = '\\' || c.toNat < 0x20 then none
    else do
      let (units, rest) ← readUnits rest
      return (c.toNat :: units, rest)

def isHighSurrogate (n : Nat) : Bool := 0xD800 ≤ n && n < 0xDC00

def isLowSurrogate (n : Nat) : Bool := 0xDC00 ≤ n && n < 0xE000

def charOfUnit (n : Nat) : Char :=
  if isHighSurrogate n || isLowSurrogate n then Char.ofNat 0xFFFD else Char.ofNat n

/-- Characters from code units; surrogate pairs are joined. -/
def joinUnits : List Nat → List Char
  | [] => []
  | [unit] => [charOfUnit unit]
  | high :: low :: rest =>
    if isHighSurrogate high && isLowSurrogate low then
      Char.ofNat (0x10000 + (high - 0xD800) * 0x400 + (low - 0xDC00)) :: joinUnits rest
    else charOfUnit high :: joinUnits (low :: rest)

/-- The string after an opening quote. -/
def readString? (cs : List Char) : Option (String × List Char) :=
  (readUnits cs).map fun (units, rest) => (String.ofList (joinUnits units), rest)

def isNumberChar (c : Char) : Bool :=
  isDigit c || c = '-' || c = '+' || c = '.' || c = 'e' || c = 'E'

/-- Digits without a zero before another. -/
def isWhole (digits : List Char) : Bool :=
  digits = ['0'] || (!digits.isEmpty && digits.all isDigit && digits.head? != some '0')

def isExponent : List Char → Bool
  | [] => true
  | c :: rest =>
    let digits := (takeSign rest).2
    (c = 'e' || c = 'E') && !digits.isEmpty && digits.all isDigit

/-- What may follow the digits before the point. -/
def isFraction : List Char → Bool
  | '.' :: rest => !(rest.takeWhile isDigit).isEmpty && isExponent (rest.dropWhile isDigit)
  | rest => isExponent rest

/-- A number: a minus or nothing, then digits, maybe a point and more digits, maybe an exponent. -/
def isNumber (text : List Char) : Bool :=
  let rest := if text.head? = some '-' then text.tail else text
  isWhole (rest.takeWhile isDigit) && isFraction (rest.dropWhile isDigit)

/-- An integer has digits alone after its sign. -/
def numberOfText (text : List Char) : Json String :=
  let (negative, digits) := takeSign text
  if digits.all isDigit then
    .int (if negative then -(digitsValue digits) else digitsValue digits)
  else .number (String.ofList text)

def readNumber? (cs : List Char) : Option (Json String × List Char) :=
  let text := cs.takeWhile isNumberChar
  if isNumber text then some (numberOfText text, cs.dropWhile isNumberChar) else none

mutual

def readValue : Nat → List Char → Option (Json String × List Char)
  | 0, _ => none
  | fuel + 1, cs =>
    match skipSpace cs with
    | 'n' :: 'u' :: 'l' :: 'l' :: rest => some (.null, rest)
    | 't' :: 'r' :: 'u' :: 'e' :: rest => some (.bool true, rest)
    | 'f' :: 'a' :: 'l' :: 's' :: 'e' :: rest => some (.bool false, rest)
    | '"' :: rest => (readString? rest).map fun (s, rest) => (.text s, rest)
    | '[' :: rest =>
      match skipSpace rest with
      | ']' :: rest => some (.array [], rest)
      | rest => do
        let (j, rest) ← readValue fuel rest
        let (items, rest) ← readItems fuel rest
        return (.array (j :: items), rest)
    | '\x7b' :: rest =>
      match skipSpace rest with
      | '\x7d' :: rest => some (.object [], rest)
      | rest => do
        let (entry, rest) ← readEntry fuel rest
        let (entries, rest) ← readEntries fuel rest
        return (.object (entry :: entries), rest)
    | rest => readNumber? rest

def readItems : Nat → List Char → Option (List (Json String) × List Char)
  | 0, _ => none
  | fuel + 1, cs =>
    match skipSpace cs with
    | ']' :: rest => some ([], rest)
    | ',' :: rest => do
      let (j, rest) ← readValue fuel rest
      let (items, rest) ← readItems fuel rest
      return (j :: items, rest)
    | _ => none

def readEntry : Nat → List Char → Option ((String × Json String) × List Char)
  | 0, _ => none
  | fuel + 1, cs =>
    match skipSpace cs with
    | '"' :: rest => do
      let (key, rest) ← readString? rest
      match skipSpace rest with
      | ':' :: rest => do
        let (j, rest) ← readValue fuel rest
        return ((key, j), rest)
      | _ => none
    | _ => none

def readEntries : Nat → List Char → Option (List (String × Json String) × List Char)
  | 0, _ => none
  | fuel + 1, cs =>
    match skipSpace cs with
    | '\x7d' :: rest => some ([], rest)
    | ',' :: rest => do
      let (entry, rest) ← readEntry fuel rest
      let (entries, rest) ← readEntries fuel rest
      return (entry :: entries, rest)
    | _ => none

end

/-- The value that a text holds, with nothing but blanks around it. -/
def parse? (s : String) : Option (Json String) :=
  let cs := s.toList
  match readValue (2 * cs.length + 2) cs with
  | some (j, rest) => if (skipSpace rest).isEmpty then some j else none
  | none => none

end CredentialWrite.Json
