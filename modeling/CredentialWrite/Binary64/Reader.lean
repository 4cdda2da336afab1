import CredentialWrite.Binary64.Basic
import CredentialWrite.Text.Integer
import CredentialWrite.Text.Split

/-!
# Reading numbers

A decimal number is an optional sign and then `inf`, `infinity` or `nan` in any case, or digits
with at most one point and an optional exponent. `ofText?` reads one with surrounding blanks, the
digits of any script, and single underscores between digits. `ofPlainText?` knows seven-bit digits
only; underscores are dropped where none stands first, last or beside another.
-/

namespace CredentialWrite.Binary64

open Text

/-- The exponent that follows the digits, where nothing else does. -/
def readExponent? : List Char → Option Int
  | [] => some 0
  | c :: rest =>
    if c = 'e' || c = 'E' then
      let (negative, digits) := takeSign rest
      if digits.isEmpty || !digits.all isDigit then none
      else some (if negative then -(digitsValue digits) else digitsValue digits)
    else none

def readUnsigned? (negative : Bool) (cs : List Char) : Option Binary64 :=
  let lower := cs.map Char.toLower
  if lower = ['n', 'a', 'n'] then some .nan
  else if lower = ['i', 'n', 'f'] || lower = ['i', 'n', 'f', 'i', 'n', 'i', 't', 'y'] then
    some (.infinity negative)
  else
    let whole := cs.takeWhile isDigit
    let rest := cs.dropWhile isDigit
    let (places, rest) := match rest with
      | '.' :: rest => (rest.takeWhile isDigit, rest.dropWhile isDigit)
      | rest => ([], rest)
    if whole.isEmpty && places.isEmpty then none
    else (readExponent? rest).map fun exponent =>
      ofDecimal negative (digitsValue (whole ++ places)) (exponent - places.length)

/-- Reads exactly a decimal number. -/
def read? (cs : List Char) : Option Binary64 :=
  let (negative, rest) := takeSign cs
  readUnsigned? negative rest

def ofText? (s : String) : Option Binary64 :=
  (numberText? s.toList).bind read?

/-- An underscore stands next to another one. -/
def hasDoubleUnderscore : List Char → Bool
  | '_' :: '_' :: _ => true
  | _ :: rest => hasDoubleUnderscore rest
  | [] => false

def ofPlainText? (s : String) : Option Binary64 :=
  let cs := s.toList
  match read? (trimBoth isWhiteSpace cs) with
  | some x => some x
  | none =>
    if cs.head? = some '_' || cs.getLast? = some '_' || hasDoubleUnderscore cs ||
        !cs.contains '_' then none
    else read? (cs.filter (· != '_'))

end CredentialWrite.Binary64
