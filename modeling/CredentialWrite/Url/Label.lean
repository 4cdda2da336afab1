import CredentialWrite.Text.Composed
import CredentialWrite.Text.Quoted
import CredentialWrite.Url.Direction
import CredentialWrite.Url.Joining
import CredentialWrite.Url.Punycode
import CredentialWrite.Url.Script

/-!
# Labels of host names

A label is a part of a host name between two dots, here a list of code points. It holds letters,
digits and inner hyphens, not two of these as third and fourth character, is composed and does not
begin with a mark. Signs and joiners have their places. One written from right to left begins with
a letter of such a script and ends with a letter or digit, holds no letter of the other direction
and only one kind of digits. In seven-bit form a wide label is written in Punycode after a mark of
its own, and only its own Punycode stands for it.
-/

namespace CredentialWrite

/-- What keeps a text from being a label. Places count from 1. -/
inductive LabelFault where
  | empty
  | tooLong
  | notComposed
  | doubleHyphen
  | hyphenAtEnd
  | markFirst
  | notAllowed (label : List Nat) (code place : Nat)
  | joinerOutOfPlace (label : List Nat) (code place : Nat)
  | signOutOfPlace (label : List Nat) (code place : Nat)
  | unknownDirection (label : List Nat) (place : Nat)
  | wrongStart (label : List Nat)
  | wrongDirection (isBackward : Bool) (place : Nat)
  | mixedDigits
  | wrongEnd
  | noPunycode
  | hyphenAfterPunycode
  | badPunycode
  | otherPunycode
  deriving DecidableEq

namespace Label

open Text Url

/-- A label is no longer than a host name. -/
def lengthLimit : Nat := 254

def hyphen : Nat := 0x2D

/-- Checks every character in its place; those before come nearest first. -/
def checkCharacters (label before : List Nat) : List Nat → Except LabelFault Unit
  | [] => .ok ()
  | n :: after =>
    let place := before.length + 1
    let fault? : Option LabelFault :=
      if isLabelLetter n then none
      else if n = joiner || n = nonJoiner then
        if isJoinerInPlace before n after then none else some (.joinerOutOfPlace label n place)
      else if isSign n then
        if isSignInPlace label before n after then none else some (.signOutOfPlace label n place)
      else some (.notAllowed label n place)
    match fault? with
    | some fault => .error fault
    | none => checkCharacters label (n :: before) after

/-- The direction of every character, from a place on. -/
def directions (label : List Nat) : Nat → List Nat → Except LabelFault (List Direction)
  | _, [] => .ok []
  | place, n :: rest => match Direction.ofCode? n with
    | none => .error (.unknownDirection label place)
    | some d => (directions label (place + 1) rest).map (d :: ·)

/-- Checks the directions from a place on in a label of one direction; `digits` is the kind of the
digits so far. -/
def checkOneWay (isBackward : Bool) (place : Nat) (digits : Option Direction) :
    List Direction → Except LabelFault Unit
  | [] => .ok ()
  | d :: rest =>
    if isBackward then
      if d = .leftToRight then .error (.wrongDirection isBackward place)
      else if d = .digit || d = .arabicDigit then
        if digits.any (· != d) then .error .mixedDigits
        else checkOneWay isBackward (place + 1) (some d) rest
      else checkOneWay isBackward (place + 1) digits rest
    else if d.isBackward then .error (.wrongDirection isBackward place)
    else checkOneWay isBackward (place + 1) digits rest

/-- Marks after the last letter do not count. -/
def endsWell (isBackward : Bool) (ds : List Direction) : Bool :=
  (ds.filter (· != .mark)).getLast?.any fun d =>
    d = .digit || if isBackward then d.isBackward else d = .leftToRight

def checkDirections (label : List Nat) : Except LabelFault Unit := do
  let ds ← directions label 1 label
  if !ds.any Direction.isBackward then return
  let isBackward ← match ds.head? with
    | some .rightToLeft | some .arabicLetter => pure true
    | some .leftToRight => pure false
    | _ => throw (.wrongStart label)
  checkOneWay isBackward 1 none ds
  if !endsWell isBackward ds then throw .wrongEnd

def check (label : List Nat) : Except LabelFault Unit := do
  if label.isEmpty then throw .empty
  if lengthLimit < label.length then throw .tooLong
  if !isComposed label then throw .notComposed
  if (label.drop 2).take 2 = [hyphen, hyphen] then throw .doubleHyphen
  if label.head? = some hyphen || label.getLast? = some hyphen then throw .hyphenAtEnd
  if label.head?.any isMark then throw .markFirst
  checkCharacters label [] label
  checkDirections label

/-- The mark of labels in Punycode. -/
def encodedMark : List Char := ['x', 'n', '-', '-']

/-- Checks a label in seven-bit characters and lower case. -/
def checkAscii (label : List Char) : Except LabelFault Unit :=
  if encodedMark.isPrefixOf label then do
    let encoded := label.drop encodedMark.length
    if encoded.isEmpty then throw .noPunycode
    if encoded.getLast? = some '-' then throw .hyphenAfterPunycode
    match Punycode.decode? encoded with
    | none => throw .badPunycode
    | some decoded =>
      check decoded
      if Punycode.encode decoded != encoded then throw .otherPunycode
  else check (label.map Char.toNat)

def isAscii (c : Char) : Bool := c.toNat < 0x80

/-- No label is longer in seven-bit form. -/
def asciiLimit : Nat := 63

/-- The seven-bit form of a label in lower case. -/
def toAscii (label : List Char) : Except LabelFault (List Char) := do
  let ascii ← if label.all isAscii then do
      checkAscii label
      pure label
    else do
      check (label.map Char.toNat)
      pure (encodedMark ++ Punycode.encode (label.map Char.toNat))
  if asciiLimit < ascii.length then throw .tooLong
  return ascii

end Label

namespace LabelFault

open Text

/-- A code point as it is named in messages. -/
def codeText (n : Nat) : String :=
  let digits := (Nat.toDigits 16 n).map Char.toUpper
  "U+" ++ String.ofList (List.replicate (4 - digits.length) '0' ++ digits)

def message : LabelFault → String
  | empty => "Empty Label"
  | tooLong => "Label too long"
  | notComposed => "Label must be in Normalization Form C"
  | doubleHyphen => "Label has disallowed hyphens in 3rd and 4th position"
  | hyphenAtEnd => "Label must not start or end with a hyphen"
  | markFirst => "Label begins with an illegal combining character"
  | notAllowed label code place =>
    "Codepoint " ++ codeText code ++ " at position " ++ toString place ++ " of " ++
      quotedCodes label ++ " not allowed"
  | joinerOutOfPlace label code place =>
    "Unknown codepoint adjacent to joiner " ++ codeText code ++ " at position " ++
      toString place ++ " in " ++ quotedCodes label
  | signOutOfPlace label code place =>
    "Codepoint " ++ codeText code ++ " not allowed at position " ++ toString place ++ " in " ++
      quotedCodes label
  | unknownDirection label place =>
    "Unknown directionality in label " ++ quotedCodes label ++ " at position " ++ toString place
  | wrongStart label =>
    "First codepoint in label " ++ quotedCodes label ++ " must be directionality L, R or AL"
  | wrongDirection isBackward place =>
    "Invalid direction for codepoint at position " ++ toString place ++ " in a " ++
      (if isBackward then "right-to-left" else "left-to-right") ++ " label"
  | mixedDigits => "Can not mix numeral types in a right-to-left label"
  | wrongEnd => "Label ends with illegal codepoint directionality"
  | noPunycode => "Malformed A-label, no Punycode eligible content found"
  | hyphenAfterPunycode => "A-label must not end with a hyphen"
  | badPunycode => "Invalid A-label"
  | otherPunycode => "A-label is not the canonical Punycode encoding of its U-label"

end LabelFault

end CredentialWrite
