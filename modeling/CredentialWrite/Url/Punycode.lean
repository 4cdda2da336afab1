/-!
# Punycode

Wide characters written with seven-bit letters and digits. The seven-bit characters of a text come
first; after a hyphen, every other character follows as a number that says how far to go on from
the one before, in order of code points and of places. A number is written in digits whose base
depends on their place and on a bias that follows the size of the numbers so far. Text is a list of
code points; one that was read may hold some that are no characters.
-/

namespace CredentialWrite.Url.Punycode

def digit (d : Nat) : Char := if d < 26 then Char.ofNat (0x61 + d) else Char.ofNat (0x16 + d)

/-- Below this a digit is the last one. -/
def threshold (place bias : Nat) : Nat := min 26 (max 1 (place - bias))

/-- The digits of a number from a place on, the least first. -/
def digits (bias : Nat) : Nat → Nat → Nat → List Char
  | 0, _, n => [digit n]
  | fuel + 1, place, n =>
    let t := threshold place bias
    if n < t then [digit n]
    else digit (t + (n - t) % (36 - t)) :: digits bias fuel (place + 36) ((n - t) / (36 - t))

def settle : Nat → Nat → Nat → Nat
  | fuel + 1, bias, d =>
    if 455 < d then settle fuel (bias + 36) (d / 35) else bias + 36 * d / (d + 38)
  | 0, bias, _ => bias

/-- The bias after a number, when `count` characters have been written. -/
def adapt (isFirst : Bool) (n count : Nat) : Nat :=
  let d := n / if isFirst then 700 else 2
  let d := d + d / count
  settle d 0 d

/-- What has been written, and the distance gone since the last number. -/
structure State where
  text : List Char
  code : Nat
  distance : Nat
  bias : Nat
  count : Nat
  isFirst : Bool

/-- Passes a place of the text while the characters with one code point are written. -/
def State.pass (code : Nat) (s : State) (n : Nat) : State :=
  if n < code then { s with distance := s.distance + 1 }
  else if n = code then
    { text := s.text ++ digits s.bias s.distance 36 s.distance
      code := s.code
      distance := 0
      bias := adapt s.isFirst s.distance (s.count + 1)
      count := s.count + 1
      isFirst := false }
  else s

/-- Writes all characters with one code point. -/
def State.write (text : List Nat) (s : State) (code : Nat) : State :=
  let start := { s with distance := s.distance + (code - s.code) * (s.count + 1) }
  let done := text.foldl (State.pass code) start
  { done with code := code + 1, distance := done.distance + 1 }

/-- Puts a code point into its place among others, once. -/
def insertCode (n : Nat) : List Nat → List Nat
  | [] => [n]
  | m :: rest => if n < m then n :: m :: rest else if n = m then m :: rest
    else m :: insertCode n rest

def encode (text : List Nat) : List Char :=
  let plain := text.filter (· < 0x80)
  let codes := (text.filter (0x80 ≤ ·)).foldr insertCode []
  let start : State := ⟨[], 0x80, 0, 72, plain.length, true⟩
  plain.map Char.ofNat ++ (if plain.isEmpty then [] else ['-']) ++
    (codes.foldl (State.write text) start).text

def digitValue? (c : Char) : Option Nat :=
  if 'a' ≤ c ∧ c ≤ 'z' then some (c.toNat - 0x61)
  else if 'A' ≤ c ∧ c ≤ 'Z' then some (c.toNat - 0x41)
  else if '0' ≤ c ∧ c ≤ '9' then some (c.toNat - 0x16)
  else none

/-- The number whose digits come from a place on, and the characters after it. -/
def readNumber? (bias place weight value : Nat) : List Char → Option (Nat × List Char)
  | [] => none
  | c :: rest => match digitValue? c with
    | none => none
    | some d =>
      let t := threshold place bias
      let value := value + d * weight
      if d < t then some (value, rest)
      else readNumber? bias (place + 36) (weight * (36 - t)) value rest

/-- Puts the characters that numbers stand for into a text, the next with at least `code` from the
place `start` on. Reads at most `fuel` of them. -/
def insertAll? (bias code start : Nat) (isFirst : Bool) (text : List Nat) :
    Nat → List Char → Option (List Nat)
  | _, [] => some text
  | 0, _ => none
  | fuel + 1, cs => match readNumber? bias 36 1 0 cs with
    | none => none
    | some (distance, rest) =>
      let count := text.length + 1
      let code := code + (start + distance) / count
      let place := (start + distance) % count
      if 0x10FFFF < code then none
      else
        insertAll? (adapt isFirst distance count) code (place + 1) false
          (text.insertIdx place code) fuel rest

/-- The text that was written; the last hyphen ends its seven-bit characters. -/
def decode? (cs : List Char) : Option (List Nat) :=
  let plain := ((cs.reverse.dropWhile (· != '-')).drop 1).reverse
  let numbers := (cs.reverse.takeWhile (· != '-')).reverse
  insertAll? 72 0x80 0 true (plain.map Char.toNat) numbers.length numbers

def codes (s : String) : List Nat := s.toList.map Char.toNat

example : encode (codes "bücher") = "bcher-kva".toList := by decide +kernel

example : encode (codes "例え") = "r8jz45g".toList := by decide +kernel

example : decode? "bcher-kva".toList = some (codes "bücher") ∧ decode? "a%20b".toList = none := by
  decide +kernel

end CredentialWrite.Url.Punycode
