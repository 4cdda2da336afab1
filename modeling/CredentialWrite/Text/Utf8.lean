/-!
# UTF-8

Octets of text, and text from octets. Decoding stops at the first octet that no well-formed
character holds and reports its place: the start of the character that it spoils.
-/

namespace CredentialWrite.Text

def isTail (octet : UInt8) : Bool := 0x80 ≤ octet && octet ≤ 0xBF

def tailBits (octet : UInt8) : Nat := octet.toNat % 0x40

/-- The first character and the octets after it, or nothing where none is well formed. -/
def decodeChar? : List UInt8 → Option (Char × List UInt8)
  | [] => none
  | a :: rest =>
    if a ≤ 0x7F then some (Char.ofNat a.toNat, rest)
    else match rest with
      | [] => none
      | b :: rest =>
        if 0xC2 ≤ a && a ≤ 0xDF && isTail b then
          some (Char.ofNat (a.toNat % 0x20 * 0x40 + tailBits b), rest)
        else match rest with
          | [] => none
          | c :: rest =>
            if 0xE0 ≤ a && a ≤ 0xEF && isTail b && isTail c && (a != 0xE0 || 0xA0 ≤ b) &&
                (a != 0xED || b ≤ 0x9F) then
              some (Char.ofNat ((a.toNat % 0x10 * 0x40 + tailBits b) * 0x40 + tailBits c), rest)
            else match rest with
              | [] => none
              | d :: rest =>
                if 0xF0 ≤ a && a ≤ 0xF4 && isTail b && isTail c && isTail d &&
                    (a != 0xF0 || 0x90 ≤ b) && (a != 0xF4 || b ≤ 0x8F) then
                  some (Char.ofNat (((a.toNat % 0x08 * 0x40 + tailBits b) * 0x40 + tailBits c) *
                    0x40 + tailBits d), rest)
                else none

/-- Decodes at most `fuel` characters; a failure tells how many octets were left unread. -/
def decodeChars : Nat → List UInt8 → Except Nat (List Char)
  | _, [] => .ok []
  | 0, octets => .error octets.length
  | fuel + 1, octets =>
    match decodeChar? octets with
    | none => .error octets.length
    | some (c, rest) => (decodeChars fuel rest).map (c :: ·)

/-- The text that the octets hold, or the place of the first octet that is not text. -/
def decodeUtf8 (octets : List UInt8) : Except Nat String :=
  match decodeChars octets.length octets with
  | .ok cs => .ok (String.ofList cs)
  | .error unread => .error (octets.length - unread)

def encodeUtf8 (s : String) : List UInt8 := s.toList.flatMap String.utf8EncodeChar

example : decodeChars 3 [0xC3, 0xA9, 0x41] = .ok ['é', 'A'] := by rfl

example : decodeChars 3 [0x41, 0xFF, 0x41] = .error 2 := by rfl

end CredentialWrite.Text
