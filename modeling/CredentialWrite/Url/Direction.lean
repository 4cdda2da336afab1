import CredentialWrite.Text.Mark
import CredentialWrite.Url.Letter

/-!
# Directions

The direction in which each character of a label is written, for the characters that may stand in
one. Letters from right to left are of two kinds, those of Arabic and its like and all others, and
so are digits, which count apart from letters.
-/

namespace CredentialWrite.Url

open Text

inductive Direction where
  | leftToRight
  | rightToLeft
  | arabicLetter
  | arabicDigit
  | digit
  | hyphen
  | mark
  | joiner
  | neutral
  deriving DecidableEq

namespace Direction

def rightToLeftRanges : List (Nat × Nat) := [
  (0x5D0, 0x5F4), (0x7C0, 0x7EA), (0x7F4, 0x7F5), (0x800, 0x815), (0x81A, 0x81A), (0x824, 0x824),
  (0x828, 0x828), (0x840, 0x858), (0x10800, 0x10A00), (0x10A10, 0x10A35), (0x10A60, 0x10AE4),
  (0x10B00, 0x10CF2), (0x10E80, 0x10EA9), (0x10EB0, 0x10F27), (0x10F70, 0x10F81),
  (0x10FB0, 0x10FF6), (0x1E800, 0x1E8C4), (0x1E922, 0x1E943), (0x1E94B, 0x1E959)]

def arabicRanges : List (Nat × Nat) := [
  (0x620, 0x64A), (0x66E, 0x66F), (0x671, 0x6D5), (0x6E5, 0x6E6), (0x6EE, 0x6EF), (0x6FA, 0x710),
  (0x712, 0x72F), (0x74D, 0x7A5), (0x7B1, 0x7B1), (0x860, 0x88E), (0x8A0, 0x8C9), (0xFE73, 0xFE73),
  (0x10D00, 0x10D23), (0x10F30, 0x10F45)]

def neutralRanges : List (Nat × Nat) := [
  (0xB7, 0xB7), (0x2B9, 0x2BA), (0x2C6, 0x2CF), (0x2EC, 0x2EC), (0x375, 0x375), (0x2E2F, 0x2E2F),
  (0x30FB, 0x30FB), (0xA67F, 0xA67F), (0xA717, 0xA71F), (0xA788, 0xA788)]

/-- Marks that are written from left to right like letters. -/
def writtenMarks : List Nat := [0xCBF, 0xCC6, 0x11A07, 0x11A08, 0x11C3F]

/-- The direction of a character that may stand in a label, none for a later letter. -/
def ofCode? (n : Nat) : Option Direction :=
  if isRecentLetter n then none
  else if inRanges n [(0x30, 0x39), (0x6F0, 0x6F9)] then some digit
  else if inRanges n [(0x660, 0x669), (0x10D30, 0x10D39)] then some arabicDigit
  else if n = 0x2D then some hyphen
  else if n = 0x200C || n = 0x200D then some joiner
  else if inRanges n neutralRanges then some neutral
  else if isNonSpacing n && !writtenMarks.contains n then some mark
  else if inRanges n arabicRanges then some arabicLetter
  else if inRanges n rightToLeftRanges then some rightToLeft
  else some leftToRight

/-- The directions that make a label one from right to left. -/
def isBackward : Direction → Bool
  | rightToLeft | arabicLetter | arabicDigit => true
  | _ => false

end Direction

end CredentialWrite.Url
