import CredentialWrite.Text.Quoted
import CredentialWrite.Text.Utf8
import Mathlib.Tactic.SplitIfs

/-!
# Octets as text

Octets are decoded to no more characters than there are octets, and are written out between quotes
in more. So what octets read as is never what they are written as.
-/

namespace CredentialWrite.Text

theorem length_lt_of_decodeChar? {octets rest : List UInt8} {c : Char}
    (h : decodeChar? octets = some (c, rest)) : rest.length < octets.length := by
  revert h
  fun_cases decodeChar? octets
  all_goals
    intro h
    cases h
  all_goals
    simp only [List.length_cons]
    omega

theorem length_decodeChars_le {fuel : Nat} {octets : List UInt8} {cs : List Char}
    (h : decodeChars fuel octets = .ok cs) : cs.length ≤ octets.length := by
  induction fuel generalizing octets cs with
  | zero =>
    cases octets with
    | nil =>
      cases h
      exact Nat.le_refl 0
    | cons => cases h
  | succ fuel ih =>
    cases octets with
    | nil =>
      cases h
      exact Nat.le_refl 0
    | cons a octets =>
      simp only [decodeChars] at h
      split at h
      · cases h
      · next c rest hc =>
        cases hr : decodeChars fuel rest with
        | error unread =>
          rw [hr] at h
          cases h
        | ok cs' =>
          rw [hr] at h
          cases h
          have shorter := length_lt_of_decodeChar? hc
          have decoded := ih hr
          rw [List.length_cons]
          omega

theorem length_decodeUtf8_le {octets : List UInt8} {t : String} (h : decodeUtf8 octets = .ok t) :
    t.length ≤ octets.length := by
  unfold decodeUtf8 at h
  split at h
  · next cs hcs =>
    cases h
    rw [String.length_ofList]
    exact length_decodeChars_le hcs
  · cases h

theorem length_numberEscape_pos (n : Nat) : 0 < (numberEscape n).length := by
  unfold numberEscape
  split_ifs <;> simp

theorem length_quotedOctet_pos (quote : Char) (octet : UInt8) :
    0 < (quotedOctet quote octet).length := by
  have escaped := length_numberEscape_pos octet.toNat
  unfold quotedOctet
  split
  · have escaped' := length_numberEscape_pos (Char.ofNat octet.toNat).toNat
    unfold quotedChar
    split_ifs <;> simp [escaped']
  · exact escaped

theorem length_le_flatMap_quotedOctet (quote : Char) (octets : List UInt8) :
    octets.length ≤ (octets.flatMap (quotedOctet quote)).length := by
  induction octets with
  | nil => exact Nat.le_refl 0
  | cons octet rest ih =>
    have one := length_quotedOctet_pos quote octet
    rw [List.flatMap_cons, List.length_append, List.length_cons]
    omega

theorem length_lt_quotedOctets (octets : List UInt8) :
    octets.length < (quotedOctets octets).length := by
  have inner := length_le_flatMap_quotedOctet (octetQuote octets) octets
  simp only [quotedOctets, String.length_ofList, List.cons_append, List.length_cons,
    List.length_append, List.length_nil]
  omega

theorem length_lt_quotedBuffer (octets : List UInt8) :
    octets.length < (quotedBuffer octets).length := by
  have inner := length_le_flatMap_quotedOctet '\'' octets
  simp only [quotedBuffer, String.length_ofList, List.cons_append, List.length_cons,
    List.length_append, List.length_nil]
  omega

end CredentialWrite.Text
