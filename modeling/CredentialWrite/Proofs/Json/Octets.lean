import CredentialWrite.Json.Octets
import CredentialWrite.Proofs.Json.RoundTrip

/-!
# JSON written octet by octet

Both writers write the same text of the same tree. A seven-bit character is a single octet, which is
escaped as the character is; every other one is made of octets from 0x80 on, and neither it nor any
of these is escaped. So what is written octet by octet is the text in UTF-8, and it can be read as
text, whatever the tree holds and whatever texts stand for its numbers.
-/

namespace CredentialWrite.Json

open Text

variable {ν : Type}

theorem fromUTF8?_encodeUtf8 (s : String) :
    String.fromUTF8? (encodeUtf8 s).toByteArray = some s := by
  have same : (encodeUtf8 s).toByteArray = s.toByteArray := by
    rw [← String.utf8Encode_toList, List.utf8Encode, encodeUtf8]
  rw [same, String.fromUTF8?, dif_pos s.isValidUTF8]
  rfl

section Characters

variable {c : Char}

theorem le_of_mem_utf8EncodeChar {octet : UInt8} (hc : 0x80 ≤ c.toNat)
    (h : octet ∈ String.utf8EncodeChar c) : 0x80 ≤ octet := by
  have long : ¬ c.val.toNat ≤ 127 := Nat.not_le_of_lt hc
  unfold String.utf8EncodeChar at h
  rw [UInt8.le_iff_toNat_le]
  simp only [if_neg long] at h
  split_ifs at h <;> simp only [List.mem_cons, List.not_mem_nil, or_false] at h <;>
    rcases h with rfl | rfl | rfl | rfl <;> simp <;> omega

theorem OctetEscape.of_eq_none {octet : UInt8} (h : 0x80 ≤ octet) : of octet = .none := by
  simp only [of]
  grind

theorem escapeChar_eq_self (hc : 0x80 ≤ c.toNat) : escapeChar c = [c] := by
  have other {d : Char} (hd : d.toNat < 0x80) : c ≠ d := by
    rintro rfl
    omega
  unfold escapeChar
  rw [if_neg (other (by decide)), if_neg (other (by decide)), if_neg (other (by decide)),
    if_neg (other (by decide)), if_neg (other (by decide)), if_neg (by omega), if_neg (by omega),
    if_neg (by omega)]

/-- A character is escaped as its octets are. -/
theorem flatMap_octets_utf8EncodeChar (c : Char) :
    (String.utf8EncodeChar c).flatMap (fun octet => (OctetEscape.of octet).octets octet) =
      (escapeChar c).flatMap String.utf8EncodeChar := by
  rcases Nat.lt_or_ge c.toNat 0x80 with hc | hc
  · have known : ∀ n < 0x80,
        (String.utf8EncodeChar (Char.ofNat n)).flatMap
            (fun octet => (OctetEscape.of octet).octets octet) =
          (escapeChar (Char.ofNat n)).flatMap String.utf8EncodeChar := by
      decide +kernel
    have here := known c.toNat hc
    rwa [Char.ofNat_toNat] at here
  · have stands : ∀ octet ∈ String.utf8EncodeChar c,
        (OctetEscape.of octet).octets octet = [octet] := by
      intro octet h
      rw [OctetEscape.of_eq_none (le_of_mem_utf8EncodeChar hc h)]
      rfl
    rw [escapeChar_eq_self hc, List.flatMap_congr stands]
    simp

end Characters

theorem utf8EncodeChar_marks :
    String.utf8EncodeChar '[' = [0x5B] ∧ String.utf8EncodeChar '\x7b' = [0x7B] ∧
      String.utf8EncodeChar ',' = [0x2C] ∧ String.utf8EncodeChar ':' = [0x3A] := by decide

theorem textOctets_eq (s : String) :
    textOctets s = (writeText s).flatMap String.utf8EncodeChar := by
  have escaped : (encodeUtf8 s).flatMap (fun octet => (OctetEscape.of octet).octets octet) =
      (s.toList.flatMap escapeChar).flatMap String.utf8EncodeChar := by
    simp only [encodeUtf8, List.flatMap_assoc, flatMap_octets_utf8EncodeChar]
  rw [textOctets, escaped, writeText, List.flatMap_append]
  rfl

variable (number : ν → String)

mutual

theorem octets_eq : ∀ j : Json ν,
    j.octets number = (j.write fun x => (number x).toList).flatMap String.utf8EncodeChar
  | .null | .bool true | .bool false => rfl
  | .int n => by simp [octets, write, encodeUtf8, integerText]
  | .number x => by simp [octets, write, encodeUtf8]
  | .text s => textOctets_eq s
  | .array [] | .object [] => rfl
  | .array (j :: rest) => by
    simp [octets, write, itemOctets, separatorOctets, octets_eq j, itemOctets_eq rest,
      utf8EncodeChar_marks]
  | .object ((key, j) :: rest) => by
    simp [octets, write, entryOctets, separatorOctets, textOctets_eq, octets_eq j,
      entryOctets_eq rest, utf8EncodeChar_marks]

theorem itemOctets_eq : ∀ items : List (Json ν), itemOctets number false items ++ [0x5D] =
    (writeItems (fun x => (number x).toList) items).flatMap String.utf8EncodeChar
  | [] => rfl
  | j :: rest => by
    simp [itemOctets, writeItems, separatorOctets, octets_eq j, itemOctets_eq rest,
      utf8EncodeChar_marks]

theorem entryOctets_eq : ∀ entries : List (String × Json ν),
    entryOctets number false entries ++ [0x7D] =
      (writeEntries (fun x => (number x).toList) entries).flatMap String.utf8EncodeChar
  | [] => rfl
  | (key, j) :: rest => by
    simp [entryOctets, writeEntries, separatorOctets, textOctets_eq, octets_eq j,
      entryOctets_eq rest, utf8EncodeChar_marks]

end

/-- Both writers write the same text. -/
theorem renderOctets_eq_render (j : Json ν) : j.renderOctets number = j.render number := by
  have octets : j.octets number = encodeUtf8 (j.render number) := by
    rw [octets_eq, render, encodeUtf8, String.toList_ofList]
  rw [renderOctets, octets, fromUTF8?_encodeUtf8, Option.getD_some]

end CredentialWrite.Json
