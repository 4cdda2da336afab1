import CredentialWrite.Json.Reader
import CredentialWrite.Json.Writer
import Mathlib.Tactic.SplitIfs

/-!
# Strings in JSON

Every character of a text is written so that reading gives it back alone, whatever follows: quotes,
backslashes and control characters as one escape, and all others as themselves. No character is a
surrogate, so none is joined with its neighbour.
-/

namespace CredentialWrite.Json

open Text

theorem hexNumber?_hexDigits {n : Nat} (h : n < 0x20) :
    hexNumber? '0' '0' (hexDigit (n / 16)) (hexDigit (n % 16)) = some n := by
  have small : ∀ n < 0x20, hexNumber? '0' '0' (hexDigit (n / 16)) (hexDigit (n % 16)) = some n := by
    decide
  exact small n h

theorem hexDigits_four {n : Nat} (h : n < 0x20) :
    hexDigits 4 n = ['0', '0', hexDigit (n / 16), hexDigit (n % 16)] := by
  have small : ∀ n < 0x20, hexDigits 4 n = ['0', '0', hexDigit (n / 16), hexDigit (n % 16)] := by
    decide
  exact small n h

theorem readUnits_escapeChar (c : Char) (rest : List Char) :
    readUnits (escapeChar c ++ rest) =
      (readUnits rest).map fun (units, rest) => (c.toNat :: units, rest) := by
  have letter {e d : Char} (he : e ≠ 'u') (hd : unescape? e = some d) :
      readUnits ('\\' :: e :: rest) =
        (readUnits rest).map fun (units, rest) => (d.toNat :: units, rest) := by
    rw [readUnits]
    · simp only [hd]
      cases readUnits rest <;> rfl
    · exact fun _ _ _ _ _ h => absurd h he
  have control (h : c.toNat < 0x20) : readUnits ('\\' :: 'u' :: hexDigits 4 c.toNat ++ rest) =
      (readUnits rest).map fun (units, rest) => (c.toNat :: units, rest) := by
    rw [hexDigits_four h]
    simp only [List.cons_append, List.nil_append, readUnits, hexNumber?_hexDigits h]
    cases readUnits rest <;> rfl
  have plain (hq : c ≠ '"') (hb : c ≠ '\\') (h : ¬ c.toNat < 0x20) : readUnits (c :: rest) =
      (readUnits rest).map fun (units, rest) => (c.toNat :: units, rest) := by
    rw [readUnits]
    · simp only [hb, h, decide_false, Bool.or_false, Bool.false_eq_true, if_false]
      cases readUnits rest <;> rfl
    · exact hq
    · exact fun _ _ _ _ _ h => absurd h hb
    · exact fun _ _ h => absurd h hb
  have code {n : Nat} (h : c.toNat = n) : c = Char.ofNat n := by rw [← h, Char.ofNat_toNat]
  unfold escapeChar
  split_ifs with hq hb hn hr ht h8 h12 hc
  · rw [hq]
    exact letter (by decide) rfl
  · rw [hb]
    exact letter (by decide) rfl
  · rw [hn]
    exact letter (by decide) rfl
  · rw [hr]
    exact letter (by decide) rfl
  · rw [ht]
    exact letter (by decide) rfl
  · rw [code h8]
    exact letter (by decide) rfl
  · rw [code h12]
    exact letter (by decide) rfl
  · exact control hc
  · exact plain hq hb hc

theorem readUnits_escaped (cs rest : List Char) :
    readUnits (cs.flatMap escapeChar ++ '"' :: rest) = some (cs.map Char.toNat, rest) := by
  induction cs with
  | nil => rfl
  | cons c cs ih =>
    rw [List.flatMap_cons, List.append_assoc, readUnits_escapeChar, ih]
    rfl

theorem not_surrogate (c : Char) :
    isHighSurrogate c.toNat = false ∧ isLowSurrogate c.toNat = false := by
  have valid : c.toNat < 0xD800 ∨ 0xDFFF < c.toNat ∧ c.toNat < 0x110000 := c.valid
  simp only [isHighSurrogate, isLowSurrogate, Bool.and_eq_false_iff, decide_eq_false_iff_not]
  omega

theorem charOfUnit_toNat (c : Char) : charOfUnit c.toNat = c := by
  simp [charOfUnit, not_surrogate c, Char.ofNat_toNat]

theorem joinUnits_toNat (cs : List Char) : joinUnits (cs.map Char.toNat) = cs := by
  induction cs with
  | nil => rfl
  | cons c cs ih =>
    cases cs with
    | nil => simp [joinUnits, charOfUnit_toNat]
    | cons d cs =>
      rw [List.map_cons, List.map_cons, joinUnits, ← List.map_cons, ih]
      simp [not_surrogate c, charOfUnit_toNat]

/-- A text is read back, and nothing of what follows its closing quote. -/
theorem readString?_escaped (s : String) (rest : List Char) :
    readString? (s.toList.flatMap escapeChar ++ '"' :: rest) = some (s, rest) := by
  simp only [readString?, readUnits_escaped, Option.map_some, joinUnits_toNat, String.ofList_toList]

end CredentialWrite.Json
