import CredentialWrite.Binary64.Layout
import CredentialWrite.Json.Reader
import CredentialWrite.Proofs.Text.Integer

/-!
# Numbers in JSON

The digits of an integer are a number of JSON and are read as that integer. The text of a finite
float is one as well and is read as it stands: it has a point or an exponent, and no zero before
its other digits.
-/

namespace CredentialWrite

open Text

section Stops

variable {p : Char → Bool} {cs rest : List Char}

/-- What a run of characters leaves does not go on with one of them. -/
def Stops (p : Char → Bool) (rest : List Char) : Prop := ∀ c ∈ rest.head?, p c = false

theorem stops_cons {c : Char} (h : p c = false) : Stops p (c :: rest) := by
  intro d hd
  obtain rfl : c = d := by simpa using hd
  exact h

theorem takeWhile_append_of_stops (h : ∀ c ∈ cs, p c = true) (hr : Stops p rest) :
    (cs ++ rest).takeWhile p = cs := by
  rw [List.takeWhile_append_of_pos h]
  cases rest with
  | nil => exact List.append_nil cs
  | cons c rest => rw [List.takeWhile_cons_of_neg (by simp [hr c rfl]), List.append_nil]

theorem dropWhile_append_of_stops (h : ∀ c ∈ cs, p c = true) (hr : Stops p rest) :
    (cs ++ rest).dropWhile p = rest := by
  rw [List.dropWhile_append_of_pos h]
  cases rest with
  | nil => rfl
  | cons c rest => rw [List.dropWhile_cons_of_neg (by simp [hr c rfl])]

end Stops

namespace Json

variable {cs text whole places rest : List Char} {n : Nat}

theorem isNumberChar_of_isDigit {c : Char} (h : isDigit c = true) : isNumberChar c = true := by
  simp [isNumberChar, h]

theorem isDigit_of_mem_zero : ∀ c ∈ ['0'], isDigit c = true := by
  intro c hc
  obtain rfl := List.mem_singleton.mp hc
  rfl

theorem all_isDigit_of_isWhole (h : isWhole whole = true) : ∀ c ∈ whole, isDigit c = true := by
  rcases Bool.or_eq_true_iff.mp h with h | h
  · rw [of_decide_eq_true h]
    exact isDigit_of_mem_zero
  · simp only [Bool.and_eq_true, List.all_eq_true] at h
    exact h.1.2

structure IsUnsigned (text : List Char) : Prop where
  characters : ∀ c ∈ text, isNumberChar c = true
  whole : isWhole (text.takeWhile isDigit) = true
  fraction : isFraction (text.dropWhile isDigit) = true

theorem IsUnsigned.append (hw : isWhole whole = true) (hs : Stops isDigit rest)
    (hf : isFraction rest = true) (hc : ∀ c ∈ rest, isNumberChar c = true) :
    IsUnsigned (whole ++ rest) := by
  have digits := all_isDigit_of_isWhole hw
  refine ⟨?_, ?_, ?_⟩
  · intro c hm
    rcases List.mem_append.mp hm with hm | hm
    · exact isNumberChar_of_isDigit (digits c hm)
    · exact hc c hm
  · rw [takeWhile_append_of_stops digits hs]
    exact hw
  · rw [dropWhile_append_of_stops digits hs]
    exact hf

theorem IsUnsigned.head?_ne (h : IsUnsigned text) : text.head? ≠ some '-' := by
  intro hm
  cases text with
  | nil => cases hm
  | cons c rest =>
    obtain rfl : c = '-' := by simpa using hm
    have hw := h.whole
    rw [List.takeWhile_cons_of_neg (by decide)] at hw
    revert hw
    decide

/-- A number with or without a minus is one. -/
theorem IsUnsigned.isNumber (h : IsUnsigned text) (negative : Bool) :
    isNumber ((if negative then ['-'] else []) ++ text) = true := by
  cases negative with
  | true => simp [Json.isNumber, h.whole, h.fraction]
  | false => simp [Json.isNumber, h.head?_ne, h.whole, h.fraction]

theorem IsUnsigned.read (h : IsUnsigned text) (negative : Bool) (hr : Stops isNumberChar rest) :
    readNumber? ((if negative then ['-'] else []) ++ text ++ rest) =
      some (numberOfText ((if negative then ['-'] else []) ++ text), rest) := by
  have characters : ∀ c ∈ (if negative then ['-'] else []) ++ text, isNumberChar c = true := by
    intro c hm
    rcases List.mem_append.mp hm with hm | hm
    · cases negative with
      | true =>
        obtain rfl := List.mem_singleton.mp hm
        decide
      | false => cases hm
    · exact h.characters c hm
  simp only [readNumber?, takeWhile_append_of_stops characters hr,
    dropWhile_append_of_stops characters hr, h.isNumber negative, if_true]

theorem isWhole_naturalDigits (n : Nat) : isWhole (naturalDigits n) = true := by
  by_cases hn : n = 0
  · subst hn
    decide
  · simp [isWhole, naturalDigits_ne_nil, all_isDigit_naturalDigits n, head?_naturalDigits hn]

theorem isUnsigned_naturalDigits (n : Nat) : IsUnsigned (naturalDigits n) := by
  rw [← List.append_nil (naturalDigits n)]
  exact .append (isWhole_naturalDigits n) (by simp [Stops]) rfl (by simp)

theorem numberOfText_integerDigits (n : Int) : numberOfText (integerDigits n) = .int n := by
  cases n with
  | ofNat n =>
    simp [numberOfText, integerDigits, takeSign_naturalDigits, all_isDigit_naturalDigits n,
      digitsValue_naturalDigits]
  | negSucc n =>
    simp [numberOfText, integerDigits, takeSign, all_isDigit_naturalDigits (n + 1),
      digitsValue_naturalDigits, Int.negSucc_eq]

theorem readNumber?_integerDigits (n : Int) (hr : Stops isNumberChar rest) :
    readNumber? (integerDigits n ++ rest) = some (.int n, rest) := by
  rw [← numberOfText_integerDigits n]
  cases n with
  | ofNat n => exact (isUnsigned_naturalDigits n).read false hr
  | negSucc n => exact (isUnsigned_naturalDigits (n + 1)).read true hr

end Json

end CredentialWrite
