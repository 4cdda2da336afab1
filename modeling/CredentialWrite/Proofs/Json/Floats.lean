import CredentialWrite.Proofs.Json.Numbers

/-!
# Floats in JSON

The shortest digits of a number other than zero do not start with a zero, because a grid point
zero never rounds back. So every layout of the number is a number of JSON, and none is an integer.
-/

namespace CredentialWrite

open Text

namespace Binary64

variable {significand : Nat} {exponent : Int}

theorem low_num_pos (h : 0 < significand) : 0 < (neighbourhood significand exponent).low.num := by
  have hb : (if significand = Nat.pow 2 52 && -1074 < exponent then 1 else 2) ≤ 2 := by
    split <;> decide
  unfold neighbourhood Ratio.scaled
  simp only
  split
  · exact Nat.mul_pos (by omega) (Nat.pow_pos (by decide))
  · simp only
    omega

/-- The grid point zero lies below the neighbourhood. -/
theorem not_contains_zero (h : 0 < significand) (unit : Int) :
    (neighbourhood significand exponent).contains (.scaled 10 0 unit) = false := by
  have hlow : 0 < (neighbourhood significand exponent).low.num := low_num_pos h
  have hz : (Ratio.scaled 10 0 unit).num = 0 := by
    unfold Ratio.scaled
    split <;> simp
  have hd : 0 < (Ratio.scaled 10 0 unit).den := by
    unfold Ratio.scaled
    split
    · exact Nat.one_pos
    · exact Nat.pow_pos (by decide)
  have hp := Nat.mul_pos hlow hd
  simp only [Neighbourhood.contains, Ratio.le, Ratio.lt, hz, Nat.zero_mul]
  split
  · simp only [Bool.and_eq_false_iff, decide_eq_false_iff_not]
    exact .inl (by omega)
  · simp

theorem gridPoint?_ne_zero (h : 0 < significand) {unit : Int} {digits : Nat}
    (hd : gridPoint? (neighbourhood significand exponent) unit = some digits) : digits ≠ 0 := by
  rintro rfl
  unfold gridPoint? at hd
  generalize hf :
    (neighbourhood significand exponent).value.floorDiv (.scaled 10 1 unit) = floor at hd
  have hz : floor = 0 → (neighbourhood significand exponent).contains (.scaled 10 floor unit) =
      false := fun h0 => h0 ▸ not_contains_zero h unit
  grind

theorem shortestFrom_ne_zero (h : 0 < significand) (place : Int) (fuel count : Nat) :
    (shortestFrom (neighbourhood significand exponent) place fuel count).1 ≠ 0 := by
  induction fuel generalizing count with
  | zero => exact Nat.succ_ne_zero _
  | succ fuel ih =>
    unfold shortestFrom
    split
    · next digits hd => exact gridPoint?_ne_zero h hd
    · exact ih (count + 1)

theorem dropZeros_ne_zero (fuel : Nat) (d : Nat × Int) (h : d.1 ≠ 0) :
    (dropZeros fuel d).1 ≠ 0 := by
  induction fuel generalizing d with
  | zero => exact h
  | succ fuel ih =>
    unfold dropZeros
    split
    · next hm => exact ih _ (by simp only; omega)
    · exact h

theorem shortest_ne_zero (h : 0 < significand) : (shortest significand exponent).1 ≠ 0 :=
  dropZeros_ne_zero _ _ (shortestFrom_ne_zero h _ _ _)

end Binary64

namespace Json

variable {text whole places e rest : List Char}

/-- A number without its sign that is no integer. -/
structure IsUnsignedReal (text : List Char) : Prop extends IsUnsigned text where
  mark : ∃ c ∈ text, c = '.' ∨ c = 'e'

theorem mem_takeSign {c : Char} (h : c ∈ text) (hm : c ≠ '-') (hp : c ≠ '+') :
    c ∈ (takeSign text).2 := by
  unfold takeSign
  split
  · exact (List.mem_cons.mp h).resolve_left hm
  · exact (List.mem_cons.mp h).resolve_left hp
  · exact h

theorem IsUnsignedReal.read (h : IsUnsignedReal text) (negative : Bool)
    (hr : Stops isNumberChar rest) :
    readNumber? ((if negative then ['-'] else []) ++ text ++ rest) =
      some (.number (String.ofList ((if negative then ['-'] else []) ++ text)), rest) := by
  obtain ⟨c, hc, hmark⟩ := h.mark
  have hs : c ∈ (takeSign ((if negative then ['-'] else []) ++ text)).2 :=
    mem_takeSign (List.mem_append_right _ hc) (by rcases hmark with rfl | rfl <;> decide)
      (by rcases hmark with rfl | rfl <;> decide)
  have hd : isDigit c = false := by rcases hmark with rfl | rfl <;> decide
  have hall : (takeSign ((if negative then ['-'] else []) ++ text)).2.all isDigit = false :=
    List.all_eq_false.mpr ⟨c, hs, by simp [hd]⟩
  rw [h.toIsUnsigned.read negative hr, numberOfText]
  simp only [hall, Bool.false_eq_true, if_false]

theorem isFraction_point (hp : places ≠ []) (digits : ∀ c ∈ places, isDigit c = true)
    (hs : Stops isDigit e) (he : isExponent e = true) :
    isFraction ('.' :: (places ++ e)) = true := by
  simp [isFraction, takeWhile_append_of_stops digits hs, dropWhile_append_of_stops digits hs, hp,
    he]

/-- Digits with a point among them, and maybe an exponent. -/
theorem isUnsignedReal_point (whole places e : List Char) (hw : isWhole whole = true)
    (hp : places ≠ []) (digits : ∀ c ∈ places, isDigit c = true) (hs : Stops isDigit e)
    (he : isExponent e = true)
    (hc : ∀ c ∈ e, isNumberChar c = true) : IsUnsignedReal (whole ++ '.' :: (places ++ e)) where
  toIsUnsigned := by
    refine .append hw (stops_cons (by decide)) (isFraction_point hp digits hs he) ?_
    intro c hm
    rcases List.mem_cons.mp hm with rfl | hm
    · decide
    · rcases List.mem_append.mp hm with hm | hm
      · exact isNumberChar_of_isDigit (digits c hm)
      · exact hc c hm
  mark := ⟨'.', by simp, .inl rfl⟩

theorem isUnsignedReal_exponent (hw : isWhole whole = true) (he : isExponent ('e' :: rest) = true)
    (hc : ∀ c ∈ rest, isNumberChar c = true) : IsUnsignedReal (whole ++ 'e' :: rest) where
  toIsUnsigned := by
    refine .append hw (stops_cons (by decide)) he ?_
    intro c hm
    rcases List.mem_cons.mp hm with rfl | hm
    · decide
    · exact hc c hm
  mark := ⟨'e', by simp, .inr rfl⟩

theorem isExponent_cons {sign : Char} (hs : sign = '-' ∨ sign = '+') (hd : places ≠ [])
    (digits : ∀ c ∈ places, isDigit c = true) : isExponent ('e' :: sign :: places) = true := by
  rcases hs with rfl | rfl <;> simp [isExponent, takeSign, hd, List.all_eq_true.mpr digits]

theorem isNumberChar_of_exponent {sign : Char} (hs : sign = '-' ∨ sign = '+')
    (digits : ∀ c ∈ places, isDigit c = true) :
    ∀ c ∈ 'e' :: sign :: places, isNumberChar c = true := by
  intro c hm
  rcases List.mem_cons.mp hm with rfl | hm
  · decide
  · rcases List.mem_cons.mp hm with rfl | hm
    · rcases hs with rfl | rfl <;> decide
    · exact isNumberChar_of_isDigit (digits c hm)

theorem isWhole_singleton {c : Char} (h : isDigit c = true) : isWhole [c] = true := by
  simp [isWhole, h, Decidable.em]

end Json

namespace Binary64.Layout

open Json

variable {digits : Nat}

theorem isDigit_of_mem_zeros {count : Nat} {c : Char} (h : c ∈ zeros count) : isDigit c = true := by
  rw [List.eq_of_mem_replicate h]
  decide

theorem isUnsignedReal_withPoint (h : digits ≠ 0) (place : Int) :
    IsUnsignedReal (withPoint (naturalDigits digits) place) := by
  have all : ∀ c ∈ naturalDigits digits, isDigit c = true := fun c => isDigit_of_mem_naturalDigits
  have head := head?_naturalDigits h
  have ne : naturalDigits digits ≠ [] := naturalDigits_ne_nil
  generalize naturalDigits digits = text at all head ne
  -- Digits that start as the text does are no zero before others.
  have whole {cs : List Char} (hd : ∀ c ∈ cs, isDigit c = true) (hh : cs.head? = text.head?) :
      isWhole cs = true := by
    have hc : cs ≠ [] := by
      rintro rfl
      exact ne (List.head?_eq_none_iff.mp hh.symm)
    simp [isWhole, List.all_eq_true.mpr hd, hc, hh, head]
  unfold withPoint
  simp only
  split
  · have hz : ∀ c ∈ zeros (-place).toNat ++ text, isDigit c = true := fun c hm =>
      (List.mem_append.mp hm).elim isDigit_of_mem_zeros (all c)
    simpa using isUnsignedReal_point ['0'] _ [] (by decide)
      (List.append_ne_nil_of_right_ne_nil _ ne) hz (by simp [Stops]) rfl (by simp)
  · next hplace =>
    split
    · have hz : ∀ c ∈ text ++ zeros (place.toNat - text.length), isDigit c = true := fun c hm =>
        (List.mem_append.mp hm).elim (all c) isDigit_of_mem_zeros
      have hh : (text ++ zeros (place.toNat - text.length)).head? = text.head? := by
        cases text with
        | nil => exact absurd rfl ne
        | cons c rest => rfl
      simpa using isUnsignedReal_point _ ['0'] [] (whole hz hh) (by decide)
        isDigit_of_mem_zero (by simp [Stops]) rfl (by simp)
    · next hlong =>
      have hh : (text.take place.toNat).head? = text.head? := by
        rw [List.head?_take, if_neg (by omega)]
      have hd : text.drop place.toNat ≠ [] := by
        rw [Ne, List.drop_eq_nil_iff]
        exact hlong
      simpa using isUnsignedReal_point _ _ []
        (whole (fun c hm => all c (List.mem_of_mem_take hm)) hh) hd
        (fun c hm => all c (List.mem_of_mem_drop hm)) (by simp [Stops]) rfl (by simp)

theorem isUnsignedReal_withExponent (l : Layout) {text : List Char} (ne : text ≠ [])
    (all : ∀ c ∈ text, isDigit c = true) (exponent : Int) :
    IsUnsignedReal (l.withExponent text exponent) := by
  have power : ∀ c ∈ padLeft l.exponentDigits (naturalDigits exponent.natAbs), isDigit c = true :=
    fun c hm => (List.mem_append.mp hm).elim isDigit_of_mem_zeros isDigit_of_mem_naturalDigits
  have some_power : padLeft l.exponentDigits (naturalDigits exponent.natAbs) ≠ [] :=
    List.append_ne_nil_of_right_ne_nil _ naturalDigits_ne_nil
  have sign : (if exponent < 0 then '-' else '+') = '-' ∨
      (if exponent < 0 then '-' else '+') = '+' := by split <;> simp
  have he := isExponent_cons sign some_power power
  have hc := isNumberChar_of_exponent sign power
  unfold withExponent
  match text, ne, all with
  | [], ne, _ => exact absurd rfl ne
  | [first], _, all =>
    exact isUnsignedReal_exponent (isWhole_singleton (all first (by simp))) he fun c hm =>
      hc c (List.mem_cons_of_mem _ hm)
  | first :: second :: rest, _, all =>
    exact isUnsignedReal_point [first] (second :: rest) _
      (isWhole_singleton (all first (by simp))) (by simp)
      (fun c hm => all c (List.mem_cons_of_mem _ hm)) (stops_cons (by decide)) he hc

theorem isUnsignedReal_decimal (l : Layout) (h : digits ≠ 0) (power : Int) :
    IsUnsignedReal (l.decimal digits power) := by
  unfold decimal
  simp only
  split
  · exact isUnsignedReal_withPoint h _
  · exact isUnsignedReal_withExponent l naturalDigits_ne_nil
      (fun c => isDigit_of_mem_naturalDigits) _

end Binary64.Layout

namespace Json

/-- The text of a finite float is read as it stands. -/
theorem readNumber?_toText (l : Binary64.Layout) {x : Binary64} (h : x.isFinite = true)
    {rest : List Char} (hr : Stops isNumberChar rest) :
    readNumber? ((x.toText l).toList ++ rest) = some (.number (x.toText l), rest) := by
  cases x with
  | finite negative significand exponent canonical =>
    simp only [Binary64.toText, String.toList_ofList]
    refine IsUnsignedReal.read ?_ negative hr
    split
    · exact isUnsignedReal_point ['0'] ['0'] [] (by decide) (by decide) isDigit_of_mem_zero
        (by simp [Stops]) rfl (by simp)
    · next hs =>
      exact Binary64.Layout.isUnsignedReal_decimal l
        (Binary64.shortest_ne_zero (Nat.pos_of_ne_zero hs)) _
  | _ => cases h

end Json

end CredentialWrite
