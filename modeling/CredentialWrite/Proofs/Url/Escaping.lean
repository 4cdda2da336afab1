import CredentialWrite.Proofs.Text.Split
import CredentialWrite.Url.Parser

/-!
# Escaped characters

An escape is a percent sign and two digits, which may stand in every part of a URL, and it has no
slash. So a part that was escaped stays as it is when it is escaped again, and its segments are the
segments that it had, escaped one by one. Resolved segments are no dots, and escaping makes none.
-/

namespace CredentialWrite.Url

open Text

variable {safe : Char → Bool} {c d : Char} {cs path : List Char}

theorem isUnreserved_of_mem_hexDigits {n : Nat} (h : d ∈ (hexDigits 2 n).map Char.toUpper) :
    isUnreserved d = true := by
  have digits : ∀ m < 16, isUnreserved (hexDigit m).toUpper = true := by decide
  obtain ⟨e, he, rfl⟩ := List.mem_map.mp h
  rw [hexDigits_succ, hexDigits_succ, hexDigits_zero, List.nil_append, List.mem_append,
    List.mem_singleton, List.mem_singleton] at he
  rcases he with rfl | rfl
  · exact digits _ (Nat.mod_lt _ (by decide))
  · exact digits _ (Nat.mod_lt _ (by decide))

theorem eq_or_isUnreserved_of_mem_percent (h : d ∈ percent c) :
    d = '%' ∨ isUnreserved d = true := by
  obtain ⟨octet, -, h⟩ := List.mem_flatMap.mp h
  exact (List.mem_cons.mp h).imp_right isUnreserved_of_mem_hexDigits

theorem head?_percent_append (c : Char) (cs : List Char) : (percent c ++ cs).head? = some '%' := by
  obtain ⟨octet, octets, h⟩ := List.exists_cons_of_ne_nil (@String.utf8EncodeChar_ne_nil c)
  simp [percent, encodeUtf8, h]

/-- What stands in an escaped text. -/
theorem mem_escape (hp : safe '%' = true) (h : d ∈ escape safe cs) :
    (safe d || isUnreserved d) = true := by
  obtain ⟨c, -, h⟩ := List.mem_flatMap.mp h
  split at h
  · next hc => exact List.mem_singleton.mp h ▸ hc
  · rcases eq_or_isUnreserved_of_mem_percent h with rfl | h
    · rw [hp, Bool.true_or]
    · rw [h, Bool.or_true]

theorem escape_eq_self (h : ∀ c ∈ cs, (safe c || isUnreserved c) = true) :
    escape safe cs = cs := by
  induction cs with
  | nil => rfl
  | cons c rest ih =>
    obtain ⟨hc, hrest⟩ := List.forall_mem_cons.mp h
    rw [escape, List.flatMap_cons, if_pos hc]
    exact congrArg (c :: ·) (ih hrest)

theorem escape_cons (safe : Char → Bool) (c : Char) (cs : List Char) : escape safe (c :: cs) =
    (if safe c || isUnreserved c then [c] else percent c) ++ escape safe cs :=
  List.flatMap_cons

/-- Only dots are escaped to dots. -/
theorem eq_of_escape_eq_dots (h : escape safe cs = path) (hd : ∀ c ∈ path, c = '.') :
    cs = path := by
  have dot : (safe '.' || isUnreserved '.') = true := by
    rw [show isUnreserved '.' = true by decide, Bool.or_true]
  induction cs generalizing path with
  | nil => exact h
  | cons c rest ih =>
    rw [escape_cons] at h
    split at h
    · subst h
      obtain ⟨-, hrest⟩ := List.forall_mem_cons.mp hd
      rw [List.singleton_append, ← ih rfl hrest]
    · have first := head?_percent_append c (escape safe rest)
      rw [h] at first
      have percentIsDot := hd '%' (List.mem_of_mem_head? first)
      exact absurd percentIsDot (by decide)

theorem split_escape (hs : (safe '/' || isUnreserved '/') = true) (cs : List Char) :
    split '/' (escape safe cs) = (split '/' cs).map (escape safe) := by
  induction cs with
  | nil => rfl
  | cons c rest ih =>
    rw [escape_cons]
    by_cases hc : c = '/'
    · subst hc
      rw [if_pos hs, List.singleton_append, split, split, if_pos rfl, if_pos rfl, ih]
      rfl
    · have piece : '/' ∉ if safe c || isUnreserved c then [c] else percent c := by
        split
        · exact fun h => hc (List.mem_singleton.mp h).symm
        · intro h
          rcases eq_or_isUnreserved_of_mem_percent h with h | h
          · exact absurd h (by decide)
          · exact absurd h (by decide)
      rw [split, if_neg hc]
      cases hr : split '/' rest with
      | nil => exact absurd hr (split_ne_nil '/' rest)
      | cons part parts =>
        rw [hr] at ih
        rw [split_append_of_not_mem piece ih, List.map_cons, escape_cons]

end CredentialWrite.Url
