import CredentialWrite.Text.Split
import Mathlib.Data.List.TakeWhile

/-!
# Parts between separators

The parts of a text hold no separator, and every other character stands in one of them. Texts that
are put together with a separator between them have the parts of the one before those of the other,
so parts without separators that are joined are found again.
-/

namespace CredentialWrite.Text

variable {separator : Char} {cs : List Char} {parts : List (List Char)}

theorem not_mem_of_mem_split {part : List Char} (h : part ∈ split separator cs) :
    separator ∉ part := by
  induction cs generalizing part with
  | nil =>
    obtain rfl := List.mem_singleton.mp h
    exact List.not_mem_nil
  | cons c rest ih =>
    rw [split] at h
    split at h
    · rcases List.mem_cons.mp h with rfl | h
      · exact List.not_mem_nil
      · exact ih h
    · next hc =>
      cases hs : split separator rest with
      | nil => exact absurd hs (split_ne_nil separator rest)
      | cons first parts =>
        rw [hs] at h ih
        rcases List.mem_cons.mp h with rfl | h
        · exact by simpa using ⟨Ne.symm hc, ih (.head _)⟩
        · exact ih (.tail _ h)

theorem split_append_of_not_mem (h : separator ∉ cs) {rest first : List Char}
    (hs : split separator rest = first :: parts) :
    split separator (cs ++ rest) = (cs ++ first) :: parts := by
  induction cs with
  | nil => exact hs
  | cons c cs ih =>
    obtain ⟨hc, hcs⟩ : separator ≠ c ∧ separator ∉ cs := by simpa using h
    rw [List.cons_append, split, if_neg (Ne.symm hc), ih hcs, List.cons_append]

theorem split_of_not_mem (h : separator ∉ cs) : split separator cs = [cs] := by
  have whole := split_append_of_not_mem h (show split separator [] = [[]] from rfl)
  rwa [List.append_nil] at whole

theorem split_append_separator (separator : Char) (before after : List Char) :
    split separator (before ++ separator :: after) =
      split separator before ++ split separator after := by
  induction before with
  | nil => simp [split]
  | cons c before ih =>
    rw [List.cons_append, split, split, ih]
    by_cases hc : c = separator
    · rw [if_pos hc, if_pos hc, List.cons_append]
    · rw [if_neg hc, if_neg hc]
      cases hs : split separator before with
      | nil => exact absurd hs (split_ne_nil separator before)
      | cons part parts => rfl

theorem join_cons_cons (separator : Char) (part next : List Char) (rest : List (List Char)) :
    join separator (part :: next :: rest) = part ++ separator :: join separator (next :: rest) :=
  rfl

theorem split_join (h : ∀ part ∈ parts, separator ∉ part) (hne : parts ≠ []) :
    split separator (join separator parts) = parts := by
  induction parts with
  | nil => exact absurd rfl hne
  | cons part rest ih =>
    obtain ⟨hpart, hrest⟩ := List.forall_mem_cons.mp h
    cases rest with
    | nil => exact split_of_not_mem hpart
    | cons next rest =>
      rw [join_cons_cons, split_append_separator, split_of_not_mem hpart,
        ih hrest (List.cons_ne_nil _ _), List.singleton_append]

theorem mem_join {c : Char} (h : c ∈ join separator parts) :
    c = separator ∨ ∃ part ∈ parts, c ∈ part := by
  induction parts with
  | nil => cases h
  | cons part rest ih =>
    cases rest with
    | nil => exact .inr ⟨part, List.mem_cons_self, h⟩
    | cons next rest =>
      rw [join_cons_cons] at h
      rcases List.mem_append.mp h with h | h
      · exact .inr ⟨part, List.mem_cons_self, h⟩
      · rcases List.mem_cons.mp h with h | h
        · exact .inl h
        · obtain hc | ⟨p, hp, hc⟩ := ih h
          · exact .inl hc
          · exact .inr ⟨p, List.mem_cons_of_mem part hp, hc⟩

/-- Every character but the separator stands in some part. -/
theorem mem_of_mem_split {c : Char} (h : c ∈ cs) :
    c = separator ∨ ∃ part ∈ split separator cs, c ∈ part :=
  mem_join ((join_split separator cs).symm ▸ h)

theorem cut_of_not_mem (h : separator ∉ cs) :
    cut separator cs = (cs, none) := by
  have nothing : cs.dropWhile (· != separator) = [] :=
    List.dropWhile_eq_nil_iff.mpr fun c hc => bne_iff_ne.mpr fun same => h (same ▸ hc)
  rw [cut, nothing]

end CredentialWrite.Text
