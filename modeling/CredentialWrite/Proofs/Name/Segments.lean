import CredentialWrite.Name
import CredentialWrite.Proofs.Text.Split
import Mathlib.Data.List.Chain
import Mathlib.Data.List.DropRight

/-!
# Segments of paths

A segment is hollow when it is of slashes only, bare when it has no slash at its ends, and solid
when it is bare and not empty. Stripped segments are bare, so those that a simple name keeps are
solid, and solid segments meet in a path without making slashes of their own. A path of segments
without any slash is split into them again.
-/

namespace CredentialWrite

namespace CredentialName

open Text

variable {cs : List Char} {ks : List (List Char)} {xs : List String}

def IsHollow (cs : List Char) : Prop := ∀ c ∈ cs, c = '/'

structure IsBare (cs : List Char) : Prop where
  head : cs.head? ≠ some '/'
  last : cs.getLast? ≠ some '/'

structure IsSolid (cs : List Char) : Prop extends IsBare cs where
  nonempty : cs ≠ []

def DoublesSlash (cs : List Char) : Prop := ['/', '/'] <:+: cs

/-! ### Stripped segments -/

theorem stripSlashes_eq (cs : List Char) :
    stripSlashes cs = (cs.dropWhile (· = '/')).rdropWhile (· = '/') := rfl

theorem stripSlashes_eq_nil_iff : stripSlashes cs = [] ↔ IsHollow cs := by
  rw [stripSlashes_eq, List.rdropWhile_eq_nil_iff]
  constructor
  · intro h
    have dropped : cs.dropWhile (· = '/') = [] := by
      refine Classical.byContradiction fun hne => ?_
      exact Bool.false_ne_true
        ((List.head_dropWhile_not _ hne).symm.trans (h _ (List.head_mem hne)))
    simpa [IsHollow] using dropped
  · intro h c hc
    simpa using h c ((List.dropWhile_suffix _).subset hc)

theorem isBare_stripSlashes (cs : List Char) : IsBare (stripSlashes cs) := by
  rw [stripSlashes_eq]
  constructor
  · intro h
    obtain ⟨rest, hr⟩ := List.head?_eq_some_iff.mp h
    obtain ⟨after, ha⟩ := hr ▸ List.rdropWhile_prefix (· = '/') (cs.dropWhile (· = '/'))
    have left := List.head?_dropWhile_not (· = '/') cs
    rw [← ha] at left
    simp at left
  · intro h
    obtain ⟨before, hb⟩ := List.getLast?_eq_some_iff.mp h
    have left := List.rdropWhile_last_not (· = '/') (cs.dropWhile (· = '/')) (by simp [hb])
    simp [hb] at left

theorem stripSlashes_eq_self_iff : stripSlashes cs = cs ↔ IsBare cs := by
  constructor
  · intro h
    exact h ▸ isBare_stripSlashes cs
  · intro h
    have kept : cs.dropWhile (· = '/') = cs := by
      cases cs with
      | nil => rfl
      | cons c rest =>
        have hc : c ≠ '/' := by simpa using h.head
        simp [hc]
    rw [stripSlashes_eq, kept, List.rdropWhile_eq_self_iff]
    intro hne hl
    exact h.last (by simpa [List.getLast?_eq_some_getLast hne] using hl)

theorem length_stripSlashes_le (cs : List Char) : (stripSlashes cs).length ≤ cs.length :=
  ((List.rdropWhile_prefix _ _).length_le).trans (List.dropWhile_suffix _).length_le

theorem stripSlashes_eq_of_length (h : (stripSlashes cs).length = cs.length) :
    stripSlashes cs = cs := by
  have within : (stripSlashes cs).Sublist cs :=
    (List.rdropWhile_prefix _ _).sublist.trans (List.dropWhile_suffix _).sublist
  exact within.eq_of_length h

@[simp] theorem stripSlashes_slash_cons (cs : List Char) :
    stripSlashes ('/' :: cs) = stripSlashes cs := by
  simp [stripSlashes, trimBoth]

@[simp] theorem stripSlashes_slash_concat (cs : List Char) :
    stripSlashes (cs ++ ['/']) = stripSlashes cs := by
  rw [stripSlashes_eq, stripSlashes_eq, List.dropWhile_append]
  split
  · next h => simp [List.isEmpty_iff.mp h]
  · exact List.rdropWhile_concat_pos _ _ _ rfl

theorem stripSlashes_padded (m n : Nat) (cs : List Char) :
    stripSlashes (List.replicate m '/' ++ cs ++ List.replicate n '/') = stripSlashes cs := by
  induction m with
  | succ m ih => rw [List.replicate_succ, List.cons_append, List.cons_append,
      stripSlashes_slash_cons, ih]
  | zero =>
    induction n with
    | zero => simp
    | succ n ih => rw [List.replicate_succ', ← List.append_assoc, stripSlashes_slash_concat, ih]

theorem IsBare.stripSlashes_slash_cons (h : IsBare cs) : stripSlashes ('/' :: cs) = cs := by
  rw [CredentialName.stripSlashes_slash_cons, stripSlashes_eq_self_iff.mpr h]

/-! ### Segments that are kept -/

theorem isSolid_of_mem_keptSegments (h : cs ∈ keptSegments xs) : IsSolid cs := by
  obtain ⟨hm, hne⟩ := List.mem_filter.mp h
  obtain ⟨x, -, rfl⟩ := List.mem_map.mp hm
  exact ⟨isBare_stripSlashes _, by simpa using hne⟩

theorem keptSegments_append (xs ys : List String) :
    keptSegments (xs ++ ys) = keptSegments xs ++ keptSegments ys := by
  simp [keptSegments]

theorem keptSegments_cons_of_hollow {x : String} (h : IsHollow x.toList) (xs : List String) :
    keptSegments (x :: xs) = keptSegments xs := by
  simp [keptSegments, stripSlashes_eq_nil_iff.mpr h]

theorem keptSegments_cons_of_not_hollow {x : String} (h : ¬ IsHollow x.toList)
    (xs : List String) : keptSegments (x :: xs) = stripSlashes x.toList :: keptSegments xs := by
  have filled : stripSlashes x.toList ≠ [] := fun hn => h (stripSlashes_eq_nil_iff.mp hn)
  simp [keptSegments, filled]

theorem keptSegments_eq_nil_iff : keptSegments xs = [] ↔ ∀ x ∈ xs, IsHollow x.toList := by
  simp [keptSegments, stripSlashes_eq_nil_iff]

/-! ### Joined segments -/

theorem joinSegments_append (ks ls : List (List Char)) :
    joinSegments (ks ++ ls) = joinSegments ks ++ joinSegments ls :=
  List.flatMap_append

/-- A path of solid segments has no other slash at its ends than the first one. -/
theorem isSolid_append_joinSegments {k : List Char} (hk : IsSolid k) (h : ∀ l ∈ ks, IsSolid l) :
    IsSolid (k ++ joinSegments ks) := by
  induction ks generalizing k with
  | nil => simpa using hk
  | cons l rest ih =>
    obtain ⟨hl, hrest⟩ := List.forall_mem_cons.mp h
    have below := ih hl hrest
    rw [joinSegments_cons, List.cons_append]
    refine ⟨⟨?_, ?_⟩, by simp⟩
    · rw [List.head?_append_of_ne_nil _ hk.nonempty]
      exact hk.head
    · rw [List.getLast?_append_cons, List.getLast?_cons_of_ne_nil below.nonempty]
      exact below.last

theorem doublesSlash_iff_not_isChain :
    DoublesSlash cs ↔ ¬ cs.IsChain fun a b => ¬ (a = '/' ∧ b = '/') := by
  rw [List.isChain_iff_forall_rel_of_append_cons_cons]
  constructor
  · rintro ⟨before, after, rfl⟩ chain
    exact chain (List.append_assoc before _ after) ⟨rfl, rfl⟩
  · intro h
    simp only [not_forall, Classical.not_not] at h
    obtain ⟨a, b, before, after, rfl, rfl, rfl⟩ := h
    exact ⟨before, after, by simp⟩

theorem doublesSlash_append_iff {ds : List Char}
    (h : cs.getLast? ≠ some '/' ∨ ds.head? ≠ some '/') :
    DoublesSlash (cs ++ ds) ↔ DoublesSlash cs ∨ DoublesSlash ds := by
  have apart : ∀ a ∈ cs.getLast?, ∀ b ∈ ds.head?, ¬ (a = '/' ∧ b = '/') := by
    rintro _ ha _ hb ⟨rfl, rfl⟩
    exact h.elim (absurd ha) (absurd hb)
  simp only [doublesSlash_iff_not_isChain, List.isChain_append]
  tauto

theorem not_doublesSlash_of_length (h : cs.length < 2) : ¬ DoublesSlash cs := fun double =>
  absurd double.length_le (by simpa using h)

/-- A path of solid segments doubles a slash only inside of a segment. -/
theorem doublesSlash_joinSegments_iff (h : ∀ k ∈ ks, IsSolid k) :
    DoublesSlash (joinSegments ks) ↔ ∃ k ∈ ks, DoublesSlash k := by
  induction ks with
  | nil => simpa using not_doublesSlash_of_length (by simp)
  | cons k rest ih =>
    obtain ⟨hk, hrest⟩ := List.forall_mem_cons.mp h
    have single : ¬ DoublesSlash ['/'] := not_doublesSlash_of_length (by simp)
    rw [joinSegments_cons, List.cons_append, ← List.singleton_append,
      doublesSlash_append_iff (.inr (isSolid_append_joinSegments hk hrest).head),
      doublesSlash_append_iff (.inl hk.last), ih hrest]
    simp [single]

theorem length_joinSegments_keptSegments_le (xs : List String) :
    (joinSegments (keptSegments xs)).length ≤ (joinSegments (xs.map String.toList)).length := by
  induction xs with
  | nil => simp [keptSegments]
  | cons x rest ih =>
    have stripped := length_stripSlashes_le x.toList
    by_cases hx : IsHollow x.toList
    · rw [keptSegments_cons_of_hollow hx]
      simp
      omega
    · rw [keptSegments_cons_of_not_hollow hx]
      simp
      omega

/-- The kept segments make the same path as all segments only if nothing is stripped or left out,
since otherwise their path is shorter. -/
theorem joinSegments_keptSegments_eq_iff :
    joinSegments (keptSegments xs) = joinSegments (xs.map String.toList) ↔
      ∀ x ∈ xs, IsSolid x.toList := by
  induction xs with
  | nil => simp [keptSegments]
  | cons x rest ih =>
    have shorter := length_joinSegments_keptSegments_le rest
    have stripped := length_stripSlashes_le x.toList
    rw [List.forall_mem_cons]
    by_cases hx : IsHollow x.toList
    · rw [keptSegments_cons_of_hollow hx]
      constructor
      · intro h
        have lengths := congrArg List.length h
        simp at lengths
        omega
      · rintro ⟨solid, -⟩
        have bare := stripSlashes_eq_self_iff.mpr solid.toIsBare
        exact absurd (bare.symm.trans (stripSlashes_eq_nil_iff.mpr hx)) solid.nonempty
    · rw [keptSegments_cons_of_not_hollow hx, List.map_cons, joinSegments_cons, joinSegments_cons,
        ← ih]
      have filled : stripSlashes x.toList ≠ [] := fun hn => hx (stripSlashes_eq_nil_iff.mp hn)
      constructor
      · intro h
        have lengths := congrArg List.length h
        simp only [List.length_append, List.length_cons] at lengths
        have whole : stripSlashes x.toList = x.toList := stripSlashes_eq_of_length (by omega)
        rw [whole] at h filled
        exact ⟨⟨stripSlashes_eq_self_iff.mp whole, filled⟩, List.append_cancel_left h⟩
      · rintro ⟨solid, hr⟩
        rw [stripSlashes_eq_self_iff.mpr solid.toIsBare, hr]

theorem count_joinSegments_cons (k : List Char) (ks : List (List Char)) :
    (joinSegments (k :: ks)).count '/' = 1 + k.count '/' + (joinSegments ks).count '/' := by
  simp
  omega

theorem length_le_count_joinSegments (ks : List (List Char)) :
    ks.length ≤ (joinSegments ks).count '/' := by
  induction ks with
  | nil => simp
  | cons k rest ih =>
    rw [count_joinSegments_cons, List.length_cons]
    omega

/-- A path has as many slashes as segments exactly if these are without slashes. -/
theorem count_joinSegments_eq_length_iff :
    (joinSegments ks).count '/' = ks.length ↔ ∀ k ∈ ks, '/' ∉ k := by
  induction ks with
  | nil => simp
  | cons k rest ih =>
    have more := length_le_count_joinSegments rest
    rw [List.forall_mem_cons, ← ih, ← List.count_eq_zero, count_joinSegments_cons,
      List.length_cons]
    omega

end CredentialName

namespace Text

open CredentialName

/-- A path is split into the segments that it was joined of, if they are without slashes. -/
theorem split_joinSegments {ks : List (List Char)} (h : ∀ k ∈ ks, '/' ∉ k) :
    split '/' (joinSegments ks) = [] :: ks := by
  induction ks with
  | nil => rfl
  | cons k rest ih =>
    obtain ⟨hk, hrest⟩ := List.forall_mem_cons.mp h
    rw [joinSegments_cons, List.cons_append, split, if_pos rfl,
      split_append_of_not_mem hk (ih hrest), List.append_nil]

theorem split_joinSegments_iff {ks : List (List Char)} :
    split '/' (joinSegments ks) = [] :: ks ↔ ∀ k ∈ ks, '/' ∉ k := by
  refine ⟨fun h k hk => ?_, split_joinSegments⟩
  exact not_mem_of_mem_split (h ▸ List.mem_cons_of_mem _ hk)

end Text

/-- A path is joined in one way only of as many segments as are without slashes. -/
theorem CredentialName.eq_of_joinSegments_eq {ks ls : List (List Char)}
    (h : joinSegments ks = joinSegments ls) (hl : ks.length = ls.length)
    (hk : ∀ k ∈ ks, '/' ∉ k) : ks = ls := by
  have hls : ∀ l ∈ ls, '/' ∉ l := by
    rw [← count_joinSegments_eq_length_iff, ← h, ← hl]
    exact count_joinSegments_eq_length_iff.mpr hk
  have parts := congrArg (Text.split '/') h
  rw [Text.split_joinSegments hk, Text.split_joinSegments hls] at parts
  exact (List.cons.inj parts).2

end CredentialWrite
