import CredentialWrite.Proofs.Url.Escaping

/-!
# Settled paths

The path of a URL has been resolved and escaped. Such a path is settled: every character of it may
stand in a path, and no segment is a dot or two. Reading a settled path again leaves it as it is,
and settled paths that are put together with a slash between them are one.
-/

namespace CredentialWrite.Url

open Text

variable {path before after : List Char}

def isPathChar (c : Char) : Bool := pathSafe c || isUnreserved c

def IsDot (segment : List Char) : Prop := segment = ['.'] ∨ segment = ['.', '.']

structure IsSettled (path : List Char) : Prop where
  chars : ∀ c ∈ path, isPathChar c = true
  segments : ∀ segment ∈ split '/' path, ¬ IsDot segment

theorem IsSettled.nil : IsSettled [] where
  chars := fun _ h => absurd h List.not_mem_nil
  segments := fun segment h => by
    obtain rfl := List.mem_singleton.mp h
    exact fun dot => dot.elim nofun nofun

theorem isSettled_append_slash :
    IsSettled (before ++ '/' :: after) ↔ IsSettled before ∧ IsSettled after := by
  have slash : isPathChar '/' = true := by decide
  constructor
  · rintro ⟨chars, segments⟩
    rw [split_append_separator, List.forall_mem_append] at segments
    obtain ⟨hb, ha⟩ := List.forall_mem_append.mp chars
    exact ⟨⟨hb, segments.1⟩, ⟨(List.forall_mem_cons.mp ha).2, segments.2⟩⟩
  · rintro ⟨⟨hb, db⟩, ⟨ha, da⟩⟩
    refine ⟨List.forall_mem_append.mpr ⟨hb, List.forall_mem_cons.mpr ⟨slash, ha⟩⟩, ?_⟩
    rw [split_append_separator]
    exact List.forall_mem_append.mpr ⟨db, da⟩

theorem IsSettled.escape (h : IsSettled path) : Url.escape pathSafe path = path :=
  escape_eq_self h.chars

theorem IsSettled.resolveSegments (h : IsSettled path) : Url.resolveSegments path = path := by
  have dotless : ¬ (['.'] ∈ split '/' path ∨ ['.', '.'] ∈ split '/' path) := by
    rintro (hd | hd)
    · exact h.segments _ hd (.inl rfl)
    · exact h.segments _ hd (.inr rfl)
  simp only [Url.resolveSegments, List.contains_iff_mem, Bool.or_eq_true]
  exact if_neg dotless

theorem IsSettled.not_mem_questionMark (h : IsSettled path) : '?' ∉ path :=
  fun hc => absurd (h.chars '?' hc) (by decide)

def IsPlain (segment : List Char) : Prop := '/' ∉ segment ∧ ¬ IsDot segment

theorem isPlain_of_mem_resolveSegment {done : List (List Char)} {segment part : List Char}
    (hd : ∀ part ∈ done, IsPlain part) (hs : '/' ∉ segment)
    (h : part ∈ resolveSegment done segment) : IsPlain part := by
  unfold resolveSegment at h
  split at h
  · exact hd part h
  · next one =>
    split at h
    · split at h
      · exact hd part h
      · exact hd part (List.dropLast_subset done h)
    · next two =>
      rcases List.mem_append.mp h with h | h
      · exact hd part h
      · obtain rfl := List.mem_singleton.mp h
        exact ⟨hs, fun dot => dot.elim one two⟩

theorem isPlain_of_mem_foldl {parts done : List (List Char)} (hp : ∀ part ∈ parts, '/' ∉ part)
    (hd : ∀ part ∈ done, IsPlain part) :
    ∀ part ∈ parts.foldl resolveSegment done, IsPlain part := by
  induction parts generalizing done with
  | nil => exact hd
  | cons segment rest ih =>
    obtain ⟨hs, hrest⟩ := List.forall_mem_cons.mp hp
    exact ih hrest fun part => isPlain_of_mem_resolveSegment hd hs

theorem not_isDot_of_resolved {segment : List Char}
    (h : segment ∈ split '/' (resolveSegments path)) : ¬ IsDot segment := by
  have noSlash : ∀ part ∈ split '/' path, '/' ∉ part := fun _ => not_mem_of_mem_split
  have plain := isPlain_of_mem_foldl noSlash (fun _ h => absurd h List.not_mem_nil)
  simp only [resolveSegments, List.contains_iff_mem, Bool.or_eq_true] at h
  split at h
  · by_cases hne : (split '/' path).foldl resolveSegment [] = []
    · rw [hne] at h
      exact IsSettled.nil.segments segment h
    · rw [split_join (fun part hp => (plain part hp).1) hne] at h
      exact (plain segment h).2
  · next dotless =>
    rintro (rfl | rfl)
    · exact dotless (.inl h)
    · exact dotless (.inr h)

theorem isSettled_resolved (path : List Char) :
    IsSettled (escape pathSafe (resolveSegments path)) where
  chars := fun _ => mem_escape (by decide)
  segments := fun segment h => by
    rw [split_escape (by decide)] at h
    obtain ⟨part, hp, hs⟩ := List.mem_map.mp h
    rintro dot
    have dots : ∀ c ∈ segment, c = '.' := by
      rcases dot with rfl | rfl <;> simp
    obtain rfl := eq_of_escape_eq_dots hs dots
    exact not_isDot_of_resolved hp dot

end CredentialWrite.Url
