import CredentialWrite.Name.Given
import CredentialWrite.Proofs.Name.Segments
import CredentialWrite.Proofs.Store.Viewing
import CredentialWrite.Session.Lookup

/-!
# Simple names are normal forms

A simple name is refused only when all its segments are hollow. Otherwise its path starts with one
slash, ends with none and doubles a slash only where a stripped segment does. More slashes at the
ends of segments or in segments of their own change nothing, the name of a path that was made so is
the same name, and the path of segments in a row is that of the paths of its pieces.
-/

namespace CredentialWrite.CredentialName

/-- A call that makes a name, or is refused, in any store. -/
abbrev Making := Store → Except Failure Ref × Store

def Makes (f : Making) (path : String) : Prop :=
  ∃ scheme h, ∀ s, f s = (.ok (.address s.cells.size), (s.alloc (.name ⟨scheme, path, h⟩)).2)

def Named (o : Except Failure Ref × Store) (path : String) : Prop :=
  ∃ r, o.1 = .ok r ∧ o.2.part r "name" = .ok (.text path)

/-- What the comparison gives of the names that two calls make one after the other. -/
def Compares (s : Store) (f g : Making) (same : Bool) : Prop :=
  ∃ r t r' u, f s = (.ok r, t) ∧ g t = (.ok r', u) ∧ u.equalOf r r' = .ok same

def simple (xs : List String) : Making := fun s => simpleOf s (xs.map Ref.text)

variable {s : Store} {f g : Making} {p q path : String} {xs ys : List String}

theorem makes_of_eq_make {scheme : NameScheme} (h : path ≠ "")
    (hf : ∀ s, f s = make s scheme path) : Makes f path := by
  refine ⟨scheme, h, fun s => ?_⟩
  have filled : s.checkFilledText (.text path) = .ok ⟨path, h⟩ := by
    simp [Store.checkFilledText, Store.checkText, Ref.text, h]
  have checked : s.checkName scheme [("name", .text path)] = .ok ⟨scheme, path, h⟩ := by
    simp [Store.checkName, Checked.required, Checked.under, filled, Except.map]
  rw [hf, make, checked]
  rfl

theorem part_name {a : Address} {n : CredentialName} (h : s.cell? a = some (.name n)) :
    s.part (.address a) "name" = .ok (.text n.path) := by
  simp only [Store.part, Store.cellOf?, h]
  rfl

theorem Makes.named_iff (h : Makes f p) : Named (f s) q ↔ q = p := by
  obtain ⟨scheme, hp, hf⟩ := h
  have read := part_name (s.cell?_alloc_self (.name ⟨scheme, p, hp⟩))
  rw [hf, Named]
  constructor
  · rintro ⟨r, hr, hq⟩
    cases hr
    cases read.symm.trans hq
    rfl
  · rintro rfl
    exact ⟨_, rfl, read⟩

theorem Makes.compares (hf : Makes f p) (hg : Makes g q) (s : Store) :
    Compares s f g (p = q) := by
  obtain ⟨scheme, hp, hf⟩ := hf
  obtain ⟨scheme', hq, hg⟩ := hg
  let n : CredentialName := ⟨scheme, p, hp⟩
  let m : CredentialName := ⟨scheme', q, hq⟩
  let t := (s.alloc (.name n)).2
  have first : (t.alloc (.name m)).2.view (.address s.cells.size) =
      .record s.cells.size (.name n) :=
    Store.view_name (Store.extends_alloc t _ _ _ (s.cell?_alloc_self (.name n)))
  have second : (t.alloc (.name m)).2.view (.address t.cells.size) =
      .record t.cells.size (.name m) :=
    Store.view_name (t.cell?_alloc_self (.name m))
  refine ⟨_, t, _, _, hf s, hg t, ?_⟩
  simp [Store.equalOf_records first second, Record.same, same, n, m]

theorem Compares.unique {x y : Bool} (hx : Compares s f g x)
    (hy : Compares s f g y) : x = y := by
  obtain ⟨r, t, q, u, hf, hg, hx⟩ := hx
  obtain ⟨_, _, _, _, hf', hg', hy⟩ := hy
  cases hf.symm.trans hf'
  cases hg.symm.trans hg'
  cases hx.symm.trans hy
  rfl

/-! ### Paths of segments -/

theorem simplePath?_eq_none_iff : simplePath? xs = none ↔ ∀ x ∈ xs, IsHollow x.toList := by
  rw [← keptSegments_eq_nil_iff, simplePath?]
  cases keptSegments xs <;> simp

theorem simplePath?_eq_some_iff : simplePath? xs = some path ↔
    keptSegments xs ≠ [] ∧ path.toList = joinSegments (keptSegments xs) := by
  rw [simplePath?]
  cases keptSegments xs with
  | nil => simp
  | cons k rest =>
    simp only [Option.some.injEq, ne_eq, reduceCtorEq, not_false_eq_true, true_and]
    constructor
    · rintro rfl
      exact String.toList_ofList
    · intro h
      rw [← h, String.ofList_toList]

/-- The path of a simple name is solid below its first slash. -/
theorem exists_isSolid_of_simplePath? (h : simplePath? xs = some path) :
    ∃ cs, path.toList = '/' :: cs ∧ IsSolid cs := by
  obtain ⟨hne, hp⟩ := simplePath?_eq_some_iff.mp h
  obtain ⟨k, ks, hk⟩ := List.exists_cons_of_ne_nil hne
  have solid : ∀ l ∈ k :: ks, IsSolid l := fun l hl => isSolid_of_mem_keptSegments (hk ▸ hl)
  obtain ⟨first, rest⟩ := List.forall_mem_cons.mp solid
  rw [hk, joinSegments_cons, List.cons_append] at hp
  exact ⟨_, hp, isSolid_append_joinSegments first rest⟩

theorem path_ne_empty_of_simplePath? (h : simplePath? xs = some path) : path ≠ "" := by
  obtain ⟨cs, hp, -⟩ := exists_isSolid_of_simplePath? h
  rintro rfl
  cases hp

/-- The path of segments is kept as one segment. -/
theorem simplePath?_singleton (h : simplePath? xs = some path) :
    simplePath? [path] = some path := by
  obtain ⟨cs, hp, solid⟩ := exists_isSolid_of_simplePath? h
  have stripped : stripSlashes path.toList = cs := by
    rw [hp, solid.stripSlashes_slash_cons]
  have filled : ¬ IsHollow path.toList := by
    rw [← stripSlashes_eq_nil_iff, stripped]
    exact solid.nonempty
  have kept : keptSegments [path] = [cs] := by
    rw [keptSegments_cons_of_not_hollow filled, stripped]
    rfl
  rw [simplePath?_eq_some_iff, kept, hp]
  simp

theorem simplePath?_append (hp : simplePath? xs = some p) (hq : simplePath? ys = some q) :
    simplePath? (xs ++ ys) = some (p ++ q) := by
  obtain ⟨hne, hp⟩ := simplePath?_eq_some_iff.mp hp
  obtain ⟨-, hq⟩ := simplePath?_eq_some_iff.mp hq
  rw [simplePath?_eq_some_iff, keptSegments_append, joinSegments_append, String.toList_append, hp,
    hq]
  exact ⟨List.append_ne_nil_of_left_ne_nil hne _, rfl⟩

theorem simplePath?_pair (hp : simplePath? xs = some p) (hq : simplePath? ys = some q) :
    simplePath? [p, q] = some (p ++ q) :=
  simplePath?_append (simplePath?_singleton hp) (simplePath?_singleton hq)

/-- A path with one slash at its start and none at its end, where slashes are doubled as they are
in the segments without their outer slashes. -/
structure IsNormal (xs : List String) (path : String) : Prop where
  head : ∃ cs, path.toList = '/' :: cs ∧ cs.head? ≠ some '/'
  last : path.toList.getLast? ≠ some '/'
  doubled : DoublesSlash path.toList ↔ ∃ x ∈ xs, DoublesSlash (stripSlashes x.toList)

theorem exists_mem_keptSegments_iff :
    (∃ k ∈ keptSegments xs, DoublesSlash k) ↔ ∃ x ∈ xs, DoublesSlash (stripSlashes x.toList) := by
  constructor
  · rintro ⟨k, hk, double⟩
    obtain ⟨x, hx, rfl⟩ := List.mem_map.mp (List.mem_filter.mp hk).1
    exact ⟨x, hx, double⟩
  · rintro ⟨x, hx, double⟩
    have filled : stripSlashes x.toList ≠ [] := by
      intro hn
      rw [hn] at double
      exact not_doublesSlash_of_length (by simp) double
    exact ⟨_, List.mem_filter.mpr ⟨List.mem_map_of_mem hx, by simpa using filled⟩, double⟩

theorem isNormal_of_simplePath? (h : simplePath? xs = some path) : IsNormal xs path := by
  obtain ⟨cs, hp, solid⟩ := exists_isSolid_of_simplePath? h
  refine ⟨⟨cs, hp, solid.head⟩, ?_, ?_⟩
  · rw [hp, List.getLast?_cons_of_ne_nil solid.nonempty]
    exact solid.last
  · rw [(simplePath?_eq_some_iff.mp h).2, ← exists_mem_keptSegments_iff]
    exact doublesSlash_joinSegments_iff fun l hl => isSolid_of_mem_keptSegments hl

/-! ### Names of segments -/

theorem segmentTexts_text (s : Store) (xs : List String) :
    segmentTexts s (xs.map Ref.text) = .ok (xs.filter (· ≠ "")) := by
  induction xs with
  | nil => rfl
  | cons x rest ih =>
    have given : s.isTrue (.scalar (.text x)) = decide (x ≠ "") := rfl
    change segmentTexts s (.scalar (.text x) :: rest.map Ref.text) = _
    rcases eq_or_ne x "" with rfl | hx
    · simpa [segmentTexts, given] using ih
    · simp [segmentTexts, given, hx, ih, Except.map]

theorem simplePath?_filter (xs : List String) :
    simplePath? (xs.filter (· ≠ "")) = simplePath? xs := by
  have kept : keptSegments (xs.filter (· ≠ "")) = keptSegments xs := by
    induction xs with
    | nil => rfl
    | cons x rest ih =>
      by_cases hx : x = ""
      · have hollow : IsHollow x.toList := by simp [hx, IsHollow]
        rw [List.filter_cons_of_neg (by simpa using hx), keptSegments_cons_of_hollow hollow, ih]
      · rw [List.filter_cons_of_pos (by simpa using hx), ← List.singleton_append,
          keptSegments_append, ih, ← keptSegments_append, List.singleton_append]
  rw [simplePath?, simplePath?, kept]

theorem simple_eq (xs : List String) (s : Store) :
    simple xs s = match simplePath? xs with
      | none => (.error (.request .noSegments), s)
      | some path => make s .simple path := by
  cases hp : simplePath? xs <;>
    simp only [simple, simpleOf, segmentTexts_text, simplePath?_filter, hp]

theorem makes_simple (h : simplePath? xs = some path) : Makes (simple xs) path :=
  makes_of_eq_make (path_ne_empty_of_simplePath? h) fun s => by rw [simple_eq, h]

theorem named_simple_iff : Named (simple xs s) path ↔ simplePath? xs = some path := by
  cases h : simplePath? xs with
  | some p => rw [(makes_simple h).named_iff, Option.some.injEq, eq_comm]
  | none =>
    rw [simple_eq, h]
    simp [Named]

theorem simple_refused_iff : simple xs s = (.error (.request .noSegments), s) ↔
    ∀ x ∈ xs, IsHollow x.toList := by
  rw [← simplePath?_eq_none_iff]
  cases hp : simplePath? xs with
  | none => simp [simple_eq, hp]
  | some path =>
    obtain ⟨scheme, h, made⟩ := makes_simple hp
    simp [made s]

/-- The same segments with more slashes: some at the ends of segments, some in segments of their
own. -/
inductive Padded : List String → List String → Prop
  | nil : Padded [] []
  | insert {xs ys : List String} {x : String} (h : IsHollow x.toList) (rest : Padded xs ys) :
      Padded xs (x :: ys)
  | pad {xs ys : List String} {x y : String} (m n : Nat)
      (h : y.toList = List.replicate m '/' ++ x.toList ++ List.replicate n '/')
      (rest : Padded xs ys) : Padded (x :: xs) (y :: ys)

theorem Padded.keptSegments (h : Padded xs ys) : keptSegments ys = keptSegments xs := by
  induction h with
  | nil => rfl
  | insert hollow rest ih => rw [keptSegments_cons_of_hollow hollow, ih]
  | @pad xs ys x y m n hy rest ih =>
    have stripped : stripSlashes y.toList = stripSlashes x.toList := by
      rw [hy, stripSlashes_padded]
    by_cases hx : IsHollow x.toList
    · rw [keptSegments_cons_of_hollow hx, keptSegments_cons_of_hollow, ih]
      rwa [← stripSlashes_eq_nil_iff, stripped, stripSlashes_eq_nil_iff]
    · rw [keptSegments_cons_of_not_hollow hx, keptSegments_cons_of_not_hollow, ih, stripped]
      rwa [← stripSlashes_eq_nil_iff, stripped, stripSlashes_eq_nil_iff]

theorem Padded.simple_eq (h : Padded xs ys) : simple ys = simple xs := by
  funext s
  rw [CredentialName.simple_eq, CredentialName.simple_eq, simplePath?, simplePath?, h.keptSegments]

/-- A simple name is refused if and only if all segments are hollow. Otherwise its path is normal,
and what is made of the path is the same name. Segments in a row name what the paths of their pieces
do, and slashes that are added at the ends of segments or as segments change nothing. -/
theorem simple_name_is_normal_form (xs : List String) :
    (∀ s, simple xs s = (.error (.request .noSegments), s) ↔ ∀ x ∈ xs, IsHollow x.toList) ∧
    ((∃ x ∈ xs, ¬ IsHollow x.toList) → ∃ path, IsNormal xs path ∧
      ∀ s, Named (simple xs s) path ∧ Compares s (simple [path]) (simple xs) true) ∧
    (∀ ys s t u p q, Named (simple xs s) p → Named (simple ys t) q →
      Compares u (simple (xs ++ ys)) (simple [p, q]) true) ∧
    ∀ ys, Padded xs ys → simple ys = simple xs := by
  refine ⟨fun s => simple_refused_iff, fun hx => ?_, ?_, fun ys h => h.simple_eq⟩
  · cases hp : simplePath? xs with
    | none =>
      obtain ⟨x, hx, hn⟩ := hx
      exact absurd (simplePath?_eq_none_iff.mp hp x hx) hn
    | some path =>
      refine ⟨path, isNormal_of_simplePath? hp, fun s => ⟨named_simple_iff.mpr hp, ?_⟩⟩
      simpa using (makes_simple (simplePath?_singleton hp)).compares (makes_simple hp) s
  · intro ys s t u p q hp hq
    rw [named_simple_iff] at hp hq
    have whole := makes_simple (simplePath?_append hp hq)
    have pieces := makes_simple (simplePath?_pair hp hq)
    simpa using whole.compares pieces u

/-- Segments with slashes at both ends, an empty one, one with two slashes inside, and one that is
of slashes only. -/
theorem simple_name_of_slashed_segments :
    let xs := ["/team//", "", "a//b/"]
    let ys := ["//", "c/"]
    (∃ path, IsNormal xs path ∧ Named (simple xs .empty) path ∧
      Compares .empty (simple [path]) (simple xs) true) ∧
    Compares .empty (simple (xs ++ ys)) (simple ["/team/a//b", "/c"]) true ∧
    simple ys = simple ["c"] ∧
    simple ["//", ""] .empty = (.error (.request .noSegments), .empty) := by
  intro xs ys
  obtain ⟨-, made, pieces, -⟩ := simple_name_is_normal_form xs
  obtain ⟨-, -, -, padded⟩ := simple_name_is_normal_form ["c"]
  obtain ⟨path, normal, named⟩ := made ⟨"a//b/", by simp [xs], by simp [IsHollow]⟩
  have first : Named (simple xs .empty) "/team/a//b" := named_simple_iff.mpr rfl
  have second : Named (simple ys .empty) "/c" := named_simple_iff.mpr rfl
  refine ⟨⟨path, normal, named .empty⟩, pieces ys _ _ .empty _ _ first second, ?_, ?_⟩
  · exact padded ys (.insert (by simp [IsHollow]) (.pad 0 1 rfl .nil))
  · exact ((simple_name_is_normal_form _).1 .empty).mpr (by simp [IsHollow])

end CredentialWrite.CredentialName
