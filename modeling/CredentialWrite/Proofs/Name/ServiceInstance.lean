import CredentialWrite.Proofs.Name.Simple

/-!
# Names of service instances

The name of a service instance takes its four segments as they are, and refuses empty ones. So the
segments are read back from the path only if they are without slashes, and then no other segments
have the same path. It is the simple name of the same segments only if these have no outer slashes,
since every other segment is shorter there or left out.
-/

namespace CredentialWrite.CredentialName

/-- The segments of a service instance's name. -/
structure Binding where
  broker : String
  offering : String
  binding : String
  credential : String

namespace Binding

def part (b : Binding) : BindingPart → String
  | .broker => b.broker
  | .offering => b.offering
  | .binding => b.binding
  | .credential => b.credential

def segments (b : Binding) : List String := bindingParts.map b.part

def emptyPart? (b : Binding) : Option BindingPart := bindingParts.find? (b.part · = "")

def path (b : Binding) : String := bindingPath b.broker b.offering b.binding b.credential

def name (b : Binding) : Making := fun s =>
  serviceInstanceOf s (.text b.broker) (.text b.offering) (.text b.binding) (.text b.credential)

def IsPlain (b : Binding) : Prop := ∀ part, '/' ∉ (b.part part).toList

/-- No segment has a slash at its ends. -/
def IsBare (b : Binding) : Prop := ∀ part, CredentialName.IsBare (b.part part).toList

variable {b b' : Binding} {s : Store}

@[simp] theorem mem_segments {x : String} : x ∈ b.segments ↔ ∃ part, b.part part = x := by
  have listed : ∀ part, part ∈ bindingParts := by
    intro part
    cases part <;> simp [bindingParts]
  simp [segments, listed]

theorem emptyPart?_eq_none_iff : b.emptyPart? = none ↔ ∀ part, b.part part ≠ "" := by
  have whole : b.emptyPart? = none ↔ ∀ x ∈ b.segments, x ≠ "" := by
    simp [emptyPart?, segments]
  simpa using whole

theorem toList_path (b : Binding) :
    b.path.toList = joinSegments (("c" :: b.segments).map String.toList) :=
  String.toList_ofList

theorem name_eq (b : Binding) (s : Store) : b.name s = match b.emptyPart? with
    | some part => (.error (.request (.emptyPart part)), s)
    | none => make s .serviceInstance b.path := by
  have empty : (fun part => !s.isTrue (.text (b.part part))) = fun part => b.part part = "" := by
    funext part
    simp [Store.isTrue, Ref.text]
  have found : (bindingParts.zip [.text b.broker, .text b.offering, .text b.binding,
      .text b.credential]).find? (fun given => !s.isTrue given.2) =
        b.emptyPart?.map fun part => (part, .text (b.part part)) := by
    change (bindingParts.map fun part => (part, Ref.text (b.part part))).find? _ = _
    rw [List.find?_map, emptyPart?, ← empty]
    rfl
  simp only [name, serviceInstanceOf, found]
  cases b.emptyPart? <;> rfl

theorem makes_name (h : b.emptyPart? = none) : Makes b.name b.path := by
  have filled : b.path ≠ "" := by
    intro hp
    have hl := b.toList_path
    rw [hp] at hl
    cases hl
  exact makes_of_eq_make filled fun s => by rw [name_eq, h]

theorem emptyPart?_of_name_eq_ok {r : Ref} {t : Store} (h : b.name s = (.ok r, t)) :
    b.emptyPart? = none := by
  rw [name_eq] at h
  cases he : b.emptyPart? with
  | none => rfl
  | some part =>
    rw [he] at h
    cases h

/-- The segments stand between the slashes of the path if and only if they are plain. -/
theorem split_path_iff : Text.split '/' b.path.toList =
    [[], ['c'], b.broker.toList, b.offering.toList, b.binding.toList, b.credential.toList] ↔
      b.IsPlain := by
  rw [toList_path]
  refine Text.split_joinSegments_iff.trans ?_
  simp [IsPlain]

/-- Plain segments are the only ones with their path. -/
theorem eq_of_path_eq (h : b.path = b'.path) (hb : b.IsPlain) : b = b' := by
  have joined := congrArg String.toList h
  rw [toList_path, toList_path] at joined
  have same := eq_of_joinSegments_eq joined rfl (by simpa [IsPlain] using hb)
  cases b
  cases b'
  simpa [Binding.segments, bindingParts, part, String.toList_inj] using same

/-- Below the first segment there is always a simple name. -/
theorem exists_simplePath? (b : Binding) :
    ∃ path, simplePath? ("c" :: b.segments) = some path := by
  refine Option.ne_none_iff_exists'.mp fun hn => ?_
  have hollow := simplePath?_eq_none_iff.mp hn "c" (.head _)
  exact absurd (hollow 'c' (.head _)) (by decide)

/-- The segments make the path of the simple name only if they are bare. -/
theorem simplePath?_eq_path_iff (h : b.emptyPart? = none) :
    simplePath? ("c" :: b.segments) = some b.path ↔ b.IsBare := by
  have filled := emptyPart?_eq_none_iff.mp h
  have first : IsSolid ['c'] := ⟨⟨by decide, by decide⟩, by decide⟩
  have solid : (∀ x ∈ "c" :: b.segments, IsSolid x.toList) ↔ b.IsBare := by
    constructor
    · intro hs part
      exact (hs _ (.tail _ (mem_segments.mpr ⟨part, rfl⟩))).toIsBare
    · intro hb
      rw [List.forall_mem_cons]
      refine ⟨first, fun x hx => ?_⟩
      obtain ⟨part, rfl⟩ := mem_segments.mp hx
      exact ⟨hb part, by simpa using filled part⟩
  rw [← solid, ← joinSegments_keptSegments_eq_iff, simplePath?_eq_some_iff, toList_path]
  constructor
  · exact fun hp => hp.2.symm
  · intro hp
    refine ⟨fun hn => ?_, hp.symm⟩
    rw [hn] at hp
    cases hp

end Binding

/-- The name of a service instance is refused if and only if a segment is empty, for the first one
that is. Otherwise its path splits into the segments if and only if they are plain, other segments
have another name if either of the two are plain, and the simple name of the same segments is equal
if and only if none has a slash at its ends. -/
theorem service_instance_name_tells_segments (b : Binding) :
    match b.emptyPart? with
    | some part => ∀ s, b.name s = (.error (.request (.emptyPart part)), s)
    | none => ∃ path, (∀ s, Named (b.name s) path) ∧
        (Text.split '/' path.toList = [[], ['c'], b.broker.toList, b.offering.toList,
          b.binding.toList, b.credential.toList] ↔ b.IsPlain) ∧
        (∀ b' s, Compares s b.name b'.name true → b.IsPlain ∨ b'.IsPlain → b = b') ∧
        ∀ s, ∃ same, Compares s b.name (simple ("c" :: b.segments)) same ∧
          (same = true ↔ b.IsBare) := by
  cases he : b.emptyPart? with
  | some part => exact fun s => by rw [Binding.name_eq, he]
  | none =>
    have made := Binding.makes_name he
    refine ⟨b.path, fun s => made.named_iff.mpr rfl, Binding.split_path_iff, ?_, fun s => ?_⟩
    · intro b' s hc plain
      obtain ⟨-, t, _, _, -, hg, -⟩ := id hc
      have made' := Binding.makes_name (Binding.emptyPart?_of_name_eq_ok hg)
      have paths : b.path = b'.path := by simpa using hc.unique (made.compares made' s)
      rcases plain with hb | hb'
      · exact Binding.eq_of_path_eq paths hb
      · exact (Binding.eq_of_path_eq paths.symm hb').symm
    · obtain ⟨path, hp⟩ := Binding.exists_simplePath? b
      refine ⟨_, made.compares (makes_simple hp) s, ?_⟩
      rw [← Binding.simplePath?_eq_path_iff he, hp]
      simp [eq_comm]

/-- Plain segments are read back and make the simple name too. A slash that stands in one segment or
in the next one makes the same name. -/
theorem names_of_plain_and_of_slashed_segments :
    let plain : Binding := ⟨"broker", "offering", "id", "password"⟩
    let left : Binding := ⟨"a/b", "c", "id", "password"⟩
    let right : Binding := ⟨"a", "b/c", "id", "password"⟩
    let hollow : Binding := ⟨"broker", "", "id", ""⟩
    (∃ path, Named (plain.name .empty) path ∧ Text.split '/' path.toList =
      [[], ['c'], "broker".toList, "offering".toList, "id".toList, "password".toList]) ∧
    Compares .empty plain.name (simple ("c" :: plain.segments)) true ∧
    Compares .empty left.name right.name true ∧ left ≠ right ∧
    hollow.name .empty = (.error (.request (.emptyPart .offering)), .empty) := by
  intro plain left right hollow
  have isPlain : plain.IsPlain := by
    intro part
    cases part <;> decide
  have isBare : plain.IsBare := by
    intro part
    cases part <;> exact ⟨by decide, by decide⟩
  obtain ⟨path, named, split, -, simple⟩ := service_instance_name_tells_segments plain
  obtain ⟨same, compared, bare⟩ := simple .empty
  obtain rfl := bare.mpr isBare
  have samePath : left.path = right.path := by decide
  have made : Makes left.name left.path := Binding.makes_name rfl
  have made' : Makes right.name left.path := samePath ▸ Binding.makes_name rfl
  refine ⟨⟨path, named .empty, split.mpr isPlain⟩, compared, ?_, ?_, ?_⟩
  · simpa using made.compares made' .empty
  · exact fun same => absurd (congrArg Binding.broker same) (by decide)
  · exact service_instance_name_tells_segments hollow .empty

end CredentialWrite.CredentialName
