import CredentialWrite.Proofs.Payload.WellFormed
import Mathlib.Data.Finset.Card

/-!
# Written keys

Keys of any class are written as texts, and keys that are different objects may have one text. Of
entries under one text only the last is written. So as many entries are written as the keys have
texts, and all of them exactly when no two keys have one text.
-/

namespace CredentialWrite

theorem Json.member?_put {ν : Type} (entries : List (String × Json ν)) (k : String) (j : Json ν)
    (key : String) : member? key (.object (put entries k j)) =
      if k = key then some j else member? key (.object entries) := by
  induction entries with
  | nil => simp [put, member?_cons]
  | cons entry rest ih =>
    obtain ⟨l, x⟩ := entry
    rw [put]
    split
    · next hl =>
      rw [member?_cons, member?_cons, hl]
      split <;> rfl
    · next hl =>
      rw [member?_cons, member?_cons, ih]
      split
      · next hk => rw [if_neg fun h => hl (hk.trans h.symm)]
      · rfl

namespace Value

def writtenKeys (entries : List (Value × Value)) : List String :=
  entries.filterMap fun e => (keyText e.1).toOption

/-- The value of the last entry that is written under a text. -/
def lastUnder? (key : String) : List (Value × Value) → Option Value
  | [] => none
  | (k, v) :: rest =>
    (lastUnder? key rest).or (if (keyText k).toOption = some key then some v else none)

variable {p : Pruning} {room : Nat} {es : List (Value × Value)}
  {written fs : List (String × WireJson)}

theorem writtenKeys_cons {k v : Value} {key : String} (h : keyText k = .ok key) :
    writtenKeys ((k, v) :: es) = key :: writtenKeys es := by
  simp [writtenKeys, h, Except.toOption]

theorem lastUnder?_cons {k v : Value} {key : String} (h : keyText k = .ok key) (l : String) :
    lastUnder? l ((k, v) :: es) = (lastUnder? l es).or (if key = l then some v else none) := by
  simp [lastUnder?, h, Except.toOption]

theorem lastUnder?_of_not_mem {key : String} (h : key ∉ writtenKeys es) :
    lastUnder? key es = none := by
  induction es with
  | nil => rfl
  | cons e rest ih =>
    obtain ⟨k, v⟩ := e
    have other : (keyText k).toOption ≠ some key := fun hk => h (by simp [writtenKeys, hk])
    have others : key ∉ writtenKeys rest := fun hk => h (by
      rw [writtenKeys, List.filterMap_cons]
      split
      · exact hk
      · exact List.mem_cons_of_mem _ hk)
    rw [lastUnder?, ih others, if_neg other]
    rfl

/-- The keys of entries that are written have texts. -/
theorem exists_keyText_of_wireEntries (h : wireEntries p room written es = .ok fs) :
    ∀ e ∈ es, ∃ key, keyText e.1 = .ok key := by
  induction es generalizing written with
  | nil => simp
  | cons e rest ih =>
    obtain ⟨k, v⟩ := e
    rw [wireEntries] at h
    obtain ⟨key, hk, h⟩ := exists_of_bind_eq_ok h
    obtain ⟨j, -, h⟩ := exists_of_bind_eq_ok h
    exact List.forall_mem_cons.mpr ⟨⟨key, hk⟩, ih h⟩

theorem length_writtenKeys (h : ∀ e ∈ es, ∃ key, keyText e.1 = .ok key) :
    (writtenKeys es).length = es.length := by
  induction es with
  | nil => rfl
  | cons e rest ih =>
    obtain ⟨⟨key, hk⟩, hr⟩ := List.forall_mem_cons.mp h
    rw [writtenKeys_cons hk, List.length_cons, List.length_cons, ih hr]

/-- Texts are written as they are, so different ones differently. -/
theorem nodup_writtenKeys (hn : (es.map Prod.fst).Nodup)
    (texts : ∀ e ∈ es, ∃ t, e.1 = .scalar (.text t)) : (writtenKeys es).Nodup := by
  induction es with
  | nil => exact .nil
  | cons e rest ih =>
    obtain ⟨k, v⟩ := e
    obtain ⟨⟨t, ht⟩, others⟩ := List.forall_mem_cons.mp texts
    obtain ⟨new, apart⟩ := List.nodup_cons.mp hn
    obtain rfl : k = .scalar (.text t) := ht
    rw [writtenKeys_cons (show keyText (.scalar (.text t)) = .ok t from rfl)]
    refine (ih apart others).cons fun again => new ?_
    obtain ⟨f, hf, written⟩ := List.mem_filterMap.mp again
    obtain ⟨u, hu⟩ := others f hf
    rw [hu] at written
    obtain rfl : u = t := Option.some.inj written
    exact List.mem_map.mpr ⟨f, hf, hu⟩

/-- An entry is the last one under its text when there is no other. -/
theorem exists_lastUnder?_of_nodup (h : ∀ e ∈ es, ∃ key, keyText e.1 = .ok key)
    (hn : (writtenKeys es).Nodup) {e : Value × Value} (he : e ∈ es) :
    ∃ key, lastUnder? key es = some e.2 := by
  induction es with
  | nil => cases he
  | cons f rest ih =>
    obtain ⟨k, v⟩ := f
    obtain ⟨⟨key, hk⟩, hr⟩ := List.forall_mem_cons.mp h
    rw [writtenKeys_cons hk, List.nodup_cons] at hn
    rcases List.mem_cons.mp he with rfl | he
    · refine ⟨key, ?_⟩
      rw [lastUnder?_cons hk, lastUnder?_of_not_mem hn.1, if_pos rfl]
      rfl
    · obtain ⟨l, hl⟩ := ih hr hn.2 he
      refine ⟨l, ?_⟩
      rw [lastUnder?_cons hk, hl]
      rfl

/-- Under each text stands what was written from the last entry there, or before all of them. -/
theorem member?_wireEntries (h : wireEntries p room written es = .ok fs) (key : String) :
    match lastUnder? key es with
    | some x => ∃ j, Json.member? key (.object fs) = some j ∧ x.wire p room = .ok j
    | none => Json.member? key (.object fs) = Json.member? key (.object written) := by
  induction es generalizing written with
  | nil =>
    cases h
    rfl
  | cons e rest ih =>
    obtain ⟨k, v⟩ := e
    rw [wireEntries] at h
    obtain ⟨l, hk, h⟩ := exists_of_bind_eq_ok h
    obtain ⟨j, hv, h⟩ := exists_of_bind_eq_ok h
    have last := ih h
    rw [lastUnder?_cons hk]
    cases hr : lastUnder? key rest with
    | some x =>
      rw [hr] at last
      exact last
    | none =>
      rw [hr] at last
      simp only [Json.member?_put] at last
      by_cases hl : l = key
      · rw [if_pos hl] at last
        rw [if_pos hl]
        exact ⟨j, last, hv⟩
      · rw [if_neg hl] at last
        rw [if_neg hl]
        exact last

theorem mem_keys_of_wireEntries (h : wireEntries p room written es = .ok fs) (key : String) :
    key ∈ fs.map Prod.fst ↔ key ∈ written.map Prod.fst ∨ key ∈ writtenKeys es := by
  induction es generalizing written with
  | nil =>
    cases h
    simp [writtenKeys]
  | cons e rest ih =>
    obtain ⟨k, v⟩ := e
    rw [wireEntries] at h
    obtain ⟨l, hk, h⟩ := exists_of_bind_eq_ok h
    obtain ⟨j, -, h⟩ := exists_of_bind_eq_ok h
    have put : key ∈ (Json.put written l j).map Prod.fst ↔
        key ∈ written.map Prod.fst ∨ key = l := by
      rw [Json.keys_put]
      split
      · next hl =>
        exact ⟨.inl, fun hm => hm.elim id fun heq => heq ▸ hl⟩
      · rw [List.mem_append, List.mem_singleton]
    rw [ih h, put, writtenKeys_cons hk, List.mem_cons, or_assoc]

theorem length_of_wireEntries (h : wireEntries p room [] es = .ok fs) :
    fs.length = (writtenKeys es).toFinset.card := by
  have keys : (fs.map Prod.fst).Nodup :=
    (wellFormed_wireEntries es ⟨by simp, by simp⟩ h).keys
  have same : (fs.map Prod.fst).toFinset = (writtenKeys es).toFinset := by
    ext key
    rw [List.mem_toFinset, List.mem_toFinset, mem_keys_of_wireEntries h]
    simp
  rw [← same, List.toFinset_card_of_nodup keys, List.length_map]

/-- All entries are kept exactly when their keys have different texts. -/
theorem length_eq_iff_of_wireEntries (h : wireEntries p room [] es = .ok fs) :
    fs.length = es.length ↔ (writtenKeys es).Nodup := by
  rw [length_of_wireEntries h, ← length_writtenKeys (exists_keyText_of_wireEntries h)]
  exact Multiset.toFinset_card_eq_card_iff_nodup (m := (writtenKeys es : Multiset String))

end Value

end CredentialWrite
