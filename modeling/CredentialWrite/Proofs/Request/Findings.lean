import CredentialWrite.Proofs.Store.Evolution
import CredentialWrite.Request.Builder

/-!
# Findings

What a call that takes permissions would find in its arguments if it read them all, from left to
right: each finding is a permission or the class of another object, and is known with the iterator
that it is taken from. The call checks the findings up to the first other object.
-/

namespace CredentialWrite.RequestBuilder

abbrev Finding := Except String (Held Permission)

namespace Finding

def otherClass? : Finding → Option String
  | .error className => some className
  | .ok _ => none

def firstOther? (fs : List Finding) : Option String := fs.findSome? otherClass?

def permissions (fs : List Finding) : List (Held Permission) := fs.filterMap Except.toOption

@[simp] theorem firstOther?_nil : firstOther? [] = none := rfl

@[simp] theorem firstOther?_ok (p : Held Permission) (fs : List Finding) :
    firstOther? (.ok p :: fs) = firstOther? fs := rfl

@[simp] theorem firstOther?_error (c : String) (fs : List Finding) :
    firstOther? (.error c :: fs) = some c := rfl

theorem firstOther?_append (fs gs : List Finding) :
    firstOther? (fs ++ gs) = (firstOther? fs).or (firstOther? gs) := List.findSome?_append

@[simp] theorem permissions_nil : permissions [] = [] := rfl

@[simp] theorem permissions_ok (p : Held Permission) (fs : List Finding) :
    permissions (.ok p :: fs) = p :: permissions fs := rfl

@[simp] theorem permissions_error (c : String) (fs : List Finding) :
    permissions (.error c :: fs) = permissions fs := rfl

theorem mem_permissions {p : Held Permission} {fs : List Finding} :
    p ∈ permissions fs ↔ .ok p ∈ fs := by
  induction fs with
  | nil => simp
  | cons f rest ih =>
    rcases f with c | q
    · simpa [permissions, Except.toOption] using ih
    · simp [ih]

theorem permissions_append (fs gs : List Finding) :
    permissions (fs ++ gs) = permissions fs ++ permissions gs := List.filterMap_append

end Finding

def inspect (s : Store) (r : Ref) : Finding :=
  match permission? s r with
  | some p => .ok p
  | none => .error (s.className r)

/-- What is found in reading an object one by one, if that is possible. Texts and octets are not
read, and a delayed iterator gives copies of the items of another. -/
def contents? (s : Store) : Ref → Option (List Finding)
  | .scalar _ => none
  | .address a => match s.cell? a with
    | some (.iterator items) => some (items.map (inspect s))
    | some (.delayed source) => match s.cell? source with
      | some (.iterator items) => some (items.map fun r => .error (copiedClassName s r))
      | _ => some []
    | _ => (s.elements? (.address a)).map fun (items, s) => items.map (inspect s)

/-- What is found in an argument: a permission, an object that cannot be read, or all that it
yields. -/
def findings (s : Store) (r : Ref) : List Finding :=
  match permission? s r with
  | some p => [.ok p]
  | none => (contents? s r).getD [.error (s.className r)]

def source? (s : Store) : Ref → Option Address
  | .scalar _ => none
  | .address a => match s.cell? a with
    | some (.iterator _) => some a
    | some (.delayed source) => match s.cell? source with
      | some (.iterator _) => some source
      | _ => none
    | _ => none

def drain (s : Store) (r : Ref) : Store :=
  match source? s r with
  | some a => s.update a (.iterator [])
  | none => s

/-- All findings in arguments that are read to their ends, each with the iterator that it was taken
from. An iterator that was read before has nothing left. -/
def trail (s : Store) : List Ref → List (Option Address × Finding)
  | [] => []
  | r :: rest => (findings s r).map (source? s r, ·) ++ trail (drain s r) rest

/-- The findings up to the first that is no permission, with that one. -/
def checked : List (Option Address × Finding) → List (Option Address × Finding)
  | [] => []
  | (source, .ok p) :: rest => (source, .ok p) :: checked rest
  | (source, .error c) :: _ => [(source, .error c)]

def drainAll (s : Store) (rs : List Ref) : Store := rs.foldl drain s

theorem drainAll_append (s : Store) (before after : List Ref) :
    drainAll s (before ++ after) = drainAll (drainAll s before) after := List.foldl_append

def takenFrom (a : Address) (found : List (Option Address × Finding)) : Nat :=
  found.countP (·.1 = some a)

section Checked

variable {source : Option Address} {a : Address} {fs gs : List Finding}
  {found : List (Option Address × Finding)} (more : List (Option Address × Finding))

@[simp] theorem checked_ok (p : Held Permission) :
    checked ((source, .ok p) :: found) = (source, .ok p) :: checked found := rfl

@[simp] theorem checked_error (c : String) :
    checked ((source, .error c) :: found) = [(source, .error c)] := rfl

theorem checked_append_of_none (h : Finding.firstOther? (found.map Prod.snd) = none) :
    checked (found ++ more) = found ++ checked more := by
  induction found with
  | nil => rfl
  | cons f rest ih =>
    obtain ⟨source, p | p⟩ := f
    · simp at h
    · rw [List.cons_append, checked_ok, ih (by simpa using h), List.cons_append]

theorem checked_append_of_some {c : String}
    (h : Finding.firstOther? (found.map Prod.snd) = some c) :
    checked (found ++ more) = checked found := by
  induction found with
  | nil => simp at h
  | cons f rest ih =>
    obtain ⟨source, p | p⟩ := f
    · simp
    · rw [List.cons_append, checked_ok, checked_ok, ih (by simpa using h)]

theorem checked_of_none (h : Finding.firstOther? (found.map Prod.snd) = none) :
    checked found = found := by
  simpa [checked] using checked_append_of_none [] h

@[simp] theorem takenFrom_append :
    takenFrom a (found ++ more) = takenFrom a found + takenFrom a more := by
  simp [takenFrom]

theorem isPrefix_checked (found : List (Option Address × Finding)) : checked found <+: found := by
  induction found with
  | nil => exact List.prefix_rfl
  | cons f rest ih =>
    obtain ⟨source, p | p⟩ := f
    · exact ⟨rest, rfl⟩
    · exact List.cons_prefix_cons.mpr ⟨rfl, ih⟩

/-- Findings of one argument all come from where it takes its items. -/
theorem takenFrom_of_source (h : ∀ f ∈ found, f.1 = source) :
    takenFrom a found = if source = some a then found.length else 0 := by
  by_cases hs : source = some a
  · rw [if_pos hs, takenFrom, List.countP_eq_length]
    intro f hf
    simpa [hs] using h f hf
  · rw [if_neg hs, takenFrom, List.countP_eq_zero]
    intro f hf
    simpa [h f hf] using hs

theorem takenFrom_checked_map :
    takenFrom a (checked (fs.map (source, ·))) =
      if source = some a then (checked (fs.map (source, ·))).length else 0 := by
  apply takenFrom_of_source
  intro f hf
  obtain ⟨x, -, rfl⟩ := List.mem_map.mp ((isPrefix_checked _).subset hf)
  rfl

end Checked

end CredentialWrite.RequestBuilder
