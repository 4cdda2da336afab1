import Mathlib.Data.List.Forall2

/-!
# Steps and events in a row

Steps that may fail succeed in a row exactly when each of them does, and fewer of them with fewer
results. Of events in a row the last one that tells something decides.
-/

namespace CredentialWrite

variable {ε α β : Type}

theorem exists_of_bind_eq_ok {x : Except ε α} {f : α → Except ε β} {b : β}
    (h : (x >>= f) = .ok b) : ∃ a, x = .ok a ∧ f a = .ok b := by
  cases x with
  | error e => cases h
  | ok a => exact ⟨a, rfl, h⟩

theorem exists_of_map_eq_ok {x : Except ε α} {f : α → β} {b : β}
    (h : x.map f = .ok b) : ∃ a, x = .ok a ∧ f a = b := by
  cases x with
  | error e => cases h
  | ok a => exact ⟨a, rfl, Except.ok.inj h⟩

theorem of_mapError_eq_ok {ε' : Type} {x : Except ε α} {f : ε → ε'} {a : α}
    (h : x.mapError f = .ok a) : x = .ok a := by
  cases x with
  | error e => cases h
  | ok b => exact congrArg Except.ok (Except.ok.inj h)

/-- What is refused in one case goes on in the other. -/
theorem of_throw_eq_ok {refused : Prop} [Decidable refused] {e : ε} {next : Unit → Except ε β}
    {b : β} (h : (if refused then throw e >>= next else next ()) = .ok b) :
    ¬ refused ∧ next () = .ok b := by
  split at h
  · cases h
  · next go => exact ⟨go, h⟩

theorem getLast?_filterMap_append (f : α → Option β) (xs : List α) (x : α) :
    ((xs ++ [x]).filterMap f).getLast? = (f x).or (xs.filterMap f).getLast? := by
  rw [List.filterMap_append, List.getLast?_append]
  cases hx : f x <;> simp [hx]

theorem forall₂_of_mapM_eq_ok {f : α → Except ε β} {xs : List α} {ys : List β}
    (h : xs.mapM f = .ok ys) : List.Forall₂ (fun x y => f x = .ok y) xs ys := by
  induction xs generalizing ys with
  | nil =>
    cases h
    exact .nil
  | cons x rest ih =>
    rw [List.mapM_cons] at h
    obtain ⟨y, hy, h⟩ := exists_of_bind_eq_ok h
    obtain ⟨ys', hr, h⟩ := exists_of_bind_eq_ok h
    cases h
    exact .cons hy (ih hr)

/-- What every result of a step has. -/
theorem forall_of_mapM_eq_ok {f : α → Except ε β} {p : β → Prop} {xs : List α} {ys : List β}
    (hp : ∀ x y, f x = .ok y → p y) (h : xs.mapM f = .ok ys) : ∀ y ∈ ys, p y := by
  have steps := forall₂_of_mapM_eq_ok h
  clear h
  induction steps with
  | nil => exact List.forall_mem_nil _
  | cons hxy _ ih => exact List.forall_mem_cons.mpr ⟨hp _ _ hxy, ih⟩

theorem map_eq_map_of_forall₂ {γ : Type} {f : α → γ} {g : β → γ} {xs : List α} {ys : List β}
    (h : List.Forall₂ (fun x y => g y = f x) xs ys) : ys.map g = xs.map f := by
  induction h with
  | nil => rfl
  | cons hxy _ ih => rw [List.map_cons, List.map_cons, hxy, ih]

/-- Steps on some of the items succeed with some of the results. -/
theorem sublist_of_forall₂ {f : α → Except ε β} {xs xs' : List α} {ys ys' : List β}
    (hx : xs.Sublist xs') (h : List.Forall₂ (fun x y => f x = .ok y) xs ys)
    (h' : List.Forall₂ (fun x y => f x = .ok y) xs' ys') : ys.Sublist ys' := by
  induction hx generalizing ys ys' with
  | slnil =>
    cases h
    exact List.nil_sublist ys'
  | cons x _ ih =>
    cases h' with
    | cons _ hs' => exact (ih h hs').cons _
  | cons_cons x _ ih =>
    cases h with
    | cons hy hs =>
      cases h' with
      | cons hy' hs' =>
        obtain rfl := Except.ok.inj (hy.symm.trans hy')
        exact (ih hs hs').cons_cons _

end CredentialWrite
