import CredentialWrite.Proofs.Request.History

/-!
# When the list of permissions is made

A new builder has no list of permissions. The first accepted call that takes permissions makes it,
and from then on it holds what all accepted calls have added. Such a call makes the list also when
its arguments yield nothing. So a builder can hold an empty list, and it does exactly when every
accepted call that takes permissions has found none.
-/

namespace CredentialWrite.RequestBuilder

theorem Finding.permissions_eq_nil_iff {fs : List Finding} (h : firstOther? fs = none) :
    permissions fs = [] ↔ fs = [] := by
  cases fs with
  | nil => simp
  | cons f rest =>
    rcases f with c | p
    · simp at h
    · simp

namespace Event

def adds (e : Event) : Bool :=
  match e.call, e.accepted with
  | .permission _, true => true
  | .permissions _, true => true
  | _, _ => false

/-- A call whose arguments yield nothing at all: there are none, or all are empty or exhausted. -/
def YieldsNothing (e : Event) : Prop := ∃ rs, e.call = .permissions rs ∧ trail e.store rs = []

theorem permissions_of_adds_eq_false {e : Event} (h : e.adds = false) : e.permissions = [] := by
  obtain ⟨s, call, accepted⟩ := e
  cases call with
  | permission r | permissions rs =>
    cases accepted with
    | true => cases h
    | false => rfl
  | _ => rfl

end Event

/-- The list is there after a call if it was before, or if the call is accepted and takes
permissions. -/
theorem isSome_permissions_perform (b : RequestBuilder) (s : Store) (call : Call) :
    (b.perform s call).builder.permissions.isSome =
      (b.permissions.isSome || (b.event s call).adds) := by
  cases call with
  | overwrite flag => exact (Bool.or_false _).symm
  | name r =>
    cases hn : b.setName s r with
    | error e => simp [event, perform, hn, Event.adds]
    | ok b' =>
      obtain ⟨n, -, -, rfl⟩ := setName_ok hn
      simp [event, perform, hn, Event.adds]
  | value r =>
    cases hv : b.setValue s r with
    | error e => simp [event, perform, hv, Event.adds]
    | ok b' =>
      obtain ⟨rfl, -⟩ := setValue_ok hv
      simp [event, perform, hv, Event.adds]
  | permission r =>
    cases hp : permission? s r <;>
      simp [event, perform, hp, Event.adds, addPermissions, Except.isOk, Except.toBool]
  | permissions rs =>
    cases ho : outcome ((trail s rs).map Prod.snd) <;>
      simp [event, perform_permissions, ho, Event.adds, addPermissions, Except.isOk, Except.toBool]
  | build => simp [builder_perform_build, event, Event.adds]

/-- An accepted call that takes permissions adds none only if its arguments yield nothing. -/
theorem permissions_event_eq_nil_iff {b : RequestBuilder} {s : Store} {call : Call}
    (h : (b.event s call).adds = true) :
    (b.event s call).permissions = [] ↔ (b.event s call).YieldsNothing := by
  cases call with
  | permission r =>
    cases hp : permission? s r <;>
      simp_all [event, perform, Event.adds, Event.permissions, Event.YieldsNothing, Except.isOk,
        Except.toBool]
  | permissions rs =>
    simp only [event, perform_permissions, Event.adds] at h
    simp only [event, perform_permissions, Event.permissions, Event.YieldsNothing]
    cases ho : outcome ((trail s rs).map Prod.snd) with
    | error e => simp [ho, Except.isOk, Except.toBool] at h
    | ok held =>
      obtain ⟨hf, -⟩ := outcome_eq_ok ho
      simp only [Except.isOk, Except.toBool, Finding.permissions_eq_nil_iff hf, List.map_eq_nil_iff]
      simp
  | _ => cases h

/-- The list is made late enough: it is there only with the permissions that were added. -/
structure MadeLazily (b : RequestBuilder) (es : List Event) : Prop where
  absent : b.permissions = none ↔ granted es = []
  present : ∀ ps, b.permissions = some ps → ps ≠ [] ∧ ps = granted es

namespace History

variable {kind : CredentialKind} {es : List Event} {b : RequestBuilder} {s : Store}

theorem isSome_permissions (h : History kind es b s) :
    b.permissions.isSome = es.any Event.adds := by
  induction h with
  | new s => rfl
  | call h call ih => simp [isSome_permissions_perform, ih]
  | meanwhile h k ih => exact ih

theorem permissions_eq_none_iff (h : History kind es b s) :
    b.permissions = none ↔ ∀ e ∈ es, e.adds = false := by
  rw [← Option.not_isSome_iff_eq_none, h.isSome_permissions, List.any_eq_true]
  simp

theorem permissions_eq_nil_iff (h : History kind es b s) :
    ∀ e ∈ es, e.adds = true → (e.permissions = [] ↔ e.YieldsNothing) := by
  induction h with
  | new s => simp
  | call h call ih =>
    intro e he
    rcases List.mem_append.mp he with he | he
    · exact ih e he
    · obtain rfl := List.mem_singleton.mp he
      exact permissions_event_eq_nil_iff
  | meanwhile h k ih => exact ih

theorem granted_eq_nil_iff (h : History kind es b s) :
    granted es = [] ↔ ∀ e ∈ es, e.adds = true → e.YieldsNothing := by
  rw [granted, List.flatMap_eq_nil_iff]
  refine forall₂_congr fun e he => ?_
  cases ha : e.adds with
  | false => simp [Event.permissions_of_adds_eq_false ha]
  | true => simpa using h.permissions_eq_nil_iff e he ha

theorem eq_granted (h : History kind es b s) {ps : List (Held Permission)}
    (hp : b.permissions = some ps) : ps = granted es := by
  rw [← h.tells.permissions, hp, Option.getD_some]

theorem madeLazily_iff (h : History kind es b s) :
    b.MadeLazily es ↔ (granted es = [] → b.permissions = none) := by
  constructor
  · exact fun lazy => lazy.absent.mpr
  · intro late
    refine ⟨⟨fun hn => ?_, late⟩, fun ps hp => ⟨?_, h.eq_granted hp⟩⟩
    · rw [← h.tells.permissions, hn, Option.getD_none]
    · rintro rfl
      rw [late (h.eq_granted hp).symm] at hp
      cases hp

end History

/-- The list of permissions is made by the first accepted call that takes permissions, and holds
what all such calls have added. So it is made without a permission exactly when there are such
calls and the arguments of all of them yield nothing. -/
theorem list_made_by_first_accepted_call {kind : CredentialKind} {es : List Event}
    {b : RequestBuilder} {s : Store} (h : History kind es b s) :
    (b.permissions = none ↔ ∀ e ∈ es, e.adds = false) ∧
    (∀ ps, b.permissions = some ps → ps = granted es) ∧
    (¬ b.MadeLazily es ↔
      (∃ e ∈ es, e.adds = true) ∧ ∀ e ∈ es, e.adds = true → e.YieldsNothing) := by
  refine ⟨h.permissions_eq_none_iff, fun ps hp => h.eq_granted hp, ?_⟩
  rw [h.madeLazily_iff, h.granted_eq_nil_iff, h.permissions_eq_none_iff, Classical.not_imp,
    and_comm]
  simp

/-- Two calls are accepted and find nothing, the second because a refused call between them has
taken what the iterator had. Only then is a permission added. -/
theorem list_made_by_calls_that_find_nothing :
    let early := (new .value).play grantingStore
      [.permissions [], .permissions [.address 3], .permissions [.address 3]]
    let late := early.2.1.play early.2.2 [.permission (.address 2)]
    early.2.1.permissions = some [] ∧ ¬ early.2.1.MadeLazily early.1 ∧
      late.2.1.permissions = some (granted (early.1 ++ late.1)) ∧
      late.2.1.MadeLazily (early.1 ++ late.1) := by
  intro early late
  have begun : History .value early.1 early.2.1 early.2.2 :=
    history_play .value grantingStore _
  have grown : History .value (early.1 ++ late.1) late.2.1 late.2.2 := begun.play _
  obtain ⟨-, -, hollow⟩ := list_made_by_first_accepted_call begun
  obtain ⟨-, held, filled⟩ := list_made_by_first_accepted_call grown
  refine ⟨rfl, hollow.mpr ⟨⟨_, .head _, rfl⟩, ?_⟩, congrArg some (held _ rfl), ?_⟩
  · intro e he ha
    simp only [early, play, List.mem_cons, List.not_mem_nil, or_false] at he
    rcases he with rfl | rfl | rfl
    · exact ⟨[], rfl, rfl⟩
    · cases ha
    · exact ⟨[.address 3], rfl, rfl⟩
  · refine Classical.byContradiction fun unfilled => ?_
    obtain ⟨-, none⟩ := filled.mp unfilled
    obtain ⟨rs, hr, -⟩ := none (early.2.1.event early.2.2 (.permission (.address 2)))
      (List.mem_append_right _ (.head _)) rfl
    cases hr

/-- A call without arguments gives a new builder an empty list, though no permission was added. -/
theorem empty_list_made_without_permission :
    let called := (new .value).play .empty [.permissions []]
    History .value called.1 called.2.1 called.2.2 ∧ granted called.1 = [] ∧
      called.2.1.permissions = some [] ∧ ¬ called.2.1.MadeLazily called.1 :=
  ⟨history_play .value .empty _, rfl, rfl, fun lazy => nomatch lazy.absent.mpr rfl⟩

end CredentialWrite.RequestBuilder
