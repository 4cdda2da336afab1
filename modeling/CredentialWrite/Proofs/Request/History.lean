import CredentialWrite.Proofs.Outcome
import CredentialWrite.Proofs.Request.Coherence
import CredentialWrite.Proofs.Request.Refusal
import CredentialWrite.Session.Lookup

/-!
# Histories of builders

A history lists the calls that a new builder was given, each with the store that it found and
whether it was accepted; between two calls anything else may happen to the store. What a builder
builds is told by its history alone: the last accepted name and value, the last flag, and all
permissions of all accepted calls in their order.
-/

namespace CredentialWrite.RequestBuilder

structure Event where
  store : Store
  call : Call
  accepted : Bool

namespace Event

def name? (e : Event) : Option Ref :=
  match e.call, e.accepted with
  | .name n, true => some n
  | _, _ => none

def overwrite? (e : Event) : Option Bool :=
  match e.call, e.accepted with
  | .overwrite flag, true => some (e.store.isTrue flag)
  | _, _ => none

def value? (e : Event) : Option Ref :=
  match e.call, e.accepted with
  | .value v, true => some v
  | _, _ => none

/-- The permissions of an accepted call, in the order in which its arguments yield them. -/
def permissions (e : Event) : List (Held Permission) :=
  match e.call, e.accepted with
  | .permission r, true => (permission? e.store r).toList
  | .permissions rs, true => Finding.permissions ((trail e.store rs).map Prod.snd)
  | _, _ => []

end Event

def lastName (es : List Event) : Option Ref := (es.filterMap Event.name?).getLast?

def lastOverwrite (es : List Event) : Bool := (es.filterMap Event.overwrite?).getLast?.getD false

def lastValue (es : List Event) : Option Ref := (es.filterMap Event.value?).getLast?

def granted (es : List Event) : List (Held Permission) := es.flatMap Event.permissions

def event (b : RequestBuilder) (s : Store) (call : Call) : Event :=
  ⟨s, call, (b.perform s call).result.isOk⟩

inductive History (kind : CredentialKind) : List Event → RequestBuilder → Store → Prop
  | new (s : Store) : History kind [] (.new kind) s
  | call {es : List Event} {b : RequestBuilder} {s : Store} (h : History kind es b s)
      (call : Call) :
      History kind (es ++ [b.event s call]) (b.perform s call).builder (b.perform s call).store
  | meanwhile {es : List Event} {b : RequestBuilder} {s t : Store} (h : History kind es b s)
      (k : s.Evolves t) : History kind es b t

structure Sets (b : RequestBuilder) (e : Event) (b' : RequestBuilder) : Prop where
  kind : b'.kind = b.kind
  name : b'.name.map Held.ref = e.name?.or (b.name.map Held.ref)
  overwrite : b'.overwrite = e.overwrite?.getD b.overwrite
  value : b'.value = e.value?.or b.value
  permissions : b'.permissions.getD [] = b.permissions.getD [] ++ e.permissions

theorem perform_sets (b : RequestBuilder) (s : Store) (call : Call) :
    Sets b (b.event s call) (b.perform s call).builder := by
  have refused {e : Event} (hn : e.name? = none) (ho : e.overwrite? = none)
      (hv : e.value? = none) (hp : e.permissions = []) : Sets b e b :=
    ⟨rfl, by rw [hn, Option.none_or], by rw [ho, Option.getD_none], by rw [hv, Option.none_or],
      by rw [hp, List.append_nil]⟩
  cases call with
  | overwrite flag => exact ⟨rfl, rfl, rfl, rfl, (List.append_nil _).symm⟩
  | name r =>
    cases hn : b.setName s r with
    | error e =>
      simp only [event, perform, hn]
      exact refused rfl rfl rfl rfl
    | ok b' =>
      obtain ⟨n, rfl, -, rfl⟩ := setName_ok hn
      simp only [event, perform, hn]
      exact ⟨rfl, rfl, rfl, rfl, (List.append_nil _).symm⟩
  | value r =>
    cases hv : b.setValue s r with
    | error e =>
      simp only [event, perform, hv]
      exact refused rfl rfl rfl rfl
    | ok b' =>
      obtain ⟨rfl, -⟩ := setValue_ok hv
      simp only [event, perform, hv]
      exact ⟨rfl, rfl, rfl, rfl, (List.append_nil _).symm⟩
  | permission r =>
    cases hp : permission? s r with
    | none =>
      simp only [event, perform, hp]
      exact refused rfl rfl rfl rfl
    | some p =>
      simp only [event, perform, hp]
      exact ⟨rfl, rfl, rfl, rfl, by simp [addPermissions, Event.permissions, Except.isOk,
        Except.toBool, hp]⟩
  | permissions rs =>
    simp only [event, perform_permissions]
    cases ho : outcome ((trail s rs).map Prod.snd) with
    | error e => exact refused rfl rfl rfl rfl
    | ok held =>
      obtain ⟨-, rfl⟩ := outcome_eq_ok ho
      exact ⟨rfl, rfl, rfl, rfl, rfl⟩
  | build =>
    have hb : (b.perform s .build).builder = b := by
      simp only [perform]
      rcases b.build s with ⟨e | held, t⟩ <;> rfl
    rw [hb]
    exact refused rfl rfl rfl rfl

structure Tells (kind : CredentialKind) (es : List Event) (b : RequestBuilder) : Prop where
  kind : b.kind = kind
  name : b.name.map Held.ref = lastName es
  overwrite : b.overwrite = lastOverwrite es
  value : b.value = lastValue es
  permissions : b.permissions.getD [] = granted es

theorem Tells.sets {kind : CredentialKind} {es : List Event} {e : Event} {b b' : RequestBuilder}
    (h : Tells kind es b) (hs : Sets b e b') : Tells kind (es ++ [e]) b' := by
  constructor
  · rw [hs.kind, h.kind]
  · rw [hs.name, h.name, lastName, lastName, getLast?_filterMap_append]
  · rw [hs.overwrite, h.overwrite, lastOverwrite, lastOverwrite, getLast?_filterMap_append]
    cases e.overwrite? <;> rfl
  · rw [hs.value, h.value, lastValue, lastValue, getLast?_filterMap_append]
  · rw [hs.permissions, h.permissions, granted, granted, List.flatMap_append,
      List.flatMap_singleton]

theorem build_nameUnset {b : RequestBuilder} (hn : b.name = none) (s : Store) :
    b.build s = (.error (.request .nameUnset), s) := by
  simp [build, hn]

theorem build_valueUnset {b : RequestBuilder} {n : Held CredentialName} (hn : b.name = some n)
    (hv : b.value = none) (s : Store) : b.build s = (.error (.request .valueUnset), s) := by
  simp [build, hn, hv]

theorem store_perform_build (b : RequestBuilder) (s : Store) :
    (b.perform s .build).store = (b.build s).2 := by
  simp only [perform]
  rcases b.build s with ⟨e | r, t⟩ <;> rfl

theorem result_perform_build (b : RequestBuilder) (s : Store) :
    (b.perform s .build).result = (b.build s).1.map some := by
  simp only [perform]
  rcases b.build s with ⟨e | r, t⟩ <;> rfl

/-- Only building gives a request, and only with a name and a value. -/
theorem eq_build_of_perform_ok {b : RequestBuilder} {s : Store} {call : Call}
    {r : Held StoredRequest} (h : (b.perform s call).result = .ok (some r)) :
    call = .build ∧ ∃ n v, b.name = some n ∧ b.value = some v := by
  cases call with
  | build =>
    rw [result_perform_build] at h
    cases hn : b.name with
    | none =>
      rw [build_nameUnset hn] at h
      cases h
    | some n =>
      cases hv : b.value with
      | none =>
        rw [build_valueUnset hn hv] at h
        cases h
      | some v => exact ⟨rfl, n, v, rfl, rfl⟩
  | overwrite flag => cases h
  | name _ | value _ | permission _ | permissions _ =>
    simp only [RequestBuilder.perform] at h
    split at h <;> cases h

theorem builder_perform_build (b : RequestBuilder) (s : Store) :
    (b.perform s .build).builder = b := by
  simp only [perform]
  rcases b.build s with ⟨e | r, t⟩ <;> rfl

theorem Coherent.extends_build {b : RequestBuilder} {s : Store} (h : Coherent b s) :
    s.Extends (b.build s).2 := by
  cases hn : b.name with
  | none =>
    rw [build_nameUnset hn]
    exact .refl s
  | some n =>
    cases hv : b.value with
    | none =>
      rw [build_valueUnset hn hv]
      exact .refl s
    | some v =>
      obtain ⟨r, t, hb, -, ht, -⟩ := h.build hn hv
      rw [hb]
      exact ht

theorem Coherent.perform {b : RequestBuilder} {s : Store} (h : Coherent b s) (call : Call) :
    Coherent (b.perform s call).builder (b.perform s call).store := by
  by_cases hc : call = .build
  · subst hc
    rw [builder_perform_build, store_perform_build]
    exact h.evolves h.extends_build.evolves
  · exact h.perform_setter hc

/-- Every call is a step in the life of the store. -/
theorem Coherent.evolves_perform {b : RequestBuilder} {s : Store} (h : Coherent b s)
    (call : Call) : s.Evolves (b.perform s call).store := by
  cases call with
  | overwrite flag => exact .refl s
  | name r =>
    simp only [RequestBuilder.perform]
    split <;> exact .refl s
  | value r =>
    simp only [RequestBuilder.perform]
    split <;> exact .refl s
  | permission r =>
    simp only [RequestBuilder.perform]
    split <;> exact .refl s
  | permissions rs =>
    rw [store_perform_permissions]
    exact evolves_readArguments s rs
  | build =>
    rw [store_perform_build]
    exact h.extends_build.evolves

namespace History

variable {kind : CredentialKind} {es : List Event} {b : RequestBuilder} {s : Store}

theorem coherent (h : History kind es b s) : Coherent b s := by
  induction h with
  | new s => exact .new kind s
  | call h c ih => exact ih.perform c
  | meanwhile h k ih => exact ih.evolves k

theorem tells (h : History kind es b s) : Tells kind es b := by
  induction h with
  | new s => exact ⟨rfl, rfl, rfl, rfl, rfl⟩
  | call h c ih => exact ih.sets (perform_sets _ _ c)
  | meanwhile h k ih => exact ih

end History

structure Shows (s : Store) (r : Ref) (kind : CredentialKind) (es : List Event) (n v : Ref) :
    Prop where
  name : s.part r "credential_name" = .ok n
  overwrite : s.part r "overwrite" = .ok (.bool (lastOverwrite es))
  kind : s.part r "value_type" = .ok (.scalar (.member (.kind kind)))
  value : s.part r "value" = .ok v
  permissions : ∃ a, s.part r "additional_permissions" = .ok (.address a) ∧
    s.cell? a = some (.sequence .tuple ((granted es).map Held.ref))

theorem part_of_lookup {s : Store} {a : Address} {c : Cell} (hc : s.cell? a = some c)
    {name : String} {x : Ref} (h : (c.properties ++ c.fields?.getD []).lookup name = some x) :
    s.part (.address a) name = .ok x := by
  simp only [Store.part, Store.cellOf?, hc, h]

theorem Stands.shows {s : Store} {r : Held StoredRequest} (h : Stands s r)
    {kind : CredentialKind} {es : List Event} {b : RequestBuilder} {n : Held CredentialName}
    {v : Ref} (ht : Tells kind es b) (hr : r.content = b.request n v) :
    Shows s r.ref kind es n.ref v := by
  obtain ⟨listed, hc, hp⟩ := h
  rw [hr] at hc hp
  rw [← ht.kind]
  constructor
  · exact part_of_lookup hc rfl
  · rw [← ht.overwrite]
    exact part_of_lookup hc rfl
  · exact part_of_lookup hc rfl
  · exact part_of_lookup hc rfl
  · rw [← ht.permissions]
    exact ⟨listed, part_of_lookup hc rfl, hp⟩

/-- A builder refuses to build exactly while no name or no value was accepted, the name first.
Otherwise it builds what its history tells, whatever was called, refused or built before. -/
theorem build_tells_history {kind : CredentialKind} {es : List Event} {b : RequestBuilder}
    {s : Store} (h : History kind es b s) :
    let after := b.perform s .build
    match lastName es, lastValue es with
    | none, _ => after.result = .error (.request .nameUnset)
    | some _, none => after.result = .error (.request .valueUnset)
    | some n, some v => ∃ r, after.result = .ok (some r) ∧ Shows after.store r.ref kind es n v := by
  have ht := h.tells
  rw [← ht.name, ← ht.value]
  simp only [result_perform_build, store_perform_build]
  cases hn : b.name with
  | none =>
    simp only [Option.map_none, build_nameUnset hn]
    rfl
  | some n =>
    cases hv : b.value with
    | none =>
      simp only [Option.map_some, build_valueUnset hn hv]
      rfl
    | some v =>
      obtain ⟨r, t, hb, hr, -, hs⟩ := h.coherent.build hn hv
      simp only [Option.map_some, hb]
      exact ⟨r, rfl, hs.shows ht hr⟩

/-- The calls of a list in turn, with the events that they are. -/
def play (b : RequestBuilder) (s : Store) : List Call → List Event × RequestBuilder × Store
  | [] => ([], b, s)
  | call :: rest =>
    let (es, last) := (b.perform s call).builder.play (b.perform s call).store rest
    (b.event s call :: es, last)

theorem History.play {kind : CredentialKind} {es : List Event} {b : RequestBuilder} {s : Store}
    (h : History kind es b s) (calls : List Call) :
    History kind (es ++ (b.play s calls).1) (b.play s calls).2.1 (b.play s calls).2.2 := by
  induction calls generalizing es b s with
  | nil => simpa [RequestBuilder.play] using h
  | cons call rest ih =>
    have hrest := ih (h.call call)
    rw [List.append_assoc, List.singleton_append] at hrest
    exact hrest

theorem history_play (kind : CredentialKind) (s : Store) (calls : List Call) :
    History kind ((new kind).play s calls).1 ((new kind).play s calls).2.1
      ((new kind).play s calls).2.2 :=
  (History.new s).play calls

def plainName : CredentialName := ⟨.plain, "/a", by decide⟩

/-- A permission, an iterator over it and a text, a list of it twice, and a name. -/
def grantingStore : Store :=
  ⟨#[.actor readPermission.actor, .sequence .tuple [.scalar (.member (.operation .read))],
    .permission readPermission 0 1, .iterator [.address 2, .text "read"],
    .sequence .list [.address 2, .address 2], .name plainName]⟩

/-- The fourth call is refused and takes all items of the iterator, so the fifth one is not. -/
def grantingCalls : List Call :=
  [.name (.address 5), .value (.text "old"), .overwrite (.text ""), .permissions [.address 3],
    .permissions [.address 4, .address 3], .value (.text "new"), .build, .permission (.address 2)]

theorem build_after_refused_call :
    let run := (new .value).play grantingStore grantingCalls
    ∃ r, (run.2.1.perform run.2.2 .build).result = .ok (some r) ∧
      Shows (run.2.1.perform run.2.2 .build).store r.ref .value run.1 (.address 5) (.text "new") ∧
      (granted run.1).map Held.ref = [.address 2, .address 2, .address 2] := by
  obtain ⟨r, hr, hs⟩ := build_tells_history (history_play .value grantingStore grantingCalls)
  exact ⟨r, hr, hs, rfl⟩

end CredentialWrite.RequestBuilder
