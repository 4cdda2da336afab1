import CredentialWrite.Proofs.Request.Findings

/-!
# Reading permissions

A call takes all the permissions that it finds if there is nothing else, and is refused for the
first other object. From an iterator exactly the findings that were checked are gone, and nothing
else in the store changes.
-/

namespace CredentialWrite.RequestBuilder

variable {s : Store} {r : Ref}

theorem takePermissions_none {items : List Ref} {ps : List (Held Permission)}
    (h : takePermissions s items = (ps, none)) :
    Finding.firstOther? (items.map (inspect s)) = none ∧
      Finding.permissions (items.map (inspect s)) = ps := by
  induction items generalizing ps with
  | nil => simp_all [takePermissions]
  | cons x rest ih =>
    cases hx : permission? s x with
    | none => simp [takePermissions, hx] at h
    | some p =>
      simp only [takePermissions, hx, Prod.mk.injEq] at h
      obtain ⟨rfl, h⟩ := h
      obtain ⟨ho, hp⟩ := ih (Prod.ext rfl h)
      have hi : inspect s x = .ok p := by simp [inspect, hx]
      rw [List.map_cons, hi, Finding.firstOther?_ok, Finding.permissions_ok, hp]
      exact ⟨ho, rfl⟩

theorem takePermissions_some {items rest : List Ref} {ps : List (Held Permission)} {other : Ref}
    (h : takePermissions s items = (ps, some (other, rest))) (source : Option Address) :
    Finding.firstOther? (items.map (inspect s)) = some (s.className other) ∧
      rest = items.drop (checked (items.map fun x => (source, inspect s x))).length := by
  induction items generalizing ps with
  | nil => simp [takePermissions] at h
  | cons x items ih =>
    cases hx : permission? s x with
    | none =>
      simp only [takePermissions, hx, Prod.mk.injEq, Option.some.injEq] at h
      obtain ⟨-, rfl, rfl⟩ := h
      simp [inspect, hx]
    | some p =>
      simp only [takePermissions, hx, Prod.mk.injEq] at h
      obtain ⟨ho, hr⟩ := ih (Prod.ext rfl h.2)
      have hi : inspect s x = .ok p := by simp [inspect, hx]
      rw [List.map_cons, List.map_cons, hi, Finding.firstOther?_ok, checked_ok, List.length_cons,
        List.drop_succ_cons]
      exact ⟨ho, hr⟩

/-- The pairs of a record's fields are no permissions. -/
theorem inspect_newPairs {fields : List (String × Ref)} {items : List Ref} {t : Store} {x : Ref}
    (h : s.newPairs fields = (items, t)) (hx : x ∈ items) : inspect t x = .error "tuple" := by
  obtain ⟨pair, hc⟩ := Store.cellOf?_newPairs (show x ∈ (s.newPairs fields).1 by rw [h]; exact hx)
  rw [h] at hc
  obtain ⟨b, rfl, hb⟩ := Store.exists_of_cellOf? hc
  simp [inspect, permission?, Store.cellOf?, Store.className, hb, Cell.className]

/-- Where reading finds permissions alone, it has made nothing. -/
theorem elements?_of_permissions {t : Store} {a : Address} {items : List Ref}
    (hi : ∀ rest, s.cell? a ≠ some (.iterator rest))
    (h : s.elements? (.address a) = some (items, t))
    (hn : Finding.firstOther? (items.map (inspect t)) = none) : t = s := by
  rcases Store.elements?_eq_some hi h with rfl | ⟨_, fields, -, -, hf, hp⟩
  · rfl
  · cases items with
    | nil => exact absurd (congrArg Prod.fst hp) (Store.newPairs_ne_nil hf)
    | cons x rest =>
      rw [List.map_cons, inspect_newPairs hp List.mem_cons_self] at hn
      cases hn

def outcome (fs : List Finding) : Except RequestFault (List (Held Permission)) :=
  match Finding.firstOther? fs with
  | some c => .error (.wrongPermission c)
  | none => .ok (Finding.permissions fs)

/-- How a call reads: it gives the outcome of all findings, keeps every object but for the items
that it checked, and comes to the end of its arguments if nothing stops it. -/
structure Reads (s : Store) (found : List (Option Address × Finding)) (drained : Store)
    (read : Except RequestFault (List (Held Permission)) × Store) : Prop where
  outcome : read.1 = outcome (found.map Prod.snd)
  cell : ∀ a c, s.cell? a = some c →
    read.2.cell? a = some (c.dropItems (takenFrom a (checked found)))
  drained : Finding.firstOther? (found.map Prod.snd) = none → read.2 = drained

theorem cell?_update_iterator {a b : Address} {c : Cell} {items : List Ref} (n : Nat)
    (ha : s.cell? a = some (.iterator items)) (hb : s.cell? b = some c) :
    (s.update a (.iterator (items.drop n))).cell? b =
      some (c.dropItems (if a = b then n else 0)) := by
  by_cases hab : a = b
  · subst hab
    obtain rfl : Cell.iterator items = c := Option.some.inj (ha.symm.trans hb)
    rw [Store.cell?_update_self (Store.lt_size_of_cell? ha), if_pos rfl, Cell.dropItems]
  · rw [Store.cell?_update_of_ne hab, hb, if_neg hab, Cell.dropItems_zero]

theorem reads_iterator {a : Address} {items : List Ref} (ha : s.cell? a = some (.iterator items)) :
    Reads s ((findings s (.address a)).map (some a, ·)) (s.update a (.iterator []))
      (readArgument s (.address a)) := by
  have hp : permission? s (.address a) = none := by simp [permission?, Store.cellOf?, ha]
  have hf : findings s (.address a) = items.map (inspect s) := by
    simp [findings, hp, contents?, ha]
  rw [hf]
  cases ht : takePermissions s items with
  | mk ps stop =>
    cases stop with
    | none =>
      have hr : readArgument s (.address a) = (.ok ps, s.update a (.iterator [])) := by
        simp only [readArgument, hp, Store.cellOf?, ha, ht]
      obtain ⟨ho, hps⟩ := takePermissions_none ht
      rw [hr]
      refine ⟨?_, ?_, fun _ => rfl⟩
      · simp [outcome, Function.comp_def, ho, hps]
      · intro b c hb
        have hc : checked ((items.map (inspect s)).map (some a, ·)) =
            (items.map (inspect s)).map (some a, ·) :=
          checked_of_none (by simpa [Function.comp_def] using ho)
        have hu := cell?_update_iterator items.length ha hb
        rw [List.drop_length] at hu
        rw [takenFrom_checked_map, hc]
        simpa using hu
    | some stop =>
      obtain ⟨other, rest⟩ := stop
      have hr : readArgument s (.address a) =
          (.error (.wrongPermission (s.className other)), s.update a (.iterator rest)) := by
        simp only [readArgument, hp, Store.cellOf?, ha, ht]
      obtain ⟨ho, hrest⟩ := takePermissions_some ht (some a)
      rw [hr]
      refine ⟨?_, ?_, ?_⟩
      · simp [outcome, Function.comp_def, ho]
      · intro b c hb
        have hu := cell?_update_iterator
          (checked (items.map fun x => (some a, inspect s x))).length ha hb
        rw [← hrest] at hu
        rw [takenFrom_checked_map]
        simpa [Function.comp_def] using hu
      · intro hn
        simp [Function.comp_def, ho] at hn

theorem reads_delayed {a source : Address} {items : List Ref}
    (ha : s.cell? a = some (.delayed source)) (hs : s.cell? source = some (.iterator items)) :
    Reads s ((findings s (.address a)).map (some source, ·)) (s.update source (.iterator []))
      (readArgument s (.address a)) := by
  have hp : permission? s (.address a) = none := by simp [permission?, Store.cellOf?, ha]
  have hf : findings s (.address a) = items.map fun x => .error (copiedClassName s x) := by
    simp [findings, hp, contents?, ha, hs]
  rw [hf]
  cases items with
  | nil =>
    have hr : readArgument s (.address a) = (.ok [], s) := by
      simp only [readArgument, hp, Store.cellOf?, ha, hs]
    rw [hr]
    refine ⟨rfl, ?_, fun _ => (Store.update_of_cell? hs).symm⟩
    intro b c hb
    simpa [checked, takenFrom] using hb
  | cons x rest =>
    have hr : readArgument s (.address a) =
        (.error (.wrongPermission (copiedClassName s x)), s.update source (.iterator rest)) := by
      simp only [readArgument, hp, Store.cellOf?, ha, hs]
    rw [hr]
    refine ⟨rfl, ?_, by simp⟩
    intro b c hb
    have hu := cell?_update_iterator 1 hs hb
    rw [takenFrom_checked_map]
    simpa using hu

theorem reads_unsourced {fs : List Finding}
    {read : Except RequestFault (List (Held Permission)) × Store} (ho : read.1 = outcome fs)
    (hx : s.Extends read.2) (hd : Finding.firstOther? fs = none → read.2 = s) :
    Reads s (fs.map (none, ·)) s read := by
  refine ⟨by simpa [Function.comp_def] using ho, ?_, by simpa [Function.comp_def] using hd⟩
  intro a c hc
  rw [takenFrom_checked_map, if_neg (by simp), Cell.dropItems_zero]
  exact hx a c hc

theorem reads_elements {a : Address} {items : List Ref} {t : Store}
    (hi : ∀ rest, s.cell? a ≠ some (.iterator rest))
    (he : s.elements? (.address a) = some (items, t))
    (hf : findings s (.address a) = items.map (inspect t))
    (taken : ∀ ps, takePermissions t items = (ps, none) →
      readArgument s (.address a) = (.ok ps, t))
    (stopped : ∀ ps other rest, takePermissions t items = (ps, some (other, rest)) →
      readArgument s (.address a) = (.error (.wrongPermission (t.className other)), t)) :
    Reads s ((findings s (.address a)).map (none, ·)) s (readArgument s (.address a)) := by
  have hx : s.Extends t := Store.extends_elements? hi he
  rw [hf]
  cases ht : takePermissions t items with
  | mk ps stop =>
    cases stop with
    | none =>
      obtain ⟨ho, hps⟩ := takePermissions_none ht
      rw [taken ps ht]
      exact reads_unsourced (by simp [outcome, ho, hps]) hx (elements?_of_permissions hi he)
    | some stop =>
      obtain ⟨ho, -⟩ := takePermissions_some ht none
      rw [stopped _ _ _ ht]
      exact reads_unsourced (by simp [outcome, ho]) hx (by simp [ho])

/-- An argument that takes its items from no iterator. -/
theorem reads_other {r : Ref} (h : source? s r = none) :
    Reads s ((findings s r).map (none, ·)) s (readArgument s r) := by
  cases hp : permission? s r with
  | some p =>
    have hf : findings s r = [.ok p] := by simp [findings, hp]
    have hr : readArgument s r = (.ok [p], s) := by simp [readArgument, hp]
    rw [hf, hr]
    exact reads_unsourced rfl (.refl s) (fun _ => rfl)
  | none =>
    have refused (hc : contents? s r = none)
        (hr : readArgument s r = (.error (.wrongPermission (s.className r)), s)) :
        Reads s ((findings s r).map (none, ·)) s (readArgument s r) := by
      have hf : findings s r = [.error (s.className r)] := by simp [findings, hp, hc]
      rw [hf, hr]
      exact reads_unsourced rfl (.refl s) (fun _ => rfl)
    cases r with
    | scalar x => exact refused rfl (by simp [readArgument, hp])
    | address a =>
      have hi : ∀ rest, s.cell? a ≠ some (.iterator rest) := by
        intro rest hc
        simp [source?, hc] at h
      by_cases hd : ∃ source, s.cell? a = some (.delayed source)
      · obtain ⟨source, hc⟩ := hd
        have hs : ∀ items, s.cell? source ≠ some (.iterator items) := by
          intro items hs
          simp [source?, hc, hs] at h
        have hf : findings s (.address a) = [] := by
          simp [findings, hp, contents?, hc]
        have hr : readArgument s (.address a) = (.ok [], s) := by
          simp [readArgument, hp, Store.cellOf?, hc, hs]
        rw [hf, hr]
        exact reads_unsourced rfl (.refl s) (fun _ => rfl)
      · have hd' : ∀ source, s.cell? a ≠ some (.delayed source) := fun b hb => hd ⟨b, hb⟩
        cases he : s.elements? (.address a) with
        | none =>
          have hc : contents? s (.address a) = none := by simp [contents?, he]
          exact refused hc (by simp only [readArgument, hp, Store.cellOf?, he])
        | some read =>
          obtain ⟨items, t⟩ := read
          have hc : contents? s (.address a) = some (items.map (inspect t)) := by
            simp [contents?, he]
          refine reads_elements hi he (by simp [findings, hp, hc]) ?_ ?_
          · intro ps ht
            simp only [readArgument, hp, Store.cellOf?, he, ht]
          · intro ps other rest ht
            simp only [readArgument, hp, Store.cellOf?, he, ht]

theorem reads_argument (s : Store) (r : Ref) :
    Reads s ((findings s r).map (source? s r, ·)) (drain s r) (readArgument s r) := by
  cases hs : source? s r with
  | none =>
    simpa [drain, hs] using reads_other hs
  | some a =>
    simp only [drain, hs]
    cases r with
    | scalar x => simp [source?] at hs
    | address b =>
      simp only [source?] at hs
      split at hs
      · next items hb =>
        cases hs
        exact reads_iterator hb
      · next source hb =>
        split at hs
        · next items hi =>
          cases hs
          exact reads_delayed hb hi
        · cases hs
      · cases hs

theorem outcome_append_of_none {fs : List Finding} (h : Finding.firstOther? fs = none)
    (gs : List Finding) : outcome (fs ++ gs) = (outcome gs).map (Finding.permissions fs ++ ·) := by
  unfold outcome
  rw [Finding.firstOther?_append, h, Option.none_or, Finding.permissions_append]
  cases Finding.firstOther? gs <;> rfl

theorem outcome_eq_ok {fs : List Finding} {ps : List (Held Permission)}
    (h : outcome fs = .ok ps) :
    Finding.firstOther? fs = none ∧ Finding.permissions fs = ps := by
  unfold outcome at h
  split at h
  · cases h
  · next hf =>
    cases h
    exact ⟨hf, rfl⟩

theorem readArguments_of_error {e : RequestFault} {t : Store} (h : readArgument s r = (.error e, t))
    (rest : List Ref) : readArguments s (r :: rest) = (.error e, t) := by
  simp [readArguments, h]

theorem readArguments_of_ok {ps : List (Held Permission)} {t : Store}
    (h : readArgument s r = (.ok ps, t)) (rest : List Ref) :
    readArguments s (r :: rest) =
      ((readArguments t rest).1.map (ps ++ ·), (readArguments t rest).2) := by
  simp only [readArguments, h]
  rcases readArguments t rest with ⟨e | qs, u⟩ <;> rfl

theorem reads_arguments (s : Store) (rs : List Ref) :
    Reads s (trail s rs) (drainAll s rs) (readArguments s rs) := by
  -- The store varies: an argument is read from what those before it have left.
  induction rs generalizing s with
  | nil =>
    refine ⟨rfl, ?_, fun _ => rfl⟩
    intro a c hc
    simpa [trail, checked, takenFrom, readArguments] using hc
  | cons r rest ih =>
    have hr := reads_argument s r
    have hm : ((findings s r).map (source? s r, ·)).map Prod.snd = findings s r := by
      simp [Function.comp_def]
    have ho : (readArgument s r).1 = outcome (findings s r) := by rw [hr.outcome, hm]
    cases hn : Finding.firstOther? (findings s r) with
    | some c =>
      have hfirst : Finding.firstOther? ((trail s (r :: rest)).map Prod.snd) = some c := by
        rw [trail, List.map_append, Finding.firstOther?_append, hm, hn, Option.some_or]
      have he : (readArgument s r).1 = .error (.wrongPermission c) := by rw [ho, outcome, hn]
      rw [readArguments_of_error (Prod.ext he rfl)]
      refine ⟨by rw [outcome, hfirst], ?_, by simp [hfirst]⟩
      intro a d hd
      rw [trail, checked_append_of_some _ (hm.symm ▸ hn)]
      exact hr.cell a d hd
    | none =>
      have hd := hr.drained (hm.symm ▸ hn)
      have he : readArgument s r = (.ok (Finding.permissions (findings s r)), drain s r) :=
        Prod.ext (by rw [ho, outcome, hn]) hd
      have hrest := ih (drain s r)
      rw [readArguments_of_ok he]
      refine ⟨?_, ?_, ?_⟩
      · rw [trail, List.map_append, hm, outcome_append_of_none hn, hrest.outcome]
      · intro a c hc
        have hfirst := hr.cell a c hc
        rw [hd, checked_of_none (hm.symm ▸ hn)] at hfirst
        rw [hrest.cell a _ hfirst, trail, checked_append_of_none _ (hm.symm ▸ hn),
          takenFrom_append, Cell.dropItems_dropItems]
      · intro hall
        rw [trail, List.map_append, Finding.firstOther?_append, hm, hn, Option.none_or] at hall
        exact hrest.drained hall

/-- What is found is found in one of the arguments, once those before it have been read. -/
theorem mem_trail_iff {s : Store} {rs : List Ref} {f : Finding} :
    f ∈ (trail s rs).map Prod.snd ↔
      ∃ before r after, rs = before ++ r :: after ∧ f ∈ findings (drainAll s before) r := by
  induction rs generalizing s with
  | nil => simp [trail]
  | cons r rest ih =>
    have hm : ((findings s r).map (source? s r, ·)).map Prod.snd = findings s r := by
      simp [Function.comp_def]
    rw [trail, List.map_append, List.mem_append, hm, ih]
    constructor
    · rintro (hf | ⟨before, x, after, rfl, hf⟩)
      · exact ⟨[], r, rest, rfl, hf⟩
      · exact ⟨r :: before, x, after, rfl, hf⟩
    · rintro ⟨before, x, after, heq, hf⟩
      cases before with
      | nil =>
        obtain ⟨rfl, -⟩ : r = x ∧ rest = after := by simpa using heq
        exact .inl hf
      | cons y before =>
        obtain ⟨rfl, rfl⟩ : r = y ∧ rest = before ++ x :: after := by simpa using heq
        exact .inr ⟨before, x, after, rfl, hf⟩

theorem source?_eq_some {a : Address} (h : source? s r = some a) :
    ∃ items, s.cell? a = some (.iterator items) := by
  unfold source? at h
  split at h
  · cases h
  · split at h
    · next items hc =>
      cases h
      exact ⟨items, hc⟩
    · split at h
      · next items hc =>
        cases h
        exact ⟨items, hc⟩
      · cases h
    · cases h

theorem evolves_drain (s : Store) (r : Ref) : s.Evolves (drain s r) := by
  unfold drain
  split
  · next a hs =>
    obtain ⟨items, ha⟩ := source?_eq_some hs
    exact Store.evolves_update ha ⟨rfl, by simp [Cell.isFrozen]⟩
  · exact .refl s

theorem evolves_drainAll (s : Store) (rs : List Ref) : s.Evolves (drainAll s rs) := by
  induction rs generalizing s with
  | nil => exact .refl s
  | cons r rest ih => exact (evolves_drain s r).trans (ih _)

theorem evolves_readArguments (s : Store) (rs : List Ref) :
    s.Evolves (readArguments s rs).2 :=
  fun a c hc => ⟨_, (reads_arguments s rs).cell a c hc, Cell.becomes_dropItems _ c⟩

theorem permission?_eq_some {p : Held Permission} (h : permission? s r = some p) :
    p.ref = r ∧ ∃ x y, s.cell? p.address = some (.permission p.content x y) := by
  unfold permission? at h
  split at h
  · next a q x y hc =>
    cases h
    exact ⟨rfl, x, y, hc⟩
  · cases h

theorem permission?_evolves {t : Store} {p : Held Permission} (h : permission? s r = some p)
    (k : s.Evolves t) : permission? t r = some p := by
  obtain ⟨rfl, x, y, hc⟩ := permission?_eq_some h
  simp [permission?, Held.ref, Store.cellOf?, k.cell?_eq hc rfl]

theorem inspect_eq_ok {p : Held Permission} (h : inspect s r = .ok p) :
    permission? s p.ref = some p := by
  unfold inspect at h
  split at h
  · next q hq =>
    cases h
    rw [(permission?_eq_some hq).1, hq]
  · cases h

/-- Permissions are found where they stand in the store. -/
theorem permission?_of_findings {p : Held Permission} (h : .ok p ∈ findings s r) :
    permission? s p.ref = some p := by
  unfold findings at h
  cases hp : permission? s r with
  | some q =>
    obtain rfl : p = q := by simpa [hp] using h
    rw [(permission?_eq_some hp).1, hp]
  | none =>
    cases hc : contents? s r with
    | none => simp [hp, hc] at h
    | some fs =>
      simp only [hp, hc, Option.getD_some] at h
      cases r with
      | scalar x => simp [contents?] at hc
      | address a =>
        simp only [contents?] at hc
        split at hc
        · cases hc
          obtain ⟨x, -, hx⟩ := List.mem_map.mp h
          exact inspect_eq_ok hx
        · split at hc <;> cases hc <;> simp at h
        · next hi hd =>
          obtain ⟨⟨items, t⟩, he, rfl⟩ := Option.map_eq_some_iff.mp hc
          obtain ⟨x, hx, hi'⟩ := List.mem_map.mp h
          rcases Store.elements?_eq_some hi he with rfl | ⟨_, fields, -, -, -, hn⟩
          · exact inspect_eq_ok hi'
          · rw [inspect_newPairs hn hx] at hi'
            cases hi'

end CredentialWrite.RequestBuilder
