import CredentialWrite.Proofs.Payload.Schema
import CredentialWrite.Proofs.Session.SideBySide

/-!
# What journals and faults tell

Nothing of a value, and of permissions only how many there are. One step of two runs side by side
records the same in both and raises the same fault, and what was made by both stays alike; so this
holds of whole runs.
-/

namespace CredentialWrite

theorem Action.IsSilent.builder? {x : Action} (h : x.IsSilent) : x.builder? = none := by
  cases x <;> first | rfl | exact h.elim

namespace Session

open Store RequestBuilder

variable {σ σ' : Session} {ps new : List (Address × Address)} {x x' : Action} {a a' : Address}

theorem requestSummary_eq_of_twin {q q' : StoredRequest} (h : TwinRequests q q') :
    requestSummary q' = requestSummary q := by
  simp only [requestSummary, h.kind, h.name, h.overwrite, h.count]

theorem recordsOfCall_eq_of_alike {l : Logging}
    {o o' : Except Failure (Option (Held StoredRequest))} (h : AlikeResults o o') :
    recordsOfCall l o' = recordsOfCall l o := by
  cases h with
  | refused e => rfl
  | called => rfl
  | built h => simp only [recordsOfCall, requestSummary_eq_of_twin h]

theorem fault?_eq_of_alike {o o' : Except Failure (Option (Held StoredRequest))}
    (h : AlikeResults o o') : fault? o' = fault? o := by
  cases h <;> rfl

theorem fault?_lookup (s : Store) (r : Ref) (default : Int) :
    fault? (Logging.lookup s r default) = none := by
  unfold Logging.lookup
  split
  · rfl
  · split
    · rfl
    · simp only [fault?]
      split <;> rfl

theorem fault?_check (name : Logging.LevelName) : fault? (Logging.check name) = none := by
  cases name <;> rfl

theorem fault?_configure (l : Logging) (s : Store) (settings : Settings Ref) :
    fault? (l.configure s settings).1 = none := by
  have root (name : Logging.LevelName) : fault? (l.setUpRoot name).1 = none := by
    unfold Logging.setUpRoot
    split
    · simp only
      split
      · rfl
      · next h => exact (congrArg fault? h).symm.trans (fault?_check name)
    · rfl
  unfold Logging.configure
  split
  · next h => exact (congrArg fault? h).symm.trans (fault?_lookup ..)
  · next name _ =>
    split
    · next h => exact (congrArg (fun r => fault? r.1) h).symm.trans (root name)
    · split
      · next h => exact (congrArg fault? h).symm.trans (fault?_bind (fault?_lookup ..) fault?_check)
      · rfl

theorem fault?_configureLogging (σ : Session) :
    fault? (σ.perform .configureLogging).1 = none := by
  rw [← fault?_configure σ.logging σ.store σ.settings]
  simp only [perform, configureLogging]
  cases (σ.logging.configure σ.store σ.settings).1 <;> rfl

namespace Mirrors

theorem left (h : Mirrors σ σ' ps) (hx : x.Given σ.store) (hq : x.IsSilent) :
    Mirrors (σ.perform x).2 σ' ps := by
  have tells : Tells σ (σ.perform x) [] none := tells_of_isSilent hq
  have steps := steps_perform h.sound hx
  have stays : σ'.store.Steps x σ'.store := .stays rfl
  refine h.after steps stays (steps.sound h.sound hx) h.sound' ?_ ?_ ?_
  · rw [tells.logging, h.logging]
  · rw [tells.journal, List.append_nil, h.journal]
  · simp [hq.builder?]

theorem right (h : Mirrors σ σ' ps) (hx : x.Given σ'.store) (hq : x.IsSilent) :
    Mirrors σ (σ'.perform x).2 ps := by
  have tells : Tells σ' (σ'.perform x) [] none := tells_of_isSilent hq
  have steps := steps_perform h.sound' hx
  have stays : σ.store.Steps x σ.store := .stays rfl
  refine h.after stays steps h.sound (steps.sound h.sound' hx) ?_ ?_ ?_
  · rw [tells.logging, h.logging]
  · rw [tells.journal, List.append_nil, h.journal]
  · simp [hq.builder?]

theorem make (h : Mirrors σ σ' ps) {c c' : Cell} (hc : σ.store.Supports c)
    (hc' : σ'.store.Supports c') (ht : c.Twin c') :
    Mirrors (σ.perform (.create c)).2 (σ'.perform (.create c')).2
      (ps ++ [(σ.store.cells.size, σ'.store.cells.size)]) := by
  have made : Mirrors (σ.perform (.create c)).2 (σ'.perform (.create c')).2 ps :=
    h.uncalled hc hc' (tells_of_isSilent trivial) (tells_of_isSilent trivial) rfl rfl
  exact made.add (cell?_alloc_self _ c) (cell?_alloc_self _ c') ht
    (fun p hp => (h.lt_size p hp).1) fun p hp => (h.lt_size p hp).2

/-- What is at the addresses of a pair are twins. -/
theorem twin (h : Mirrors σ σ' ps) (hp : (a, a') ∈ ps) {c c' : Cell}
    (hc : σ.store.cell? a = some c) (hc' : σ'.store.cell? a' = some c') : c.Twin c' := by
  obtain ⟨d, d', hd, hd', ht⟩ := h.twins _ hp
  obtain rfl := Option.some.inj (hd.symm.trans hc)
  obtain rfl := Option.some.inj (hd'.symm.trans hc')
  exact ht

end Mirrors

theorem cell?_callRequestBuilder (hs : σ.store.Sound) {b : RequestBuilder}
    (hb : σ.store.cell? a = some (.requestBuilder b)) (call : RequestBuilder.Call) :
    (σ.callRequestBuilder a b call).2.store.cell? a =
      some (.requestBuilder (b.perform σ.store call).builder) := by
  have coherent : b.Coherent σ.store := (hs.supports a _ hb).holds
  obtain ⟨n, hn⟩ := (coherent.grows_perform hs call).cell hb
  rw [store_callRequestBuilder, cell?_update_self (lt_size_of_cell? hn)]

theorem cell?_callPermissionBuilder (hs : σ.store.Sound) {b : PermissionBuilder}
    (hb : σ.store.cell? a = some (.permissionBuilder b)) (call : PermissionBuilder.Call) :
    (σ.callPermissionBuilder a b call).2.store.cell? a =
      some (.permissionBuilder (b.perform σ.store call).builder) := by
  have coherent : b.Coherent σ.store := (hs.supports a _ hb).holds
  obtain ⟨n, hn⟩ := (coherent.goes_perform call).grows.cell hb
  rw [store_callPermissionBuilder, cell?_update_self (lt_size_of_cell? hn)]

/-- What a call builds is a new object, so it is not the builder. -/
theorem cell?_built (hs : σ.store.Sound) {b : RequestBuilder}
    (hb : σ.store.cell? a = some (.requestBuilder b)) {call : RequestBuilder.Call}
    {r : Held StoredRequest} (hr : (b.perform σ.store call).result = .ok (some r)) :
    σ.store.cells.size ≤ r.address ∧ ∃ listed,
      (σ.callRequestBuilder a b call).2.store.cell? r.address =
        some (.request r.content listed) := by
  have coherent : b.Coherent σ.store := (hs.supports a _ hb).holds
  obtain ⟨new, listed, hc, -⟩ := coherent.stands_of_perform hr
  have hne : a ≠ r.address := Nat.ne_of_lt (Nat.lt_of_lt_of_le (lt_size_of_cell? hb) new)
  exact ⟨new, listed, by rw [store_callRequestBuilder, cell?_update_of_ne hne, hc]⟩

namespace Mirrors

theorem call (h : Mirrors σ σ' ps) (hp : (a, a') ∈ ps) {b b' : RequestBuilder}
    (hb : σ.store.cell? a = some (.requestBuilder b))
    (hb' : σ'.store.cell? a' = some (.requestBuilder b')) {c c' : RequestBuilder.Call}
    (hc : RequestBuilder.AlikeCalls b b' σ.store σ'.store c c') :
    Mirrors (σ.callRequestBuilder a b c).2 (σ'.callRequestBuilder a' b' c').2
        (ps ++ builtPairs (b.perform σ.store c).result (b'.perform σ'.store c').result) ∧
      fault? (σ'.callRequestBuilder a' b' c').1 = fault? (σ.callRequestBuilder a b c).1 := by
  have twin : Twin b b' := by
    cases h.twin hp hb hb' with
    | requestBuilder ht => exact ht
  have coherent : b.Coherent σ.store := (h.sound.supports a _ hb).holds
  have coherent' : b'.Coherent σ'.store := (h.sound'.supports a' _ hb').holds
  obtain ⟨results, builders⟩ := twin.perform coherent coherent' hc
  have tells := tells_callRequestBuilder σ a b c
  have tells' := tells_callRequestBuilder σ' a' b' c'
  rw [h.logging, recordsOfCall_eq_of_alike results, fault?_eq_of_alike results] at tells'
  refine ⟨?_, tells'.fault.trans tells.fault.symm⟩
  have called : Mirrors (σ.callRequestBuilder a b c).2 (σ'.callRequestBuilder a' b' c').2 ps := by
    have cells := cell?_callRequestBuilder h.sound hb c
    have cells' := cell?_callRequestBuilder h.sound' hb' c'
    rw [← perform_callRequestBuilder hb] at tells cells ⊢
    rw [← perform_callRequestBuilder hb'] at tells' cells' ⊢
    exact h.called hp rfl rfl tells tells' cells cells' (.requestBuilder builders)
  generalize hr : (b.perform σ.store c).result = result at results ⊢
  generalize hr' : (b'.perform σ'.store c').result = result' at results ⊢
  cases results with
  | refused e => exact (List.append_nil ps).symm ▸ called
  | called => exact (List.append_nil ps).symm ▸ called
  | @built r r' ht =>
    -- What is built is new in both runs, so it is paired with nothing else.
    obtain ⟨new, listed, hq⟩ := cell?_built h.sound hb hr
    obtain ⟨new', listed', hq'⟩ := cell?_built h.sound' hb' hr'
    exact called.add hq hq' (.request ht) (fun p hp => Nat.lt_of_lt_of_le (h.lt_size p hp).1 new)
      fun p hp => Nat.lt_of_lt_of_le (h.lt_size p hp).2 new'

theorem grant (h : Mirrors σ σ' ps) (hp : (a, a') ∈ ps) {b b' : PermissionBuilder}
    (hb : σ.store.cell? a = some (.permissionBuilder b))
    (hb' : σ'.store.cell? a' = some (.permissionBuilder b')) {c c' : PermissionBuilder.Call}
    (hc : PermissionBuilder.AlikeCalls b b' σ.store σ'.store c c') :
    Mirrors (σ.callPermissionBuilder a b c).2 (σ'.callPermissionBuilder a' b' c').2 ps ∧
      fault? (σ'.callPermissionBuilder a' b' c').1 = fault? (σ.callPermissionBuilder a b c).1 := by
  have twin : PermissionBuilder.Twin b b' := by
    cases h.twin hp hb hb' with
    | permissionBuilder ht => exact ht
  obtain ⟨faults, builders⟩ := twin.perform hc
  have tells := tells_callPermissionBuilder σ a b c
  have tells' := tells_callPermissionBuilder σ' a' b' c'
  rw [faults] at tells'
  refine ⟨?_, tells'.fault.trans tells.fault.symm⟩
  have cells := cell?_callPermissionBuilder h.sound hb c
  have cells' := cell?_callPermissionBuilder h.sound' hb' c'
  rw [← perform_callPermissionBuilder hb] at tells cells ⊢
  rw [← perform_callPermissionBuilder hb'] at tells' cells' ⊢
  exact h.called hp rfl rfl tells tells' cells cells' (.permissionBuilder builders)

/-- Nothing is compared again after steps that prepare requests. -/
theorem prepare (h : Mirrors σ σ' ps) {http http' r r' : Ref} {records : List LogRecord}
    {f : Option RequestFault} (tells : Tells σ (σ.buildWrite http r) records f)
    (tells' : Tells σ' (σ'.buildWrite http' r') records f) :
    Mirrors (σ.buildWrite http r).2 (σ'.buildWrite http' r').2 ps ∧
      fault? (σ'.buildWrite http' r').1 = fault? (σ.buildWrite http r).1 := by
  have given {s : Store} (http r : Ref) : (Action.buildWrite http r).Given s := by
    simp [Action.Given, Action.stored]
  exact ⟨h.uncalled (given http r) (given http' r') tells tells' rfl rfl,
    tells'.fault.trans tells.fault.symm⟩

/-- One step of both runs: what was made by both stays alike, and the same fault is raised. -/
theorem both (h : Mirrors σ σ' ps) (hx : AlikeActions σ σ' ps x x' new) :
    Mirrors (σ.perform x).2 (σ'.perform x').2 (ps ++ new) ∧
      fault? (σ'.perform x').1 = fault? (σ.perform x).1 := by
  cases hx with
  | make hc hc' ht => exact ⟨h.make hc hc' ht, rfl⟩
  | call hp hb hb' hc =>
    rw [perform_callRequestBuilder hb, perform_callRequestBuilder hb']
    exact h.call hp hb hb' hc
  | grant hp hb hb' hc =>
    rw [perform_callPermissionBuilder hb, perform_callPermissionBuilder hb', List.append_nil]
    exact h.grant hp hb hb' hc
  | @write a a' hp q q' listed listed' hq hq' hd http http' =>
    have twin : TwinRequests q q' := by
      cases h.twin hp hq hq' with
      | request ht => exact ht
    have tells : Tells σ (σ.buildWrite http (.address a)) _ none := tells_buildWrite hq
    have tells' : Tells σ' (σ'.buildWrite http' (.address a')) _ none := tells_buildWrite hq'
    rw [hd, requestSummary_eq_of_twin twin, h.logging] at tells'
    rw [List.append_nil]
    exact h.prepare tells tells'
  | @refuse r r' hr hr' hc http http' =>
    have tells : Tells σ (σ.buildWrite http r) [] _ := tells_buildWrite_of_other hr
    have tells' : Tells σ' (σ'.buildWrite http' r') [] _ := tells_buildWrite_of_other hr'
    rw [hc] at tells'
    rw [List.append_nil]
    exact h.prepare tells tells'
  | configure hl =>
    rw [List.append_nil, fault?_configureLogging, fault?_configureLogging]
    have stays (ρ : Session) :
        ρ.store.Steps .configureLogging (ρ.perform .configureLogging).2.store := .stays rfl
    refine ⟨h.after (stays σ) (stays σ') h.sound h.sound' hl h.journal ?_, rfl⟩
    simp [Action.builder?]

end Mirrors

/-- By induction on the two runs. What one of them does alone tells nothing, so the other one is
still its mirror. -/
theorem SideBySide.mirrors {fs fs' : List (Option RequestFault)}
    (h : SideBySide σ σ' ps fs fs') : Mirrors σ σ' ps ∧ fs' = fs := by
  induction h with
  | start hs hs' hl hj => exact ⟨⟨hs, hs', hl, hj, by simp, by simp⟩, rfl⟩
  | @left σ σ' ps fs fs' _ x hx hq ih =>
    have quiet : fault? (σ.perform x).1 = none := (tells_of_isSilent hq).fault
    refine ⟨ih.1.left hx hq, ?_⟩
    rw [quiet, ih.2]
    exact (List.append_nil _).symm
  | @right σ σ' ps fs fs' _ x hx hq ih =>
    have quiet : fault? (σ'.perform x).1 = none := (tells_of_isSilent hq).fault
    refine ⟨ih.1.right hx hq, ?_⟩
    rw [quiet, ih.2]
    exact List.append_nil _
  | both _ hx ih =>
    obtain ⟨mirrors, fault⟩ := ih.1.both hx
    exact ⟨mirrors, by rw [fault, ih.2]⟩

/-- Neither the journal nor the faults of a run tell anything of a value, or of a permission more
than that it is there. -/
theorem journals_and_faults_agree {fs fs' : List (Option RequestFault)}
    (h : SideBySide σ σ' ps fs fs') : σ'.journal = σ.journal ∧ fs' = fs :=
  ⟨h.mirrors.1.journal, h.mirrors.2⟩

/-- A session in which everything is logged, with a name and a permission. -/
def loudSession (p : Permission) : Session where
  store := ⟨#[.name plainName, .actor p.actor,
    .sequence .tuple (p.operations.map fun o => .scalar (.member (.operation o))),
    .permission p 1 2]⟩
  settings := initial.settings
  logging := { Logging.initial with root := Logging.debugLevel }
  journal := []

/-- A builder is asked to build too early, and then given all that it needs; what it builds is
prepared. -/
def passwordActions (password : String) : List Action :=
  [.create (.requestBuilder (.new .password)),
    .callRequestBuilder (.address 4) .build,
    .callRequestBuilder (.address 4) (.name (.address 0)),
    .callRequestBuilder (.address 4) (.value (.text password)),
    .callRequestBuilder (.address 4) (.permission (.address 3)),
    .callRequestBuilder (.address 4) .build,
    .buildWrite .none (.address 7)]

def passwordSession (p : Permission) (password : String) : Session :=
  (passwordActions password).foldl (fun σ x => (σ.perform x).2) (loudSession p)

def filling (name : Option (Held CredentialName)) (value : Option Ref)
    (permissions : Option (List (Held Permission))) : RequestBuilder :=
  { RequestBuilder.new .password with name, value, permissions }

def fillingSession (p : Permission) (name : Option (Held CredentialName)) (value : Option Ref)
    (permissions : Option (List (Held Permission))) : Session :=
  ((loudSession p).perform (.create (.requestBuilder (filling name value permissions)))).2

theorem cell?_fillingSession (p : Permission) (name : Option (Held CredentialName))
    (value : Option Ref) (permissions : Option (List (Held Permission))) :
    (fillingSession p name value permissions).store.cell? 4 =
      some (.requestBuilder (filling name value permissions)) := rfl

theorem sound_loudSession (p : Permission) : (loudSession p).store.Sound := by
  have named := sound_empty.alloc (c := .name plainName) ⟨by simp [Cell.parts], trivial⟩
  have acting := named.alloc (c := .actor p.actor) ⟨by simp [Cell.parts], trivial⟩
  have listed := acting.alloc
    (c := .sequence .tuple (p.operations.map fun o => .scalar (.member (.operation o))))
    ⟨by simp [Cell.parts, Has], trivial⟩
  exact listed.alloc (c := .permission p 1 2) ⟨by simp [Cell.parts, Has, alloc, empty], trivial⟩

def userPermission : Permission := ⟨⟨.user, "zone/u", by decide⟩, [.write, .delete], by decide⟩

theorem sideBySide_passwordSessions :
    let faults := [none, some .nameUnset, none, none, none, none, none]
    SideBySide (passwordSession readPermission "hunter2")
      (passwordSession userPermission "correct horse") [(4, 4), (7, 7)] faults faults := by
  intro faults
  let p := readPermission
  let p' := userPermission
  let n : Held CredentialName := ⟨0, plainName⟩
  let v : Ref := .text "hunter2"
  let v' : Ref := .text "correct horse"
  have paired : (4, 4) ∈ [(4, 4)] := List.mem_singleton_self _
  have supports (s : Store) : s.Supports (.requestBuilder (.new .password)) :=
    ⟨by simp [Cell.parts], .new _ _⟩
  have made : SideBySide (fillingSession p none none none) (fillingSession p' none none none)
      [(4, 4)] (faults.take 1) (faults.take 1) :=
    .both (.start (sound_loudSession p) (sound_loudSession p') rfl rfl)
      (.make (supports _) (supports _) (.requestBuilder (.new _)))
  have refused : SideBySide (fillingSession p none none none) (fillingSession p' none none none)
      [(4, 4)] (faults.take 2) (faults.take 2) :=
    made.both (.call paired (cell?_fillingSession ..) (cell?_fillingSession ..) .build)
  have named : SideBySide (fillingSession p n none none) (fillingSession p' n none none)
      [(4, 4)] (faults.take 3) (faults.take 3) :=
    refused.both (.call paired (cell?_fillingSession ..) (cell?_fillingSession ..)
      (@AlikeCalls.name _ _ _ _ (.address 0) (.address 0) rfl rfl))
  have told : SideBySide (fillingSession p n v none) (fillingSession p' n v' none)
      [(4, 4)] (faults.take 4) (faults.take 4) :=
    named.both (.call paired (cell?_fillingSession ..) (cell?_fillingSession ..)
      (@AlikeCalls.value _ _ _ _ v v' rfl (Eq.trans (b := true) rfl rfl)))
  have granted : SideBySide (fillingSession p n v (some [⟨3, p⟩]))
      (fillingSession p' n v' (some [⟨3, p'⟩])) [(4, 4)] (faults.take 5) (faults.take 5) :=
    told.both (.call paired (cell?_fillingSession ..) (cell?_fillingSession ..)
      (@AlikeCalls.permission _ _ _ _ (.address 3) (.address 3) (.permission ⟨3, p⟩ ⟨3, p'⟩)))
  have built : SideBySide
      ((fillingSession p n v (some [⟨3, p⟩])).perform (.callRequestBuilder (.address 4) .build)).2
      ((fillingSession p' n v' (some [⟨3, p'⟩])).perform
        (.callRequestBuilder (.address 4) .build)).2
      [(4, 4), (7, 7)] (faults.take 6) (faults.take 6) :=
    granted.both (.call paired (cell?_fillingSession ..) (cell?_fillingSession ..) .build)
  have requests : (7, 7) ∈ [(4, 4), (7, 7)] := by decide
  exact built.both (.write requests rfl rfl (Eq.trans (b := true) rfl rfl) .none .none)

theorem passwords_leave_alike_records :
    let σ := passwordSession readPermission "hunter2"
    let τ := passwordSession userPermission "correct horse"
    σ.journal = [
        ⟨.building, 10, "built write request: name=/a type=password overwrite=False permissions=1"⟩,
        ⟨.writing, 10, "PUT /api/v1/data name=/a type=password overwrite=False permissions=1"⟩] ∧
      τ.journal = σ.journal := by
  refine ⟨?_, (journals_and_faults_agree sideBySide_passwordSessions).1⟩
  decide

end Session

end CredentialWrite
