import CredentialWrite.Proofs.Session.Journal
import Mathlib.Data.List.TakeWhile

/-!
# Levels over whole runs

The root log is set up by the first call that sets up the logs, from what its setting names then,
and stays as it is; every call sets the two other logs from what their setting names at that moment.
A setting that is a text or nothing names a level or gives the default, except for two names that
stand for constants: then the call fails and the logs in question keep their levels.
-/

namespace CredentialWrite

namespace Ref

def IsName (r : Ref) : Prop := r = .none ∨ ∃ t, r = .text t

end Ref

namespace Action

def setsUpLogs : Action → Bool
  | configureLogging => true
  | _ => false

def NamesLevels : Action → Prop
  | assign .logLevel r | assign .clientLogLevel r => r.IsName
  | _ => True

end Action

namespace Logging

variable {l l' : Logging} {settings : Settings Ref} {r : Ref}

def namedLevels : List (String × Int) :=
  [("CRITICAL", 50), ("FATAL", 50), ("ERROR", 40), ("WARNING", 30), ("WARN", 30), ("INFO", 20),
    ("DEBUG", 10), ("NOTSET", 0)]

/-- The names that stand for no level, with what is raised for them. -/
def namedConstants : List (String × Failure) :=
  [("BASIC_FORMAT", .levelText recordFormat), ("_STYLES", .levelTable styleTable)]

/-- The level that a setting names in any letter case. All other texts, and nothing, give the
default. -/
def levelNamed (r : Ref) (default : Int) : Int :=
  match r with
  | .scalar (.text t) => (namedLevels.lookup (Text.upper t)).getD default
  | _ => default

def refusal? : Ref → Option Failure
  | .scalar (.text t) => namedConstants.lookup (Text.upper t)
  | _ => none

def judged (r : Ref) (default : Int) : Except Failure Int :=
  match refusal? r with
  | some e => .error e
  | none => .ok (levelNamed r default)

theorem check_ofName? (t : String) (default : Int) :
    check ((ofName? (Text.upper t)).getD (.level default)) = judged (.text t) default := by
  unfold judged refusal? levelNamed Ref.text
  simp only
  generalize Text.upper t = name
  unfold ofName?
  split
  case h_11 _ critical fatal error warning warn info debug notset format styles =>
    have constants : namedConstants.lookup name = none :=
      List.lookup_eq_none_iff.mpr (by simpa [namedConstants] using ⟨format, styles⟩)
    have levels : namedLevels.lookup name = none := List.lookup_eq_none_iff.mpr (by
      simpa [namedLevels] using ⟨critical, fatal, error, warning, warn, info, debug, notset⟩)
    rw [constants, levels]
    rfl
  all_goals rfl

theorem exists_lookup (h : r.IsName) (s : Store) (default : Int) :
    ∃ name, lookup s r default = .ok name ∧ check name = judged r default := by
  obtain rfl | ⟨t, rfl⟩ := h
  · exact ⟨.level default, rfl, rfl⟩
  · refine ⟨_, ?_, check_ofName? t default⟩
    by_cases ht : t = ""
    · subst ht
      rfl
    · simp [lookup, Ref.text, Store.isTrue, ht]

theorem setUpRoot_of_setUp (h : l.formats ≠ []) (name : LevelName) :
    l.setUpRoot name = (.ok (), l) := by
  simp [setUpRoot, h]

theorem setUpRoot_of_level {name : LevelName} {n : Int} (h : l.formats = [])
    (hn : check name = .ok n) :
    l.setUpRoot name = (.ok (), { l with formats := [format], root := n }) := by
  simp [setUpRoot, h, hn]

theorem setUpRoot_of_constant {name : LevelName} {e : Failure} (h : l.formats = [])
    (hn : check name = .error e) :
    l.setUpRoot name = (.error e, { l with formats := [format] }) := by
  simp [setUpRoot, h, hn]

/-- Setting up the logs again leaves the root log as it is. -/
theorem configure_of_setUp (h : l.formats ≠ []) (s : Store) (settings : Settings Ref) :
    (l.configure s settings).2.formats = l.formats ∧
      (l.configure s settings).2.root = l.root := by
  unfold configure
  split
  · exact ⟨rfl, rfl⟩
  · simp only [setUpRoot_of_setUp h]
    split <;> exact ⟨rfl, rfl⟩

/-- Where the setting of the root log names a constant, the handler alone is set up. -/
theorem configure_of_refused {e : Failure} (h : l.formats = []) (hr : settings.logLevel.IsName)
    (he : refusal? settings.logLevel = some e) (s : Store) :
    l.configure s settings = (.error e, { l with formats := [format] }) := by
  obtain ⟨name, hl, hn⟩ := exists_lookup hr s infoLevel
  rw [judged, he] at hn
  rw [configure, hl]
  simp only [setUpRoot_of_constant h hn]

/-- Once the root log is set up, the two others follow their setting. -/
theorem configure_of_setUpRoot (hr : settings.logLevel.IsName)
    (hc : settings.clientLogLevel.IsName)
    (h : ∀ name, check name = judged settings.logLevel infoLevel →
      l.setUpRoot name = (.ok (), l')) (s : Store) :
    l.configure s settings = match judged settings.clientLogLevel warningLevel with
      | .error e => (.error e, l')
      | .ok n => (.ok (), { l' with building := n, writing := n }) := by
  obtain ⟨rootName, hrl, hrn⟩ := exists_lookup hr s infoLevel
  obtain ⟨clientName, hcl, hcn⟩ := exists_lookup hc s warningLevel
  rw [configure, hrl]
  cases hj : judged settings.clientLogLevel warningLevel <;>
    simp only [h rootName hrn, hcl, Except.bind, hcn, hj]

end Logging

namespace Session

open Logging

variable {σ : Session} {x : Action} {xs : List Action} {l : Logging}

/-- What a call that sets up the logs comes to: the root log has one handler and a level, and the
two other logs have a level, unless the call is refused and leaves theirs. -/
structure SetsUp (σ : Session) (root : Int) (refused : Option Failure) (client : Int) : Prop where
  formats : σ.configureLogging.2.logging.formats = [format]
  root : σ.configureLogging.2.logging.root = root
  clients : refused = none → σ.configureLogging.1 = .ok () ∧
    ∀ logger, σ.configureLogging.2.logging.level logger = client
  refuses : ∀ e, refused = some e → σ.configureLogging.1 = .error e ∧
    ∀ logger, σ.configureLogging.2.logging.level logger = σ.logging.level logger

theorem setsUp_of_setUpRoot (hr : σ.settings.logLevel.IsName)
    (hc : σ.settings.clientLogLevel.IsName) (hf : l.formats = [format])
    (hl : ∀ logger, l.level logger = σ.logging.level logger)
    (h : ∀ name, check name = judged σ.settings.logLevel infoLevel →
      σ.logging.setUpRoot name = (.ok (), l)) :
    SetsUp σ l.root (refusal? σ.settings.clientLogLevel)
      (levelNamed σ.settings.clientLogLevel warningLevel) := by
  have step := configure_of_setUpRoot hr hc h σ.store
  cases he : refusal? σ.settings.clientLogLevel with
  | none =>
    rw [judged, he] at step
    have set (n : Int) (logger : Logger) :
        { l with building := n, writing := n }.level logger = n := by cases logger <;> rfl
    exact ⟨by simp [configureLogging, step, hf], by simp [configureLogging, step],
      by simp [configureLogging, step, set], by simp⟩
  | some e =>
    rw [judged, he] at step
    exact ⟨by simp [configureLogging, step, hf], by simp [configureLogging, step], by simp,
      by simp [configureLogging, step, hl]⟩

theorem setsUp_first (hr : σ.settings.logLevel.IsName) (hc : σ.settings.clientLogLevel.IsName)
    (h : σ.logging.formats = []) :
    SetsUp σ (if (refusal? σ.settings.logLevel).isSome then σ.logging.root
        else levelNamed σ.settings.logLevel infoLevel)
      ((refusal? σ.settings.logLevel).or (refusal? σ.settings.clientLogLevel))
      (levelNamed σ.settings.clientLogLevel warningLevel) := by
  cases he : refusal? σ.settings.logLevel with
  | none =>
    refine setsUp_of_setUpRoot (l := { σ.logging with
      formats := [format], root := levelNamed σ.settings.logLevel infoLevel }) hr hc rfl
      (fun logger => by cases logger <;> rfl) fun name hn => ?_
    rw [judged, he] at hn
    exact setUpRoot_of_level h hn
  | some e =>
    have step := configure_of_refused h hr he σ.store
    have stays (formats : List String) (logger : Logger) :
        { σ.logging with formats }.level logger = σ.logging.level logger := by
      cases logger <;> rfl
    exact ⟨by simp [configureLogging, step], by simp [configureLogging, step], by simp,
      by simp [configureLogging, step, stays]⟩

theorem setsUp_again (hr : σ.settings.logLevel.IsName) (hc : σ.settings.clientLogLevel.IsName)
    (h : σ.logging.formats = [format]) :
    SetsUp σ σ.logging.root (refusal? σ.settings.clientLogLevel)
      (levelNamed σ.settings.clientLogLevel warningLevel) :=
  setsUp_of_setUpRoot hr hc h (fun _ => rfl) fun name _ => setUpRoot_of_setUp (by simp [h]) name

/-! ### Runs -/

theorem logging_perform (h : x.setsUpLogs = false) : (σ.perform x).2.logging = σ.logging := by
  cases x with
  | callRequestBuilder r call =>
    simp only [perform]
    split
    · exact (tells_callRequestBuilder _ _ _ _).logging
    · rfl
  | callPermissionBuilder r call =>
    simp only [perform]
    split
    · exact (tells_callPermissionBuilder _ _ _ _).logging
    · rfl
  | buildWrite http r =>
    by_cases hr : ∃ q listed, σ.store.cellOf? r = some (.request q listed)
    · obtain ⟨q, listed, hr⟩ := hr
      exact (tells_buildWrite hr).logging
    · exact (tells_buildWrite_of_other fun q listed h => hr ⟨q, listed, h⟩).logging
  | configureLogging => cases h
  | _ =>
    refine (tells_of_isSilent ?_).logging
    trivial

theorem settings_log (σ : Session) (logger : Logger) (message : String) :
    (σ.log logger message).settings = σ.settings := by
  unfold log
  split <;> rfl

/-- Settings are only assigned. -/
theorem settings_perform (h : ∀ field r, x ≠ .assign field r) :
    (σ.perform x).2.settings = σ.settings := by
  cases x with
  | assign field r => exact absurd rfl (h field r)
  | callRequestBuilder r call =>
    simp only [perform, callRequestBuilder]
    split
    · split
      · rfl
      · rfl
      · exact settings_log _ _ _
    · rfl
  | callPermissionBuilder r call =>
    simp only [perform, callPermissionBuilder]
    split
    · split <;> rfl
    · rfl
  | buildWrite http r =>
    simp only [perform, buildWrite]
    split
    · split
      · rfl
      · split
        · split <;> exact settings_log _ _ _
        · exact settings_log _ _ _
    · rfl
  | setItem container key value =>
    simp only [perform, change]
    split <;> rfl
  | append container value =>
    simp only [perform, change]
    split <;> rfl
  | toPayload r =>
    simp only [perform, toPayload]
    split
    · split <;> rfl
    · rfl
  | createClient =>
    simp only [perform, createClient]
    split <;> rfl
  | create c => rfl
  | configureLogging => rfl

structure Named (σ : Session) : Prop where
  root : σ.settings.logLevel.IsName
  client : σ.settings.clientLogLevel.IsName

theorem Named.perform (h : σ.Named) (hx : x.NamesLevels) : (σ.perform x).2.Named := by
  by_cases ha : ∃ field r, x = .assign field r
  · obtain ⟨field, r, rfl⟩ := ha
    cases field with
    | logLevel => exact ⟨hx, h.client⟩
    | clientLogLevel => exact ⟨h.root, hx⟩
    | _ => exact ⟨h.root, h.client⟩
  · have kept := settings_perform (σ := σ) fun field r he => ha ⟨field, r, he⟩
    exact ⟨kept ▸ h.root, kept ▸ h.client⟩

theorem Named.run (h : σ.Named) (hx : ∀ x ∈ xs, x.NamesLevels) : (σ.run xs).Named := by
  induction xs generalizing σ with
  | nil => exact h
  | cons x rest ih =>
    exact ih (h.perform (hx x List.mem_cons_self)) fun y hy => hx y (List.mem_cons_of_mem x hy)

/-- The levels stay between the calls that set up the logs. -/
theorem logging_run (h : ∀ x ∈ xs, x.setsUpLogs = false) : (σ.run xs).logging = σ.logging := by
  induction xs generalizing σ with
  | nil => rfl
  | cons x rest ih =>
    exact (ih fun y hy => h y (List.mem_cons_of_mem x hy)).trans
      (logging_perform (h x List.mem_cons_self))

/-- The root log is set up once: then its handler and its level stay. -/
theorem root_run (h : σ.logging.formats = [format]) (xs : List Action) :
    (σ.run xs).logging.formats = [format] ∧ (σ.run xs).logging.root = σ.logging.root := by
  induction xs generalizing σ with
  | nil => exact ⟨h, rfl⟩
  | cons x rest ih =>
    have kept : (σ.perform x).2.logging.formats = σ.logging.formats ∧
        (σ.perform x).2.logging.root = σ.logging.root := by
      by_cases hc : x.setsUpLogs
      · cases x with
        | configureLogging => exact configure_of_setUp (by simp [h]) σ.store σ.settings
        | _ => cases hc
      · rw [logging_perform (Bool.eq_false_iff.mpr hc)]
        exact ⟨rfl, rfl⟩
    rw [h] at kept
    obtain ⟨formats, root⟩ := ih kept.1
    exact ⟨formats, root.trans kept.2⟩

theorem named_initial : initial.Named := ⟨.inr ⟨_, rfl⟩, .inr ⟨_, rfl⟩⟩

theorem setsUpLogs_eq_false (h : .configureLogging ∉ xs) : ∀ x ∈ xs, x.setsUpLogs = false := by
  intro x hx
  cases x with
  | configureLogging => exact absurd hx h
  | _ => rfl

/-- Before the first call the logs are as they were at the start. -/
theorem setsUp_run_first (hx : ∀ x ∈ xs, x.NamesLevels) (h : .configureLogging ∉ xs) :
    SetsUp (initial.run xs)
      (if (refusal? (initial.run xs).settings.logLevel).isSome then warningLevel
        else levelNamed (initial.run xs).settings.logLevel infoLevel)
      ((refusal? (initial.run xs).settings.logLevel).or
        (refusal? (initial.run xs).settings.clientLogLevel))
      (levelNamed (initial.run xs).settings.clientLogLevel warningLevel) := by
  have named := named_initial.run hx
  have still : (initial.run xs).logging = .initial := logging_run (setsUpLogs_eq_false h)
  have setUp := setsUp_first named.root named.client (by rw [still]; rfl)
  rw [still] at setUp
  exact setUp

/-- After the first call the root log is as that call left it. -/
theorem setsUp_run_again {before after : List Action}
    (hx : ∀ x ∈ before ++ .configureLogging :: after, x.NamesLevels)
    (h : .configureLogging ∉ before) :
    SetsUp (initial.run (before ++ .configureLogging :: after))
      (initial.run before).configureLogging.2.logging.root
      (refusal? (initial.run (before ++ .configureLogging :: after)).settings.clientLogLevel)
      (levelNamed (initial.run (before ++ .configureLogging :: after)).settings.clientLogLevel
        warningLevel) := by
  have named := named_initial.run hx
  have setUp := setsUp_run_first (fun x hm => hx x (List.mem_append_left _ hm)) h
  have goesOn : initial.run (before ++ .configureLogging :: after) =
      (initial.run before).configureLogging.2.run after := List.foldl_append
  obtain ⟨formats, root⟩ := root_run setUp.formats after
  rw [← goesOn] at formats root
  rw [← root]
  exact setsUp_again named.root named.client formats

/-- The session of the first call that sets up the logs, which may still be to come. -/
def atFirstCall (xs : List Action) : Session := initial.run (xs.takeWhile fun x => !x.setsUpLogs)

theorem atFirstCall_of_not_mem (h : .configureLogging ∉ xs) : atFirstCall xs = initial.run xs := by
  have whole : xs.takeWhile (fun x => !x.setsUpLogs) = xs :=
    List.takeWhile_eq_self_iff.mpr fun x hx => by simp [setsUpLogs_eq_false h x hx]
  rw [atFirstCall, whole]

theorem atFirstCall_append {before : List Action} (h : .configureLogging ∉ before)
    (after : List Action) :
    atFirstCall (before ++ .configureLogging :: after) = initial.run before := by
  have stops : (before ++ .configureLogging :: after).takeWhile (fun x => !x.setsUpLogs) =
      before := by
    rw [List.takeWhile_append_of_pos fun x hx => by simp [setsUpLogs_eq_false h x hx]]
    simp [Action.setsUpLogs]
  rw [atFirstCall, stops]

/-- Every call that sets up the logs, after whatever actions, gives the root log one handler and the
level that was named at the first call, and the two others the level that is named now. It is
refused where that setting, or at the first call the one of the root log, names a constant. -/
theorem levels_follow_settings (hx : ∀ x ∈ xs, x.NamesLevels) :
    let rootName := (atFirstCall xs).settings.logLevel
    let clientName := (initial.run xs).settings.clientLogLevel
    SetsUp (initial.run xs)
      (if (refusal? rootName).isSome then warningLevel else levelNamed rootName infoLevel)
      ((if xs.any Action.setsUpLogs then none else refusal? rootName).or (refusal? clientName))
      (levelNamed clientName warningLevel) := by
  intro rootName clientName
  by_cases hc : .configureLogging ∈ xs
  · obtain ⟨before, after, rfl, hb⟩ := List.eq_append_cons_of_mem hc
    have called : (before ++ .configureLogging :: after).any Action.setsUpLogs = true := by
      simp [Action.setsUpLogs]
    have first : rootName = (initial.run before).settings.logLevel := by
      rw [← atFirstCall_append hb after]
    have setUp := setsUp_run_first (fun x hm => hx x (List.mem_append_left _ hm)) hb
    have again := setsUp_run_again hx hb
    rw [setUp.root] at again
    rw [called, first]
    exact again
  · have called : xs.any Action.setsUpLogs = false := by simpa using setsUpLogs_eq_false hc
    have first : rootName = (initial.run xs).settings.logLevel := by
      rw [← atFirstCall_of_not_mem hc]
    rw [called, first]
    exact setsUp_run_first hx hc

def namedActions : List Action :=
  [.assign .logLevel (.text "debug"), .configureLogging, .assign .logLevel (.text "error"),
    .assign .clientLogLevel (.text "fatal")]

theorem levels_of_named_settings : (∀ x ∈ namedActions, x.NamesLevels) ∧
    SetsUp (initial.run namedActions) 10 none 50 := by
  have named : ∀ x ∈ namedActions, x.NamesLevels := by
    simp [namedActions, Action.NamesLevels, Ref.IsName]
  have debug : Text.upper "debug" = "DEBUG" := by decide +kernel
  have fatal : Text.upper "fatal" = "FATAL" := by decide +kernel
  have first : (atFirstCall namedActions).settings.logLevel = .text "debug" := rfl
  have now : (initial.run namedActions).settings.clientLogLevel = .text "fatal" := rfl
  have setUp := levels_follow_settings named
  rw [first, now] at setUp
  simp only [Ref.text, refusal?, levelNamed, debug, fatal] at setUp
  exact ⟨named, setUp⟩

def constantActions : List Action := [.assign .logLevel (.text "basic_format")]

/-- It does not give the default as an unknown name does: the call is refused, and the root log
keeps its level. -/
theorem constant_raised_as_level : (∀ x ∈ constantActions, x.NamesLevels) ∧
    (initial.run constantActions).configureLogging.1 = .error (.levelText recordFormat) ∧
    (initial.run constantActions).configureLogging.2.logging = ⟨warningLevel, [format], 0, 0⟩ ∧
    ¬ SetsUp (initial.run constantActions) infoLevel none warningLevel := by
  have named : ∀ x ∈ constantActions, x.NamesLevels := by
    simp [constantActions, Action.NamesLevels, Ref.IsName]
  have upper : Text.upper "basic_format" = "BASIC_FORMAT" := by decide +kernel
  have refused : refusal? (.text "basic_format") = some (.levelText recordFormat) := by
    simp only [Ref.text, refusal?, upper]
    rfl
  have step : (initial.run constantActions).logging.configure (initial.run constantActions).store
      (initial.run constantActions).settings = (.error (.levelText recordFormat), _) :=
    configure_of_refused rfl (.inr ⟨_, rfl⟩) refused _
  refine ⟨named, congrArg Prod.fst step, congrArg Prod.snd step, fun h => ?_⟩
  have root : (initial.run constantActions).configureLogging.2.logging.root = warningLevel :=
    congrArg (fun result => result.2.root) step
  exact absurd (h.root.symm.trans root) (by decide)

end Session

end CredentialWrite
