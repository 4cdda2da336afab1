import CredentialWrite.Settings.Basic
import CredentialWrite.Settings.EnvironmentFile
import CredentialWrite.Text.Case
import CredentialWrite.Validation.Field

/-!
# Loading settings

The value of a setting is the one given for it by name, else that of the environment, else that of
a file, else its default. Names count in any case. Of several for one setting the last wins, but
among the names given the exact one does; a name bound to nothing has no value. All settings are
checked together.
-/

namespace CredentialWrite.Settings

/-- The last value under a name in any case. -/
def lookupAnyCase {α : Type} (bindings : List (String × α)) (name : String) : Option α :=
  (bindings.reverse.find? fun binding => Text.lower binding.1 = Text.lower name).map Prod.snd

structure Sources where
  given : List (String × Ref)
  environment : List (String × String)
  file : Option String

/-- What the sources say of a setting. -/
def Sources.find? (s : Sources) (field : SettingsField) : Option Ref :=
  let file := (s.file.map (EnvironmentFile.read s.environment)).getD []
  (s.given.lookup field.name).orElse fun _ =>
    (lookupAnyCase s.given field.name).orElse fun _ =>
      (lookupAnyCase s.environment field.name).map Ref.text |>.orElse fun _ =>
        (lookupAnyCase file field.name).join.map Ref.text

def load (store : Store) (sources : Sources) : Except ValidationFailure (Settings Scalar) :=
  let checked {α : Type} (field : SettingsField) (check : Ref → Checked α) :
      Checked (Option α) :=
    match sources.find? field with
    | some r => ((check r).under (.field field.name)).map some
    | none => .ok none
  let text (field : SettingsField) : Checked Scalar :=
    (checked field store.checkText).map fun t => (t.map Scalar.text).getD (default.get field)
  let token : Checked Scalar := (checked .token store.checkSlot).map fun slot =>
    match slot.bind Slot.content? with
    | some t => .text t
    | none => .none
  let timeout : Checked Scalar := (checked .timeout Store.checkNumber).map fun x =>
    (x.map (Scalar.float · 0)).getD default.timeout
  match Checked.both (.both (.both (text .apiUrl) token) timeout)
      (.both (text .logLevel) (text .clientLogLevel)) with
  | .ok (((apiUrl, token), timeout), (logLevel, clientLogLevel)) =>
    .ok { apiUrl, token, timeout, logLevel, clientLogLevel }
  | .error faults => .error ⟨"Settings", faults⟩

end CredentialWrite.Settings
