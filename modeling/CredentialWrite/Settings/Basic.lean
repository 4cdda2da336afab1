import CredentialWrite.Store.Basic

/-!
# Settings

Where the service is, the token that authorises requests, how long to wait, and the levels of the
logs. The type of the values is a parameter: settings that were loaded hold scalars, settings that
were assigned hold whatever was given.
-/

namespace CredentialWrite

inductive SettingsField where
  | apiUrl
  | token
  | timeout
  | logLevel
  | clientLogLevel
  deriving DecidableEq

namespace SettingsField

def all : List SettingsField := [apiUrl, token, timeout, logLevel, clientLogLevel]

def name : SettingsField → String
  | apiUrl => "CREDHUB_API_URL"
  | token => "CREDHUB_TOKEN"
  | timeout => "REQUEST_TIMEOUT_S"
  | logLevel => "LOG_LEVEL"
  | clientLogLevel => "CREDHUB_LOG_LEVEL"

def ofName? (s : String) : Option SettingsField := all.find? (·.name = s)

end SettingsField

structure Settings (α : Type) where
  apiUrl : α
  token : α
  timeout : α
  logLevel : α
  clientLogLevel : α

namespace Settings

variable {α β : Type}

def get (c : Settings α) : SettingsField → α
  | .apiUrl => c.apiUrl
  | .token => c.token
  | .timeout => c.timeout
  | .logLevel => c.logLevel
  | .clientLogLevel => c.clientLogLevel

def set (c : Settings α) (field : SettingsField) (x : α) : Settings α :=
  match field with
  | .apiUrl => { c with apiUrl := x }
  | .token => { c with token := x }
  | .timeout => { c with timeout := x }
  | .logLevel => { c with logLevel := x }
  | .clientLogLevel => { c with clientLogLevel := x }

def map (f : α → β) (c : Settings α) : Settings β :=
  ⟨f c.apiUrl, f c.token, f c.timeout, f c.logLevel, f c.clientLogLevel⟩

/-- Thirty seconds. -/
def defaultTimeout : Binary64 := Binary64.make false (30 * Nat.pow 2 48) (-48)

def default : Settings Scalar where
  apiUrl := .text "https://localhost:8844"
  token := .none
  timeout := .float defaultTimeout 0
  logLevel := .text "INFO"
  clientLogLevel := .text "WARNING"

end Settings

end CredentialWrite
