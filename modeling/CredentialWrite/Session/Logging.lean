import CredentialWrite.Failure
import CredentialWrite.Settings.Basic
import CredentialWrite.Text.Case
import CredentialWrite.Value.Printed

/-!
# Levels of the logs

The root log and the two logs of this library, each with a level. A log of this library whose level
is zero follows the root. Levels are read from the settings by name; what names no level gives a
default, except the names of two constants that are no levels and are refused. The root log is
set up only once: its handler comes first and stays even when its level is refused.
-/

namespace CredentialWrite

inductive Logger where
  | building
  | writing
  deriving DecidableEq

namespace Logger

def name : Logger → String
  | building => "credhub.support.write_request"
  | writing => "credhub.services.credhub"

/-- The name of the group of logs that share a level. -/
def groupName : Logger → String
  | building => "credhub.support"
  | writing => "credhub.services"

def all : List Logger := [building, writing]

end Logger

/-- A message that a log let through. -/
structure LogRecord where
  logger : Logger
  level : Int
  message : String
  deriving DecidableEq

structure Logging where
  root : Int
  formats : List String
  building : Int
  writing : Int
  deriving DecidableEq

namespace Logging

def debugLevel : Int := 10

def infoLevel : Int := 20

def warningLevel : Int := 30

def initial : Logging := ⟨warningLevel, [], 0, 0⟩

def format : String := "%(asctime)s %(levelname)s [%(name)s] %(message)s"

def level (l : Logging) : Logger → Int
  | .building => l.building
  | .writing => l.writing

/-- The level that decides for a log. -/
def effectiveLevel (l : Logging) (logger : Logger) : Int :=
  if l.level logger = 0 then l.root else l.level logger

def isEnabled (l : Logging) (logger : Logger) : Bool := l.effectiveLevel logger ≤ debugLevel

/-- What an upper-case name stands for among the names of levels and constants. -/
inductive LevelName where
  | level (n : Int)
  | text (t : String)
  | table (printed : String)

def recordFormat : String := "%(levelname)s:%(name)s:%(message)s"

def styleTable : String :=
  braced (commaSeparated [
    "'%': (<class 'logging.PercentStyle'>, '%(levelname)s:%(name)s:%(message)s')",
    "'\x7b': (<class 'logging.StrFormatStyle'>, '" ++ braced "levelname" ++ ":" ++ braced "name" ++
      ":" ++ braced "message" ++ "')",
    "'$': (<class 'logging.StringTemplateStyle'>, '$" ++ braced "levelname" ++ ":$" ++
      braced "name" ++ ":$" ++ braced "message" ++ "')"])

def ofName? : String → Option LevelName
  | "CRITICAL" => some (.level 50)
  | "FATAL" => some (.level 50)
  | "ERROR" => some (.level 40)
  | "WARNING" => some (.level 30)
  | "WARN" => some (.level 30)
  | "INFO" => some (.level 20)
  | "DEBUG" => some (.level 10)
  | "NOTSET" => some (.level 0)
  | "BASIC_FORMAT" => some (.text recordFormat)
  | "_STYLES" => some (.table styleTable)
  | _ => none

/-- What a setting names as a level; nothing names no level. -/
def lookup (s : Store) (setting : Ref) (default : Int) : Except Failure LevelName :=
  if !s.isTrue setting then .ok (.level default)
  else match setting with
    | .scalar (.text t) => .ok ((ofName? (Text.upper t)).getD (.level default))
    | r => .error <| match s.className r with
      | "bytes" => .nameIsOctets "bytes"
      | "bytearray" => .nameIsOctets "bytearray"
      | className => .noAttribute className "upper"

def check : LevelName → Except Failure Int
  | .level n => .ok n
  | .text t => .error (.levelText t)
  | .table printed => .error (.levelTable printed)

/-- Sets the root log up, unless that is done. -/
def setUpRoot (l : Logging) (name : LevelName) : Except Failure Unit × Logging :=
  if l.formats.isEmpty then
    let l := { l with formats := [format] }
    match check name with
    | .ok n => (.ok (), { l with root := n })
    | .error e => (.error e, l)
  else (.ok (), l)

/-- Sets the levels from the settings. -/
def configure (l : Logging) (s : Store) (settings : Settings Ref) :
    Except Failure Unit × Logging :=
  match lookup s settings.logLevel infoLevel with
  | .error e => (.error e, l)
  | .ok rootName => match l.setUpRoot rootName with
    | (.error e, l) => (.error e, l)
    | (.ok (), l) => match (lookup s settings.clientLogLevel warningLevel).bind check with
      | .error e => (.error e, l)
      | .ok n => (.ok (), { l with building := n, writing := n })

end Logging

end CredentialWrite
