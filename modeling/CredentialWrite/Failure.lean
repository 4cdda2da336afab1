import CredentialWrite.Payload.Basic
import CredentialWrite.Request.Fault
import CredentialWrite.Store.Update
import CredentialWrite.Text.Digits
import CredentialWrite.Url.Parser
import CredentialWrite.Validation.Fault

/-!
# Failures

Every way in which an operation of this library can fail, and the text that tells it.
-/

namespace CredentialWrite

/-- A stretch of characters that a header cannot hold. -/
structure NotAscii where
  start : Nat
  characters : List Char
  deriving DecidableEq

inductive Failure where
  | request (fault : RequestFault)
  | validation (e : ValidationFailure)
  | dump (fault : DumpFault)
  | dumpText (fault : DumpFault)
  | item (fault : ItemFault)
  | url (fault : UrlFault)
  | hostName (fault : HostNameFault)
  | urlClass (classText printed : String)
  | notAscii (e : NotAscii)
  | tupleTooShort
  | noAttribute (className name : String)
  | notCallable (className : String)
  | notOctets
  | joinedItem (place : Nat) (className : String)
  | notMember (printed className : String)
  | unhashable (fault : HashFault)
  | endlessComparison
  | nameIsOctets (className : String)
  | levelText (text : String)
  | levelTable (text : String)
  | unreadableFloat (printed : String)
  | unknownSetting (name : String)
  deriving DecidableEq

namespace DumpFault

open Text

/-- What went wrong inside of the dump of a request. -/
def cause? : DumpFault → Option String
  | tooDeep => some "ValueError: Maximum serialization depth exceeded"
  | circular => some "ValueError: Circular reference detected (id repeated)"
  | notText octet place =>
    some ("UnicodeDecodeError: 'utf-8' codec can't decode byte 0x" ++
      String.ofList (hexDigits 2 octet.toNat) ++ " in position " ++ toString place ++
      ": invalid utf-8")
  | iteratorKey => some "TypeError: `generator` not valid as object key"
  | unhashable className => some ("TypeError: unhashable type: '" ++ className ++ "'")
  | resultTooDeep | unknownType _ => none

def message (e : DumpFault) : String :=
  match e.cause?, e with
  | some cause, _ => "Error calling function `serialize_request`: " ++ cause
  | none, unknownType className => "Unable to serialize unknown type: <class '" ++ className ++ "'>"
  | none, _ => "Maximum serialization depth exceeded"

/-- The kind of fault as it is named before its message in another. -/
def kindName : DumpFault → String
  | resultTooDeep => "ValueError"
  | _ => "PydanticSerializationError"

end DumpFault

/-- What is said of work that would never end. -/
def endlessMessage : String := "maximum recursion depth exceeded"

namespace HashFault

def message : HashFault → String
  | unhashable className => "unhashable type: '" ++ className ++ "'"
  | endless => endlessMessage

end HashFault

namespace ItemFault

def message : ItemFault → String
  | unhashable fault => fault.message
  | missingKey printed => printed
  | outOfRange "bytes" _ => "index out of range"
  | outOfRange "str" _ => "string index out of range"
  | outOfRange className false => className ++ " index out of range"
  | outOfRange className true => className ++ " assignment index out of range"
  | hugeIndex => "cannot fit 'int' into an index-sized integer"
  | badIndex "str" index => "string indices must be integers, not '" ++ index ++ "'"
  | badIndex "bytes" index => "byte indices must be integers or slices, not " ++ index
  | badIndex container index => container ++ " indices must be integers or slices, not " ++ index
  | notSubscriptable className => "'" ++ className ++ "' object is not subscriptable"
  | notAssignable className => "'" ++ className ++ "' object does not support item assignment"
  | noAppend className => "'" ++ className ++ "' object has no attribute 'append'"
  | notInteger className => "'" ++ className ++ "' object cannot be interpreted as an integer"
  | notOctet => "byte must be in range(0, 256)"

end ItemFault

namespace NotAscii

open Text

def message (e : NotAscii) : String :=
  let what := match e.characters with
    | [c] => "character '" ++ String.ofList (numberEscape c.toNat) ++ "' in position " ++
      toString e.start
    | cs => "characters in position " ++ toString e.start ++ "-" ++
      toString (e.start + cs.length - 1)
  "'ascii' codec can't encode " ++ what ++ ": ordinal not in range(128)"

end NotAscii

namespace Failure

def message : Failure → String
  | request fault => fault.message
  | validation e => e.message
  | dump fault => fault.message
  | dumpText fault =>
    "Error serializing to JSON: " ++ fault.kindName ++ ": " ++ fault.message
  | item fault => fault.message
  | url fault => fault.message
  | hostName fault => fault.message
  | urlClass classText printed =>
    "Invalid type for url.  Expected str or httpx.URL, got " ++ classText ++ ": " ++ printed
  | notAscii e => e.message
  | tupleTooShort => "tuple index out of range"
  | noAttribute className name => "'" ++ className ++ "' object has no attribute '" ++ name ++ "'"
  | notCallable className => "'" ++ className ++ "' object is not callable"
  | notOctets => "a bytes-like object is required, not 'str'"
  | joinedItem place className =>
    "sequence item " ++ toString place ++ ": expected str instance, " ++ className ++ " found"
  | notMember printed className => printed ++ " is not a valid " ++ className
  | unhashable fault => fault.message
  | endlessComparison => endlessMessage ++ " in comparison"
  | nameIsOctets className => "attribute name must be string, not '" ++ className ++ "'"
  | levelText text => "Unknown level: " ++ Text.quoted text
  | levelTable text => "Level not an integer or a valid string: " ++ text
  | unreadableFloat printed => "could not convert string to float: " ++ printed
  | unknownSetting name => "\"Settings\" object has no field \"" ++ name ++ "\""

end Failure

end CredentialWrite
