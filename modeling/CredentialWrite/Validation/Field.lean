import CredentialWrite.Binary64.Reader
import CredentialWrite.Store.Basic
import CredentialWrite.Text.Case
import CredentialWrite.Text.Utf8
import CredentialWrite.Validation.Fault

/-!
# Checks of single fields

A field for text takes text, octets and buffers of UTF-8, and fixed words, which read as their
wire form. A field for a choice takes the word itself or its wire form. A field for a flag takes
flags, zero and one of either type of number, and a few words in any case.
-/

namespace CredentialWrite

open Text

namespace Store

/-- The fields that a mapping gives: its entries under text keys. -/
def fieldsOfEntries (entries : List (Ref × Ref)) : List (String × Ref) :=
  entries.filterMap fun
    | (.scalar (.text name), value) => some (name, value)
    | _ => none

def textOfOctets (content : List UInt8) : Checked String :=
  match decodeUtf8 content with
  | .ok t => .ok t
  | .error _ => .fault .notUnicode

def checkText (s : Store) : Ref → Checked String
  | .scalar (.text t) => .ok t
  | .scalar (.octets content) => textOfOctets content
  | .scalar (.member m) => .ok m.wire
  | .scalar _ => .fault .notText
  | .address a => match s.cell? a with
    | some (.buffer content) => textOfOctets content
    | _ => .fault .notText

/-- Text of at least one character. -/
def checkFilledText (s : Store) (r : Ref) : Checked { t : String // t ≠ "" } :=
  match s.checkText r with
  | .error e => .error e
  | .ok t => if h : t = "" then .fault .emptyText else .ok ⟨t, h⟩

/-- Text, or nothing. -/
def checkSlot (s : Store) (r : Ref) : Checked Slot :=
  if r.isNone then .ok .absent else (s.checkText r).map .text

/-- Two to the sixty-third power. -/
def longBound : Int := 9223372036854775808

def isLong (n : Int) : Bool := -longBound ≤ n && n < longBound

def flagOfInt (n : Int) : Checked Bool :=
  if n = 0 then .ok false
  else if n = 1 then .ok true
  else if isLong n then .fault .unreadableBool
  else .fault .notBool

def flagOfText (t : String) : Checked Bool :=
  let word := String.ofList (t.toList.map Char.toLower)
  if ["1", "t", "true", "y", "yes", "on"].contains word then .ok true
  else if ["0", "f", "false", "n", "no", "off"].contains word then .ok false
  else .fault .unreadableBool

/-- A float counts as the integer that it equals, if that lies strictly inside the long range. -/
def flagOfFloat (x : Binary64) : Checked Bool :=
  match x.toInt? with
  | some n => if -longBound < n then flagOfInt n else .fault .notBool
  | none => .fault .notBool

def checkFlag : Ref → Checked Bool
  | .scalar (.bool b) => .ok b
  | .scalar (.int n) => flagOfInt n
  | .scalar (.float x _) => flagOfFloat x
  | .scalar (.text t) => flagOfText t
  | .scalar (.octets content) => match decodeUtf8 content with
    | .ok t => flagOfText t
    | .error _ => .fault .unreadableBool
  | _ => .fault .notBool

def checkNumber : Ref → Checked Binary64
  | .scalar (.float x _) => .ok x
  | .scalar (.int n) => match Binary64.ofInt? n with
    | some x => .ok x
    | none => .fault .notNumber
  | .scalar (.bool b) => match Binary64.ofInt? (if b then 1 else 0) with
    | some x => .ok x
    | none => .fault .notNumber
  | .scalar (.text t) => match Binary64.ofPlainText? t with
    | some x => .ok x
    | none => .fault .unreadableNumber
  | .scalar (.octets content) => match decodeUtf8 content with
    | .ok t => match Binary64.ofPlainText? t with
      | some x => .ok x
      | none => .fault .unreadableNumber
    | .error _ => .fault .unreadableNumber
  | _ => .fault .notNumber

def checkKind : Ref → Checked CredentialKind
  | .scalar (.member (.kind k)) => .ok k
  | .scalar (.text t) => match CredentialKind.ofWire? t with
    | some k => .ok k
    | none => .fault (.notChoice (CredentialKind.all.map (·.wire)))
  | _ => .fault (.notChoice (CredentialKind.all.map (·.wire)))

def checkActorKind : Ref → Checked ActorKind
  | .scalar (.member (.actorKind k)) => .ok k
  | .scalar (.text t) => match ActorKind.ofWire? t with
    | some k => .ok k
    | none => .fault (.notChoice (ActorKind.all.map (·.wire)))
  | _ => .fault (.notChoice (ActorKind.all.map (·.wire)))

def checkOperation : Ref → Checked Operation
  | .scalar (.member (.operation o)) => .ok o
  | .scalar (.text t) => match Operation.ofWire? t with
    | some o => .ok o
    | none => .fault (.notChoice (Operation.all.map (·.wire)))
  | _ => .fault (.notChoice (Operation.all.map (·.wire)))

end Store

namespace Checked

variable {α : Type}

/-- A field that must be given. -/
def required (fields : List (String × Ref)) (name : String) (check : Ref → Checked α) :
    Checked α :=
  under (.field name) <| match fields.lookup name with
    | some r => check r
    | none => .fault .missing

/-- A field with a default. -/
def optional (fields : List (String × Ref)) (name : String) (default : α)
    (check : Ref → Checked α) : Checked α :=
  match fields.lookup name with
  | some r => (check r).under (.field name)
  | none => .ok default

end Checked

end CredentialWrite
