/-!
# Faults of given fields

What is wrong with the fields that something is made from, and where: the path to a fault names
fields and places in tuples. All faults of one object are reported together, in the order of its
fields; `both` collects them.
-/

namespace CredentialWrite

inductive PathStep where
  | field (name : String)
  | index (n : Nat)
  deriving DecidableEq

inductive FaultKind where
  | missing
  | notText
  | notUnicode
  | emptyText
  | notBool
  | unreadableBool
  | notNumber
  | unreadableNumber
  | notChoice (choices : List String)
  | notRecord (className : String)
  | notTuple
  | emptyTuple
  | noCertificate
  | noKey
  | frozen
  deriving DecidableEq

structure Fault where
  path : List PathStep
  kind : FaultKind
  deriving DecidableEq

/-- Why an object of a class could not be made. -/
structure ValidationFailure where
  title : String
  faults : List Fault
  deriving DecidableEq

namespace FaultKind

def code : FaultKind → String
  | missing => "missing"
  | notText => "string_type"
  | notUnicode => "string_unicode"
  | emptyText => "string_too_short"
  | notBool => "bool_type"
  | unreadableBool => "bool_parsing"
  | notNumber => "float_type"
  | unreadableNumber => "float_parsing"
  | notChoice _ => "enum"
  | notRecord _ => "model_type"
  | notTuple => "tuple_type"
  | emptyTuple => "too_short"
  | noCertificate => "value_error"
  | noKey => "value_error"
  | frozen => "frozen_instance"

/-- Quoted choices with commas, and `or` before the last. -/
def choiceText : List String → String
  | [] => ""
  | [last] => "'" ++ last ++ "'"
  | [first, last] => "'" ++ first ++ "' or '" ++ last ++ "'"
  | first :: rest => "'" ++ first ++ "', " ++ choiceText rest

def message : FaultKind → String
  | missing => "Field required"
  | notText => "Input should be a valid string"
  | notUnicode => "Input should be a valid string, unable to parse raw data as a unicode string"
  | emptyText => "String should have at least 1 character"
  | notBool => "Input should be a valid boolean"
  | unreadableBool => "Input should be a valid boolean, unable to interpret input"
  | notNumber => "Input should be a valid number"
  | unreadableNumber => "Input should be a valid number, unable to parse string as a number"
  | notChoice choices => "Input should be " ++ choiceText choices
  | notRecord className => "Input should be a valid dictionary or instance of " ++ className
  | notTuple => "Input should be a valid tuple"
  | emptyTuple => "Tuple should have at least 1 item after validation, not 0"
  | noCertificate => "Value error, one of certificate or ca must be provided"
  | noKey => "Value error, one of public_key or private_key must be provided"
  | frozen => "Instance is frozen"

end FaultKind

namespace ValidationFailure

/-- The count of faults and the class. -/
def message (e : ValidationFailure) : String :=
  let count := e.faults.length
  toString count ++ (if count = 1 then " validation error for " else " validation errors for ") ++
    e.title

end ValidationFailure

/-- A result, or all faults that keep it from being made. -/
abbrev Checked (α : Type) := Except (List Fault) α

namespace Checked

variable {α β : Type}

def fault (kind : FaultKind) : Checked α := .error [⟨[], kind⟩]

/-- The faults of a part, with the step to that part. -/
def under (step : PathStep) : Checked α → Checked α
  | .ok a => .ok a
  | .error faults => .error (faults.map fun f => { f with path := step :: f.path })

def both : Checked α → Checked β → Checked (α × β)
  | .ok a, .ok b => .ok (a, b)
  | .error e, .ok _ => .error e
  | .ok _, .error f => .error f
  | .error e, .error f => .error (e ++ f)

/-- All results in order, or all faults under their places from `place` on. -/
def all (place : Nat) : List (Checked α) → Checked (List α)
  | [] => .ok []
  | c :: rest => (both (c.under (.index place)) (all (place + 1) rest)).map fun (a, as) => a :: as

@[simp] theorem under_ok (step : PathStep) (a : α) : under step (.ok a) = .ok a := rfl

@[simp] theorem both_ok (a : α) (b : β) : both (.ok a) (.ok b) = .ok (a, b) := rfl

end Checked

end CredentialWrite
