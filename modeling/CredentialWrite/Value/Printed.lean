import CredentialWrite.Binary64.Layout
import CredentialWrite.Text.Quoted
import CredentialWrite.Value.Basic

/-!
# Printed values

Two texts of a value: `printed` is unambiguous and quotes its texts, `shown` is what stands in a
message. A record prints its class with its fields by name. A container found inside itself prints
as its brackets around three dots.
-/

namespace CredentialWrite

open Text

def commaSeparated (parts : List String) : String := ", ".intercalate parts

/-- Fields by name, each after its name and an equals sign. -/
def namedFields (fields : List (String × String)) : List String :=
  fields.map fun field => field.1 ++ "=" ++ field.2

def printedRecord (className : String) (fields : List (String × String)) : String :=
  className ++ "(" ++ commaSeparated (namedFields fields) ++ ")"

def shownRecord (fields : List (String × String)) : String := " ".intercalate (namedFields fields)

def braced (content : String) : String := "\x7b" ++ content ++ "\x7d"

def printedTuple : List String → String
  | [item] => "(" ++ item ++ ",)"
  | items => "(" ++ commaSeparated items ++ ")"

namespace Member

def shown (m : Member) : String := m.className ++ "." ++ m.label

def printed (m : Member) : String := "<" ++ m.shown ++ ": " ++ quoted m.wire ++ ">"

end Member

namespace Scalar

def printed : Scalar → String
  | none => "None"
  | bool true => "True"
  | bool false => "False"
  | int n => integerText n
  | float x _ => x.toText .plain
  | text s => quoted s
  | octets content => quotedOctets content
  | member m => m.printed

def shown : Scalar → String
  | text s => s
  | member m => m.shown
  | s => s.printed

end Scalar

namespace Slot

def printed (s : Slot) : String :=
  match s.content? with
  | some t => quoted t
  | none => "None"

end Slot

namespace Actor

def fieldTexts (a : Actor) : List (String × String) :=
  [("type", (Member.actorKind a.kind).printed), ("id", quoted a.id)]

def printed (a : Actor) : String := printedRecord "Actor" a.fieldTexts

end Actor

namespace Permission

def fieldTexts (p : Permission) : List (String × String) :=
  [("actor", p.actor.printed),
    ("operations", printedTuple (p.operations.map fun o => (Member.operation o).printed))]

def printed (p : Permission) : String := printedRecord "AdditionalPermission" p.fieldTexts

end Permission

namespace CredentialName

def printed (n : CredentialName) : String :=
  printedRecord n.scheme.className [("name", quoted n.path)]

end CredentialName

namespace Record

def fieldTexts : Record → List (String × String)
  | name n => [("name", quoted n.path)]
  | actor a => a.fieldTexts
  | permission p => p.fieldTexts
  | credential c => c.fields.map fun field => (field.1, field.2.printed)

def printed (r : Record) : String := printedRecord r.className r.fieldTexts

/-- Names show as their path and actors as their identity. -/
def shown : Record → String
  | name n => n.path
  | actor a => a.identity
  | r => shownRecord r.fieldTexts

end Record

namespace WriteRequest

/-- The fields of a request, given the text of its value. -/
def fieldTexts {α : Type} (r : WriteRequest CredentialName Permission α) (value : String) :
    List (String × String) :=
  [("overwrite", (Scalar.bool r.overwrite).printed), ("credential_name", r.name.printed),
    ("value_type", (Member.kind r.kind).printed), ("value", value),
    ("additional_permissions", printedTuple (r.permissions.map Permission.printed))]

end WriteRequest

namespace ContainerShape

def printedLoop : ContainerShape → String
  | list => "[...]"
  | tuple => "(...)"
  | set => "set(...)"
  | mapping => braced "..."
  | readOnlyMapping => "mappingproxy(" ++ braced "..." ++ ")"

end ContainerShape

namespace Value

mutual

def printed : Value → String
  | scalar s => s.printed
  | buffer _ content => "bytearray(" ++ quotedBuffer content ++ ")"
  | sequence _ .list items => "[" ++ commaSeparated (printedItems items) ++ "]"
  | sequence _ .tuple items => printedTuple (printedItems items)
  | set _ [] => "set()"
  | set _ items => braced (commaSeparated (printedItems items))
  | mapping _ false entries => braced (commaSeparated (printedEntries entries))
  | mapping _ true entries =>
    "mappingproxy(" ++ braced (commaSeparated (printedEntries entries)) ++ ")"
  | iterator _ _ _ => "<list_iterator object>"
  | record _ r => r.printed
  | request _ ⟨declared, overwrite, og, name, kind, value, permissions, pg⟩ =>
    printedRecord declared.className
      (WriteRequest.fieldTexts ⟨declared, overwrite, og, name, kind, (), permissions, pg⟩
        (printed value))
  | object _ c => "<" ++ c.qualifiedName ++ " object>"
  | loop _ shape => shape.printedLoop

def printedItems : List Value → List String
  | [] => []
  | x :: rest => printed x :: printedItems rest

def printedEntries : List (Value × Value) → List String
  | [] => []
  | (k, v) :: rest => (printed k ++ ": " ++ printed v) :: printedEntries rest

end

/-- A read-only mapping shows like any other. -/
def shown : Value → String
  | scalar s => s.shown
  | mapping _ _ entries => braced (commaSeparated (printedEntries entries))
  | record _ r => r.shown
  | request _ r => shownRecord (r.fieldTexts r.value.printed)
  | v => v.printed

end Value

end CredentialWrite
