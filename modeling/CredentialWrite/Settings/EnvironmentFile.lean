import CredentialWrite.Text.Split

/-!
# Files of settings

One binding a line: a key, an equals sign and a value. A key may follow `export` or stand in single
quotes; a value may stand in either quotes, with escapes, and then may span lines. Otherwise it
ends at a `#` after a blank. A key alone is bound to nothing, and a line that cannot be read is
passed over. A value may refer to others as `${NAME}` or, with a default, as `${NAME:-text}`. A
byte order mark before the first line does not count.
-/

namespace CredentialWrite.EnvironmentFile

open Text

def isLineEnd (c : Char) : Bool := c = '\n' || c = '\r'

/-- A blank within a line. -/
def isInlineBlank (c : Char) : Bool := isBlank c && !isLineEnd c

/-- Every way to end a line becomes a line feed. -/
def unifyLines : List Char → List Char
  | '\r' :: '\n' :: rest => '\n' :: unifyLines rest
  | '\r' :: rest => '\n' :: unifyLines rest
  | c :: rest => c :: unifyLines rest
  | [] => []

/-- The text after a byte order mark. -/
def withoutMark : List Char → List Char
  | '\ufeff' :: rest => rest
  | cs => cs

def skipExport (cs : List Char) : List Char :=
  match cs with
  | 'e' :: 'x' :: 'p' :: 'o' :: 'r' :: 't' :: c :: rest =>
    if isInlineBlank c then rest.dropWhile isInlineBlank else cs
  | _ => cs

def isKeyChar (c : Char) : Bool := c != '=' && c != '#' && !isBlank c

/-- A key, or none on a line of comment. -/
def readKey? : List Char → Option (Option String × List Char)
  | '#' :: rest => some (none, '#' :: rest)
  | '\'' :: rest =>
    match rest.takeWhile (· != '\''), rest.dropWhile (· != '\'') with
    | c :: key, _ :: rest => some (some (String.ofList (c :: key)), rest)
    | _, _ => none
  | cs =>
    match cs.takeWhile isKeyChar with
    | [] => none
    | key => some (some (String.ofList key), cs.dropWhile isKeyChar)

/-- The text up to a closing quote. A backslash keeps the character after it from closing. -/
def readQuoted? (quote : Char) : List Char → Option (List Char × List Char)
  | [] => none
  | ['\\'] => none
  | '\\' :: c :: rest =>
    (readQuoted? quote rest).map fun (text, rest) => ('\\' :: c :: text, rest)
  | c :: rest =>
    if c = quote then some ([], rest)
    else (readQuoted? quote rest).map fun (text, rest) => (c :: text, rest)

def unescapeSingle : List Char → List Char
  | '\\' :: c :: rest =>
    if c = '\\' || c = '\'' then c :: unescapeSingle rest
    else '\\' :: unescapeSingle (c :: rest)
  | c :: rest => c :: unescapeSingle rest
  | [] => []

def escapedChar? : Char → Option Char
  | '\\' => some '\\'
  | '\'' => some '\''
  | '"' => some '"'
  | 'a' => some '\x07'
  | 'b' => some '\x08'
  | 'f' => some '\x0c'
  | 'n' => some '\n'
  | 'r' => some '\r'
  | 't' => some '\t'
  | 'v' => some '\x0b'
  | _ => none

def unescapeDouble : List Char → List Char
  | '\\' :: c :: rest => match escapedChar? c with
    | some e => e :: unescapeDouble rest
    | none => '\\' :: unescapeDouble (c :: rest)
  | c :: rest => c :: unescapeDouble rest
  | [] => []

/-- The text before a `#` that follows a blank. -/
def dropComment : List Char → List Char
  | [] => []
  | c :: rest =>
    if isBlank c && (rest.dropWhile isBlank).head? = some '#' then [] else c :: dropComment rest

def trim (cs : List Char) : List Char :=
  ((cs.dropWhile isBlank).reverse.dropWhile isBlank).reverse

/-- The value after an equals sign. A value without quotes ends with its line. -/
def readValue? (cs : List Char) : Option (List Char × List Char) :=
  match cs.dropWhile isInlineBlank with
  | '\'' :: rest => (readQuoted? '\'' rest).map fun (text, rest) => (unescapeSingle text, rest)
  | '"' :: rest => (readQuoted? '"' rest).map fun (text, rest) => (unescapeDouble text, rest)
  | _ => some (trim (dropComment (cs.takeWhile (!isLineEnd ·))), cs.dropWhile (!isLineEnd ·))

/-- What follows the comment and the end of a line. -/
def endLine? (cs : List Char) : Option (List Char) :=
  let cs := match cs.dropWhile isInlineBlank with
    | '#' :: rest => rest.dropWhile (!isLineEnd ·)
    | rest => rest
  match cs.dropWhile isInlineBlank with
  | [] => some []
  | c :: rest => if isLineEnd c then some rest else none

structure Binding where
  key : String
  value : Option String

/-- A failed reading, with the text from where it stopped. -/
structure Stopped where
  rest : List Char

def readAssignment (cs : List Char) : Except Stopped (Option (List Char) × List Char) :=
  match cs.dropWhile isInlineBlank with
  | '=' :: rest =>
    match readValue? rest with
    | some (value, rest) => .ok (some value, rest)
    | none => .error ⟨rest.dropWhile isInlineBlank⟩
  | rest => .ok (none, rest)

/-- One binding from the start of a line that is not blank. -/
def readBinding (cs : List Char) : Except Stopped (Option Binding × List Char) := do
  let cs := skipExport cs
  match readKey? cs with
  | none => throw ⟨cs⟩
  | some (key, rest) =>
    let (value, rest) ← readAssignment rest
    match endLine? rest with
    | none => throw ⟨rest⟩
    | some rest => return (key.map fun key => ⟨key, value.map String.ofList⟩, rest)

/-- Reads at most `fuel` lines. -/
def readLines : Nat → List Char → List Binding
  | 0, _ => []
  | fuel + 1, cs =>
    match cs.dropWhile isBlank with
    | [] => []
    | c :: rest => match readBinding (c :: rest) with
      | .ok (some binding, rest) => binding :: readLines fuel rest
      | .ok (none, rest) => readLines fuel rest
      | .error stopped => readLines fuel ((stopped.rest.dropWhile (!isLineEnd ·)).drop 1)

/-- The text of a value with the references to other names replaced. -/
def resolve (lookup : String → Option (Option String)) : Nat → List Char → List Char
  | 0, cs => cs
  | _, [] => []
  | fuel + 1, '$' :: '\x7b' :: rest =>
    let name := rest.takeWhile fun c => c != '\x7d' && c != ':'
    let value (absent : List Char) : List Char :=
      match lookup (String.ofList name) with
      | some (some value) => value.toList
      | some none => []
      | none => absent
    match rest.drop name.length with
    | '\x7d' :: after => value [] ++ resolve lookup fuel after
    | ':' :: '-' :: more =>
      match more.dropWhile (· != '\x7d') with
      | _ :: after => value (more.takeWhile (· != '\x7d')) ++ resolve lookup fuel after
      | [] => '$' :: '\x7b' :: resolve lookup fuel rest
    | _ => '$' :: '\x7b' :: resolve lookup fuel rest
  | fuel + 1, c :: rest => c :: resolve lookup fuel rest

/-- Puts a binding at the end; a key that is bound already keeps its place. -/
def put (bindings : List (String × Option String)) (key : String) (value : Option String) :
    List (String × Option String) :=
  match bindings with
  | [] => [(key, value)]
  | (k, v) :: rest => if k = key then (k, value) :: rest else (k, v) :: put rest key value

/-- The bindings of a file, in the order of their keys; a name refers to the binding above, or else
to the environment. -/
def read (environment : List (String × String)) (text : String) :
    List (String × Option String) :=
  let cs := unifyLines (withoutMark text.toList)
  (readLines (cs.length + 1) cs).foldl (fun done binding =>
    let lookup (name : String) : Option (Option String) :=
      match done.lookup name with
      | some value => some value
      | none => (environment.lookup name).map some
    let resolved := binding.value.map fun value =>
      String.ofList (resolve lookup (value.length + 1) value.toList)
    put done binding.key resolved) []

end CredentialWrite.EnvironmentFile
