import CredentialWrite.Text.Digits
import CredentialWrite.Text.Split

/-!
# Hosts

Which hosts look like addresses of either Internet protocol, and which of these are valid. A host
of four runs of digits with dots between them has to be an address of the fourth version; a host in
brackets has to be an address of the sixth.
-/

namespace CredentialWrite.Url

open Text

/-- Four runs of digits with dots between them. -/
def looksDotted (cs : List Char) : Bool :=
  let parts := split '.' cs
  parts.length = 4 && parts.all fun part => !part.isEmpty && part.all isDigit

/-- A number below 256 without leading zeros. -/
def isOctetText (cs : List Char) : Bool :=
  !cs.isEmpty && cs.length ≤ 3 && cs.all isDigit && (cs = ['0'] || cs.head? != some '0') &&
    digitsValue cs < 256

def isIPv4 (cs : List Char) : Bool :=
  let parts := split '.' cs
  parts.length = 4 && parts.all isOctetText

def isGroupText (cs : List Char) : Bool :=
  !cs.isEmpty && cs.length ≤ 4 && cs.all fun c => (hexValue? c).isSome

/-- A dotted address at the end stands for two groups. -/
def expandDotted? (parts : List (List Char)) : Option (List (List Char)) :=
  match parts.getLast? with
  | none => none
  | some last =>
    if last.contains '.' then
      if isIPv4 last then some (parts.dropLast ++ [['0'], ['0']]) else none
    else some parts

/-- The places inside of the list whose part is empty. -/
def emptyInside (parts : List (List Char)) : List Nat :=
  (List.range parts.length).filter fun i =>
    0 < i && i + 1 < parts.length && (parts.getD i []).isEmpty

/-- The groups at one side of the gap; the outermost may be empty when it is the only one. -/
def areSideGroups (outerIsEmpty : Bool) (groups : List (List Char)) : Bool :=
  if outerIsEmpty then groups.length = 1 else groups.all isGroupText

def areGroups (parts : List (List Char)) : Bool :=
  match emptyInside parts with
  | [] => parts.length = 8 && parts.all isGroupText
  | [gap] =>
    let high := parts.take gap
    let low := parts.drop (gap + 1)
    let outerHigh := (high.headD []).isEmpty
    let outerLow := (low.getLastD []).isEmpty
    let count (outer : Bool) (side : List (List Char)) := side.length - if outer then 1 else 0
    areSideGroups outerHigh high && areSideGroups outerLow low &&
      count outerHigh high + count outerLow low < 8
  | _ => false

/-- An address of the sixth version, with an optional zone after a percent sign. -/
def isIPv6 (cs : List Char) : Bool :=
  let (address, zone) := cut '%' cs
  let zoneIsFine := match zone with
    | some zone => !zone.isEmpty && !zone.contains '%'
    | none => true
  let parts := split ':' address
  zoneIsFine && !cs.contains '/' && 3 ≤ parts.length &&
    match expandDotted? parts with
    | some parts => parts.length ≤ 9 && areGroups parts
    | none => false

example : isIPv6 [':', ':', '1'] = true ∧ isIPv6 ['1', ':', ':', '2', ':', ':', '3'] = false := by
  decide +kernel

example : looksDotted ['1', '0', '.', '0', '.', '0', '.', '1'] = true := by decide +kernel

end CredentialWrite.Url
