import CredentialWrite.Store.Update

/-!
# Comparisons of objects

Two references are to one object or to two; all empty tuples are one. Two objects are equal when
their views are. A container inside itself has no finite view to compare: there the comparison goes
from object to object, an object is equal to itself, and what is not told apart before the limit is
never told apart.
-/

namespace CredentialWrite

/-- Whether there is but one object of a value: nothing, the truth values, the fixed words, the
small integers, and the texts and octets that are empty or one character or octet alone. -/
def Scalar.isShared : Scalar → Bool
  | .none | .bool _ | .member _ => true
  | .int n => -5 ≤ n && n ≤ 256
  | .float _ _ => false
  | .text s => match s.toList with
    | [] => true
    | [c] => c.toNat < 256
    | _ => false
  | .octets content => content.length ≤ 1

namespace Value

mutual

/-- Whether a container inside itself is part of a value. -/
def hasLoop : Value → Bool
  | loop _ _ => true
  | sequence _ _ items => itemsHaveLoop items
  | set _ items => itemsHaveLoop items
  | mapping _ _ entries => entriesHaveLoop entries
  | request _ ⟨_, _, _, _, _, value, _, _⟩ => hasLoop value
  | _ => false

def itemsHaveLoop : List Value → Bool
  | [] => false
  | x :: rest => hasLoop x || itemsHaveLoop rest

def entriesHaveLoop : List (Value × Value) → Bool
  | [] => false
  | (k, v) :: rest => hasLoop k || hasLoop v || entriesHaveLoop rest

end

end Value

/-- Whether a test holds of every item, up to the first where it does not or does not end. -/
def holdsForAll {α : Type} (test : α → Option Bool) : List α → Option Bool
  | [] => some true
  | x :: rest => match test x with
    | some true => holdsForAll test rest
    | other => other

/-- Whether a test holds of the items of two lists in pairs, and neither has more. -/
def holdsInPairs {α : Type} (test : α → α → Option Bool) : List α → List α → Option Bool
  | [], [] => some true
  | x :: xs, y :: ys => match test x y with
    | some true => holdsInPairs test xs ys
    | other => other
  | _, _ => some false

namespace Store

/-- Whether two references are to one object. -/
def identical (s : Store) (r t : Ref) : Bool :=
  let isEmptyTuple (r : Ref) : Bool := match s.cellOf? r with
    | some (.sequence .tuple []) => true
    | _ => false
  r = t || isEmptyTuple r && isEmptyTuple t

/-- The levels after which a comparison is taken to be endless. -/
def comparisonLimit : Nat := 1000

/-- Equality of two objects inside containers; none when the fuel runs out. -/
def compareBelow (s : Store) : Nat → Ref → Ref → Option Bool
  | 0, _, _ => none
  | fuel + 1, r, t =>
    let below := s.compareBelow fuel
    if r = t then some true
    else match s.cellOf? r, s.cellOf? t with
    | some (.sequence .list xs), some (.sequence .list ys) =>
      if xs.length = ys.length then holdsInPairs below xs ys else some false
    | some (.sequence .tuple xs), some (.sequence .tuple ys) => holdsInPairs below xs ys
    | some (.mapping _ es), some (.mapping _ fs) =>
      if es.length = fs.length then
        holdsForAll (fun e => match s.findEntry? fs e.1 with
          | some v => below e.2 v
          | none => some false) es
      else some false
    | some (.request q _), some (.request q' _) =>
      if q.overwrite = q'.overwrite && q.name.content.same q'.name.content && q.kind = q'.kind then
        match below q.value q'.value with
        | some true => some (q.permissions.map Held.content = q'.permissions.map Held.content)
        | other => other
      else some false
    | _, _ => some (s.same r t)

/-- Equality of two objects; none when comparing them would never end. -/
def equal? (s : Store) (r t : Ref) : Option Bool :=
  let x := s.view r
  let y := s.view t
  if x.hasLoop || y.hasLoop then s.compareBelow comparisonLimit r t else some (x.equal y)

end Store

end CredentialWrite
