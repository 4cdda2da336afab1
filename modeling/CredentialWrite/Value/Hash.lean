import CredentialWrite.Value.Equality

/-!
# Hashing values

A hash is built from the hashes of scalars by a combination for sequences and one for unordered
collections, all parameters here. A request hashes its value by content, so that lists and
mappings count as the sequence of their items and the collection of their entries; anywhere else a
container that can change has no hash, and the failure names its class. The hash of a part by its
content is an integer and hashes as one in the whole. A container inside itself has no content to
hash by. Numbers hash by their residue modulo a Mersenne prime.
-/

namespace CredentialWrite

/-- How hashes are made. -/
structure Hashing where
  scalar : Scalar → Int
  sequence : List Int → Int
  collection : List Int → Int
  object : Address → Int

namespace Number

/-- Two to the sixty-first power, less one. -/
def hashModulus : Nat := 2305843009213693951

/-- The residue with the sign of the number; `-1` is set aside and becomes `-2`. -/
def signedHash (negative : Bool) (residue : Nat) : Int :=
  let signed : Int := if negative then -residue else residue
  if signed = -1 then -2 else signed

/-- Halving is a rotation, because twice the sixtieth power of two is one. -/
def powerResidue (exponent : Int) : Nat := Nat.pow 2 (exponent % 61).toNat % hashModulus

def hashInt (n : Int) : Int := signedHash (n < 0) (n.natAbs % hashModulus)

/-- A number as a hash: itself where it fits into a word of 64 bits with a sign, but for `-1`. -/
def wordHash (n : Int) : Int :=
  if -9223372036854775808 ≤ n && n < 9223372036854775808 then (if n = -1 then -2 else n)
  else hashInt n

/-- A NaN hashes by the float that it is. -/
def hashFloat (copy : Nat) : Binary64 → Int
  | .nan => copy
  | .infinity negative => if negative then -314159 else 314159
  | .finite negative significand exponent _ =>
    signedHash negative (significand * powerResidue exponent % hashModulus)

end Number

namespace Hashing

/-- The hash of a text: a polynomial of its characters. -/
def textHash (cs : List Char) : Int :=
  cs.foldl (fun h c => (h * 1000003 + c.toNat) % 2305843009213693951) 17

def scalarHash : Scalar → Int
  | .none => 7
  | .bool b => if b then 1 else 0
  | .int n => Number.hashInt n
  | .float x copy => Number.hashFloat copy x
  | .text s => textHash s.toList
  | .octets content => textHash (content.map fun octet => Char.ofNat octet.toNat)
  | .member m => textHash m.label.toList

def sequenceHash (hs : List Int) : Int :=
  hs.foldl (fun h x => (h * 1000003 + x) % 2305843009213693951) 11

def collectionHash (hs : List Int) : Int := hs.foldr (fun h total => h + total) 0

def standard : Hashing := ⟨scalarHash, sequenceHash, collectionHash, fun a => a⟩

end Hashing

/-- Why a value has no hash: its class has none, or the hash of its content would never end. -/
inductive HashFault where
  | unhashable (className : String)
  | endless
  deriving DecidableEq

namespace Hashing

variable (H : Hashing)

def int (n : Int) : Int := H.scalar (.int n)

def text (s : String) : Int := H.scalar (.text s)

def name (n : CredentialName) : Int := H.text n.path

def kind (k : CredentialKind) : Int := H.scalar (.member (.kind k))

def actor (a : Actor) : Int := H.sequence [H.scalar (.member (.actorKind a.kind)), H.text a.id]

def operations (os : List Operation) : Int :=
  H.sequence (os.map fun o => H.scalar (.member (.operation o)))

def permission (p : Permission) : Int := H.sequence [H.actor p.actor, H.operations p.operations]

def permissions (ps : List Permission) : Int :=
  H.sequence (ps.map fun p => H.int (H.permission p))

def slot (s : Slot) : Int :=
  match s.content? with
  | some t => H.text t
  | none => H.scalar .none

def credential (c : Credential) : Int := H.sequence (c.fields.map fun field => H.slot field.2)

def record : Record → Int
  | .name n => H.name n
  | .actor a => H.actor a
  | .permission p => H.permission p
  | .credential c => H.credential c

/-- The number that a request folds to, before any reduction: each part has a weight that is a
power of thirty-one. -/
def fold (overwrite : Bool) (parts : List Int) : Int :=
  parts.foldl (fun result part => 31 * result + part) (if overwrite then 1 else 0)

end Hashing

namespace Value

mutual

/-- The hash of a value as an element or a key. -/
def hash (H : Hashing) : Value → Except HashFault Int
  | scalar s => .ok (H.scalar s)
  | buffer _ _ => .error (.unhashable "bytearray")
  | sequence _ .list _ => .error (.unhashable "list")
  | sequence _ .tuple items => return H.sequence (← hashItems H items)
  | set _ _ => .error (.unhashable "set")
  | mapping _ false _ => .error (.unhashable "dict")
  | mapping _ true _ => .error (.unhashable "mappingproxy")
  | iterator a _ _ => .ok (H.object a)
  | record _ r => .ok (H.record r)
  | request _ ⟨_, overwrite, _, name, kind, value, permissions, _⟩ => do
    let value ← contentHash H value
    return Number.wordHash
      (Hashing.fold overwrite [H.name name, H.kind kind, value, H.permissions permissions])
  | object a _ => .ok (H.object a)
  | loop _ .tuple => .error .endless
  | loop _ shape => .error (.unhashable shape.className)

def hashItems (H : Hashing) : List Value → Except HashFault (List Int)
  | [] => .ok []
  | x :: rest => return (← hash H x) :: (← hashItems H rest)

/-- The hash of a request's value: containers hash by their content. -/
def contentHash (H : Hashing) : Value → Except HashFault Int
  | sequence _ _ items => return H.sequence ((← contentHashItems H items).map H.int)
  | set _ items => return H.collection ((← contentHashItems H items).eraseDups.map H.int)
  | mapping _ _ entries => return H.collection (← contentHashEntries H entries)
  | scalar s => .ok (H.scalar s)
  | buffer _ _ => .error (.unhashable "bytearray")
  | iterator a _ _ => .ok (H.object a)
  | record _ r => .ok (H.record r)
  | request _ ⟨_, overwrite, _, name, kind, value, permissions, _⟩ => do
    let value ← contentHash H value
    return Number.wordHash
      (Hashing.fold overwrite [H.name name, H.kind kind, value, H.permissions permissions])
  | object a _ => .ok (H.object a)
  | loop _ _ => .error .endless

def contentHashItems (H : Hashing) : List Value → Except HashFault (List Int)
  | [] => .ok []
  | x :: rest => return (← contentHash H x) :: (← contentHashItems H rest)

def contentHashEntries (H : Hashing) : List (Value × Value) → Except HashFault (List Int)
  | [] => .ok []
  | (k, v) :: rest => do
    let v ← contentHash H v
    let k ← hash H k
    return H.sequence [k, H.int v] :: (← contentHashEntries H rest)

end

/-- The number that a request folds to. -/
def requestFold (H : Hashing) (r : WriteRequest CredentialName Permission Value) :
    Except HashFault Int := do
  let value ← contentHash H r.value
  return Hashing.fold r.overwrite [H.name r.name, H.kind r.kind, value, H.permissions r.permissions]

end Value

end CredentialWrite
