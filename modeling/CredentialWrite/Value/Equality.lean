import CredentialWrite.Value.Basic

/-!
# Equality of values

Numbers are compared by value whatever their types, so `1`, `true` and `1.0` are equal. Octets and
a buffer are equal by content, a read-only mapping equals a mapping with equal entries, and the
order of entries and of set elements does not count; a list never equals a tuple. Inside
containers and records a float is also equal to itself when it is no number: `same` is this
relation, and `equal` differs from it on floats alone.
-/

namespace CredentialWrite

inductive Number where
  | integer (n : Int)
  | float (x : Binary64)

namespace Number

def equal : Number → Number → Bool
  | integer a, integer b => a = b
  | integer a, float y => y.equalInt a
  | float x, integer b => x.equalInt b
  | float x, float y => x.equal y

theorem equal_comm (a b : Number) : equal a b = equal b a := by
  cases a <;> cases b <;> simp [equal, eq_comm, Binary64.equal_comm]

end Number

namespace Scalar

def number? : Scalar → Option Number
  | bool b => some (.integer (if b then 1 else 0))
  | int n => some (.integer n)
  | float x _ => some (.float x)
  | _ => .none

def equal (s t : Scalar) : Bool :=
  match s.number?, t.number? with
  | some a, some b => a.equal b
  | .none, .none => s = t
  | _, _ => false

/-- Equality inside containers. -/
def same (s t : Scalar) : Bool := s = t || s.equal t

@[simp] theorem same_refl (s : Scalar) : same s s = true := by simp [same]

theorem equal_comm (s t : Scalar) : equal s t = equal t s := by
  unfold equal
  cases s.number? <;> cases t.number? <;> simp [Number.equal_comm, eq_comm]

theorem same_comm (s t : Scalar) : same s t = same t s := by
  simp [same, equal_comm s t, eq_comm]

end Scalar

namespace Record

def same : Record → Record → Bool
  | name a, name b => a.same b
  | actor a, actor b => a = b
  | permission p, permission q => p = q
  | credential c, credential d => c.same d
  | _, _ => false

@[simp] theorem same_refl (r : Record) : same r r = true := by cases r <;> simp [same]

end Record

namespace Value

mutual

def same : Value → Value → Bool
  | scalar s, scalar t => s.same t
  | scalar (.octets a), buffer _ b => a = b
  | buffer _ a, scalar (.octets b) => a = b
  | buffer _ a, buffer _ b => a = b
  | sequence _ shape xs, sequence _ shape' ys => shape = shape' && sameItems xs ys
  | set _ xs, set _ ys => xs.length = ys.length && itemsWithin xs ys
  | mapping _ _ es, mapping _ _ fs => es.length = fs.length && entriesWithin es fs
  | iterator a _ _, iterator b _ _ => a = b
  | record _ r, record _ r' => r.same r'
  | request _ ⟨_, overwrite, _, name, kind, value, permissions, _⟩, request _ r =>
    overwrite = r.overwrite && name.same r.name && kind = r.kind && same value r.value &&
      permissions = r.permissions
  | object a _, object b _ => a = b
  | loop a _, y => y.address? = some a
  | x, loop b _ => x.address? = some b
  | _, _ => false
termination_by structural x => x

def sameItems : List Value → List Value → Bool
  | [], [] => true
  | x :: xs, y :: ys => same x y && sameItems xs ys
  | _, _ => false
termination_by structural x => x

/-- Every element is the same as one of the others. -/
def itemsWithin : List Value → List Value → Bool
  | [], _ => true
  | x :: xs, ys => ys.any (same x) && itemsWithin xs ys
termination_by structural x => x

/-- Every entry has one with the same key and the same value among the others. -/
def entriesWithin : List (Value × Value) → List (Value × Value) → Bool
  | [], _ => true
  | (k, v) :: es, fs => fs.any (fun f => same k f.1 && same v f.2) && entriesWithin es fs
termination_by structural x => x

end

/-- Equality of two values on their own. -/
def equal : Value → Value → Bool
  | scalar s, scalar t => s.equal t
  | x, y => x.same y

/-- The value of a key. -/
def lookup (key : Value) : List (Value × Value) → Option Value
  | [] => none
  | (k, v) :: rest => if k.same key then some v else lookup key rest

/-- Puts an entry at the end; an entry with the same key keeps its place and key. -/
def put (entries : List (Value × Value)) (key value : Value) : List (Value × Value) :=
  match entries with
  | [] => [(key, value)]
  | (k, v) :: rest => if k.same key then (k, value) :: rest else (k, v) :: put rest key value

example : same (.sequence 0 .list [.scalar (.int 1), .scalar (.bool false)])
    (.sequence 1 .list [.scalar (.float (Binary64.ofRatio false 1 1) 0), .scalar (.int 0)]) =
    true := by decide +kernel

example : same (.mapping 0 false [(.scalar (.text "a"), .scalar .none)])
    (.mapping 1 true [(.scalar (.text "a"), .scalar .none)]) = true := by decide +kernel

end Value

end CredentialWrite
