/-!
# JSON values

Values of JSON as ordered trees: an object is the list of its entries in the order of the text.
Integers are exact; the type of the other numbers is a parameter, so that one tree serves for
numbers and for their texts. `HasUniqueKeys` says that no object names an entry twice.
-/

namespace CredentialWrite

inductive Json (ν : Type) where
  | null
  | bool (b : Bool)
  | int (n : Int)
  | number (x : ν)
  | text (s : String)
  | array (items : List (Json ν))
  | object (entries : List (String × Json ν))
  deriving Inhabited

namespace Json

variable {ν μ : Type}

mutual

/-- Applies a function to the numbers that are not integers. -/
def mapNumber (f : ν → μ) : Json ν → Json μ
  | .null => .null
  | .bool b => .bool b
  | .int n => .int n
  | .number x => .number (f x)
  | .text s => .text s
  | .array items => .array (mapItems f items)
  | .object entries => .object (mapEntries f entries)

def mapItems (f : ν → μ) : List (Json ν) → List (Json μ)
  | [] => []
  | j :: rest => mapNumber f j :: mapItems f rest

def mapEntries (f : ν → μ) : List (String × Json ν) → List (String × Json μ)
  | [] => []
  | (key, j) :: rest => (key, mapNumber f j) :: mapEntries f rest

end

mutual

def HasUniqueKeys : Json ν → Prop
  | .array items => ItemsHaveUniqueKeys items
  | .object entries => (entries.map Prod.fst).Nodup ∧ EntriesHaveUniqueKeys entries
  | _ => True

def ItemsHaveUniqueKeys : List (Json ν) → Prop
  | [] => True
  | j :: rest => HasUniqueKeys j ∧ ItemsHaveUniqueKeys rest

def EntriesHaveUniqueKeys : List (String × Json ν) → Prop
  | [] => True
  | (_, j) :: rest => HasUniqueKeys j ∧ EntriesHaveUniqueKeys rest

end

mutual

/-- How many values stand in each other, a scalar alone being one. -/
def depth : Json ν → Nat
  | .array items => depthOfItems items + 1
  | .object entries => depthOfEntries entries + 1
  | _ => 1

def depthOfItems : List (Json ν) → Nat
  | [] => 0
  | j :: rest => max (depth j) (depthOfItems rest)

def depthOfEntries : List (String × Json ν) → Nat
  | [] => 0
  | (_, j) :: rest => max (depth j) (depthOfEntries rest)

end

/-- Puts an entry at the end; an entry of that key keeps its place and takes the new value. -/
def put (entries : List (String × Json ν)) (key : String) (value : Json ν) :
    List (String × Json ν) :=
  match entries with
  | [] => [(key, value)]
  | (k, v) :: rest => if k = key then (k, value) :: rest else (k, v) :: put rest key value

def member? (key : String) : Json ν → Option (Json ν)
  | .object entries => (entries.find? fun entry => entry.1 = key).map Prod.snd
  | _ => none

theorem member?_cons (k key : String) (j : Json ν) (rest : List (String × Json ν)) :
    member? key (.object ((k, j) :: rest)) =
      if k = key then some j else member? key (.object rest) := by
  rw [member?, member?, List.find?_cons]
  by_cases hk : k = key <;> simp [hk]

theorem mem_of_member? {key : String} {j : Json ν} {entries : List (String × Json ν)}
    (h : member? key (.object entries) = some j) : (key, j) ∈ entries := by
  induction entries with
  | nil => cases h
  | cons entry rest ih =>
    rw [member?_cons] at h
    split at h
    · next hk =>
      cases h
      exact hk ▸ List.mem_cons_self
    · exact List.mem_cons_of_mem entry (ih h)

theorem keys_put (entries : List (String × Json ν)) (key : String) (value : Json ν) :
    (put entries key value).map Prod.fst =
      if key ∈ entries.map Prod.fst then entries.map Prod.fst
      else entries.map Prod.fst ++ [key] := by
  induction entries with
  | nil => simp [put]
  | cons entry rest ih => by_cases h : entry.1 = key <;> grind [put]

end Json

end CredentialWrite
