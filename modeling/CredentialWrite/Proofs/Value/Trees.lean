import CredentialWrite.Store.Comparison

/-!
# Finite trees

Values without iterators, without other objects and without containers inside themselves. Keys of
mappings and elements of sets are scalars, tuples of scalars or records, no two of them equal.
-/

namespace CredentialWrite.Value

variable {x : Value}

inductive IsKey : Value → Prop
  | scalar (s : Scalar) : IsKey (.scalar s)
  | tuple (a : Address) (items : List Scalar) : IsKey (.sequence a .tuple (items.map .scalar))
  | record (a : Address) (r : Record) : IsKey (.record a r)

inductive IsTree : Value → Prop
  | scalar (s : Scalar) : IsTree (.scalar s)
  | buffer (a : Address) (content : List UInt8) : IsTree (.buffer a content)
  | sequence (a : Address) (shape : SequenceShape) {items : List Value}
      (h : ∀ x ∈ items, IsTree x) : IsTree (.sequence a shape items)
  | set (a : Address) {items : List Value} (h : ∀ x ∈ items, IsKey x)
      (distinct : items.Pairwise fun x y => x.same y = false) : IsTree (.set a items)
  | mapping (a : Address) (readOnly : Bool) {entries : List (Value × Value)}
      (keys : ∀ e ∈ entries, IsKey e.1)
      (distinct : entries.Pairwise fun e f => e.1.same f.1 = false)
      (h : ∀ e ∈ entries, IsTree e.2) : IsTree (.mapping a readOnly entries)
  | record (a : Address) (r : Record) : IsTree (.record a r)
  | request (a : Address) {q : WriteRequest CredentialName Permission Value}
      (h : IsTree q.value) : IsTree (.request a q)

theorem itemsHaveLoop_eq_false {items : List Value} (h : ∀ x ∈ items, x.hasLoop = false) :
    itemsHaveLoop items = false := by
  induction items with
  | nil => rfl
  | cons x rest ih =>
    rw [itemsHaveLoop, h x List.mem_cons_self, ih fun y hy => h y (List.mem_cons_of_mem x hy)]
    rfl

theorem entriesHaveLoop_eq_false {entries : List (Value × Value)}
    (h : ∀ e ∈ entries, e.1.hasLoop = false ∧ e.2.hasLoop = false) :
    entriesHaveLoop entries = false := by
  induction entries with
  | nil => rfl
  | cons e rest ih =>
    obtain ⟨hk, hv⟩ := h e List.mem_cons_self
    rw [entriesHaveLoop, hk, hv, ih fun f hf => h f (List.mem_cons_of_mem e hf)]
    rfl

theorem IsKey.hasLoop (h : IsKey x) : x.hasLoop = false := by
  cases h with
  | scalar s => rfl
  | tuple a items =>
    refine itemsHaveLoop_eq_false fun x hx => ?_
    obtain ⟨s, -, rfl⟩ := List.mem_map.mp hx
    rfl
  | record a r => rfl

theorem IsTree.hasLoop (h : IsTree x) : x.hasLoop = false := by
  induction h with
  | scalar s => rfl
  | buffer a content => rfl
  | sequence a shape h ih => exact itemsHaveLoop_eq_false ih
  | set a h distinct => exact itemsHaveLoop_eq_false fun x hx => (h x hx).hasLoop
  | mapping a readOnly keys distinct h ih =>
    exact entriesHaveLoop_eq_false fun e he => ⟨(keys e he).hasLoop, ih e he⟩
  | record a r => rfl
  | request a h ih => exact ih

end CredentialWrite.Value
