import CredentialWrite.Proofs.Store.Viewing
import CredentialWrite.Store.Update

/-!
# Placing trees

A tree that is placed stands in its store with every container after its parts, so it is seen
again as it was, whatever is placed after it.
-/

namespace CredentialWrite.Store

variable {s t : Store}

mutual

theorem extends_place (s : Store) : ∀ d : Draft, s.Extends (s.place d).2
  | .scalar _ | .existing _ => .refl s
  | .delayed _ => extends_alloc s _
  | .sequence _ items => (extends_placeItems s items).trans (extends_alloc _ _)
  | .set items => (extends_placeItems s items).trans (extends_alloc _ _)
  | .mapping entries => (extends_placeEntries s entries).trans (extends_alloc _ _)

theorem extends_placeItems (s : Store) : ∀ ds : List Draft, s.Extends (s.placeItems ds).2
  | [] => .refl s
  | d :: rest => (extends_place s d).trans (extends_placeItems _ rest)

theorem extends_placeEntries (s : Store) :
    ∀ es : List (Draft × Draft), s.Extends (s.placeEntries es).2
  | [] => .refl s
  | (k, v) :: rest =>
    ((extends_place s k).trans (extends_place _ v)).trans (extends_placeEntries _ rest)

end

mutual

/-- A tree that stands in a store below an address, every container after its parts. -/
inductive Placed (s : Store) : Address → Ref → WireJson → Prop
  | none (m : Address) : Placed s m .none .null
  | bool (m : Address) (b : Bool) : Placed s m (.bool b) (.bool b)
  | int (m : Address) (n : Int) : Placed s m (.scalar (.int n)) (.int n)
  | number (m : Address) (x : Binary64) (copy : Nat) :
      Placed s m (.scalar (.float x copy)) (.number x)
  | text (m : Address) (t : String) : Placed s m (.text t) (.text t)
  | array {m a : Address} {rs : List Ref} {js : List WireJson} (ha : a < m)
      (hc : s.cell? a = some (.sequence .list rs)) (h : PlacedItems s a rs js) :
      Placed s m (.address a) (.array js)
  | object {m a : Address} {rs : List (Ref × Ref)} {fs : List (String × WireJson)} (ha : a < m)
      (hc : s.cell? a = some (.mapping false rs)) (h : PlacedEntries s a rs fs) :
      Placed s m (.address a) (.object fs)

inductive PlacedItems (s : Store) : Address → List Ref → List WireJson → Prop
  | nil (m : Address) : PlacedItems s m [] []
  | cons {m : Address} {r : Ref} {j : WireJson} {rs : List Ref} {js : List WireJson}
      (h : Placed s m r j) (hs : PlacedItems s m rs js) : PlacedItems s m (r :: rs) (j :: js)

inductive PlacedEntries (s : Store) :
    Address → List (Ref × Ref) → List (String × WireJson) → Prop
  | nil (m : Address) : PlacedEntries s m [] []
  | cons (key : String) {m : Address} {r : Ref} {j : WireJson} {rs : List (Ref × Ref)}
      {fs : List (String × WireJson)} (h : Placed s m r j) (hs : PlacedEntries s m rs fs) :
      PlacedEntries s m ((.text key, r) :: rs) ((key, j) :: fs)

end

mutual

theorem Placed.mono (hx : s.Extends t) {m : Address} {r : Ref} {j : WireJson} :
    Placed s m r j → ∀ {n}, m ≤ n → Placed t n r j
  | .none _, n, _ => .none n
  | .bool _ b, n, _ => .bool n b
  | .int _ i, n, _ => .int n i
  | .number _ x copy, n, _ => .number n x copy
  | .text _ t, n, _ => .text n t
  | .array ha hc h, _, hn =>
    .array (Nat.lt_of_lt_of_le ha hn) (hx _ _ hc) (h.mono hx (Nat.le_refl _))
  | .object ha hc h, _, hn =>
    .object (Nat.lt_of_lt_of_le ha hn) (hx _ _ hc) (h.mono hx (Nat.le_refl _))

theorem PlacedItems.mono (hx : s.Extends t) {m : Address} {rs : List Ref}
    {js : List WireJson} :
    PlacedItems s m rs js → ∀ {n}, m ≤ n → PlacedItems t n rs js
  | .nil _, n, _ => .nil n
  | .cons h hs, _, hn => .cons (h.mono hx hn) (hs.mono hx hn)

theorem PlacedEntries.mono (hx : s.Extends t) {m : Address} {rs : List (Ref × Ref)}
    {fs : List (String × WireJson)} :
    PlacedEntries s m rs fs → ∀ {n}, m ≤ n → PlacedEntries t n rs fs
  | .nil _, n, _ => .nil n
  | .cons key h hs, _, hn => .cons key (h.mono hx hn) (hs.mono hx hn)

end

theorem PlacedItems.alloc {rs : List Ref} {js : List WireJson}
    (h : PlacedItems s s.cells.size rs js) :
    Placed (s.alloc (.sequence .list rs)).2 (s.alloc (.sequence .list rs)).2.cells.size
      (.address s.cells.size) (.array js) := by
  rw [size_alloc]
  exact .array (Nat.lt_succ_self _) (cell?_alloc_self s _)
    (h.mono (extends_alloc s _) (Nat.le_refl _))

theorem PlacedEntries.alloc {rs : List (Ref × Ref)} {fs : List (String × WireJson)}
    (h : PlacedEntries s s.cells.size rs fs) :
    Placed (s.alloc (.mapping false rs)).2 (s.alloc (.mapping false rs)).2.cells.size
      (.address s.cells.size) (.object fs) := by
  rw [size_alloc]
  exact .object (Nat.lt_succ_self _) (cell?_alloc_self s _)
    (h.mono (extends_alloc s _) (Nat.le_refl _))

mutual

theorem placed_place (s : Store) : ∀ j : WireJson,
    Placed (s.place (.ofWire j)).2 (s.place (.ofWire j)).2.cells.size (s.place (.ofWire j)).1 j
  | .null => .none _
  | .bool b => .bool _ b
  | .int n => .int _ n
  | .number x => .number _ x 0
  | .text t => .text _ t
  | .array items => (placedItems_placeItems s items).alloc
  | .object entries => (placedEntries_placeEntries s entries).alloc

theorem placedItems_placeItems (s : Store) : ∀ js : List WireJson,
    PlacedItems (s.placeItems (Draft.ofWireItems js)).2
      (s.placeItems (Draft.ofWireItems js)).2.cells.size
      (s.placeItems (Draft.ofWireItems js)).1 js
  | [] => .nil _
  | j :: rest => by
    have h := placed_place s j
    have hs := placedItems_placeItems (s.place (.ofWire j)).2 rest
    have hx := extends_placeItems (s.place (.ofWire j)).2 (Draft.ofWireItems rest)
    exact .cons (h.mono hx hx.evolves.size_le) hs

theorem placedEntries_placeEntries (s : Store) : ∀ es : List (String × WireJson),
    PlacedEntries (s.placeEntries (Draft.ofWireEntries es)).2
      (s.placeEntries (Draft.ofWireEntries es)).2.cells.size
      (s.placeEntries (Draft.ofWireEntries es)).1 es
  | [] => .nil _
  | (key, j) :: rest => by
    have h := placed_place s j
    have hs := placedEntries_placeEntries (s.place (.ofWire j)).2 rest
    have hx := extends_placeEntries (s.place (.ofWire j)).2 (Draft.ofWireEntries rest)
    exact .cons key (h.mono hx hx.evolves.size_le) hs

end

/-- From a container, all paths to it are below it again. -/
theorem below_path {m a : Address} {path : List Address} (ha : a < m) (hp : ∀ b ∈ path, m ≤ b) :
    a ∉ path ∧ ∀ b ∈ a :: path, a ≤ b := by
  refine ⟨fun hm => Nat.not_le_of_lt ha (hp a hm), List.forall_mem_cons.mpr ⟨Nat.le_refl a, ?_⟩⟩
  intro b hb
  exact Nat.le_of_lt (Nat.lt_of_lt_of_le ha (hp b hb))

mutual

/-- A placed tree is seen as it was, below any path that it does not come back to. -/
theorem Placed.view {m : Address} {r : Ref} {j : WireJson} :
    Placed s m r j → ∀ {v n path}, Native v j → m ≤ n → (∀ a ∈ path, m ≤ a) →
      Native (s.viewBelow n path r) j
  | .none _, _, n, path, _, _, _ => (viewBelow_scalar s n path .none).symm ▸ .none
  | .bool _ b, _, n, path, _, _, _ => (viewBelow_scalar s n path (.bool b)).symm ▸ .bool b
  | .int _ i, _, n, path, _, _, _ => (viewBelow_scalar s n path (.int i)).symm ▸ .int i
  | .number _ x copy, _, n, path, .float _ _ hx, _, _ =>
    (viewBelow_scalar s n path (.float x copy)).symm ▸ .float x copy hx
  | .text _ t, _, n, path, _, _, _ => (viewBelow_scalar s n path (.text t)).symm ▸ .text t
  | .array (a := a) ha hc h, _, n, path, .list _ hv, hn, hp => by
    obtain ⟨k, rfl⟩ : ∃ k, n = a + k + 1 := Nat.exists_eq_add_of_lt (Nat.lt_of_lt_of_le ha hn)
    obtain ⟨hm, hp'⟩ := below_path ha hp
    rw [viewBelow_list hc hm]
    exact .list a (h.view hv (Nat.le_add_right a k) hp')
  | .object (a := a) ha hc h, _, n, path, .mapping _ hv hk, hn, hp => by
    obtain ⟨k, rfl⟩ : ∃ k, n = a + k + 1 := Nat.exists_eq_add_of_lt (Nat.lt_of_lt_of_le ha hn)
    obtain ⟨hm, hp'⟩ := below_path ha hp
    rw [viewBelow_mapping hc hm]
    exact .mapping a (h.view hv (Nat.le_add_right a k) hp') hk

theorem PlacedItems.view {m : Address} {rs : List Ref} {js : List WireJson} :
    PlacedItems s m rs js → ∀ {vs n path}, NativeItems vs js → m ≤ n → (∀ a ∈ path, m ≤ a) →
      NativeItems (rs.map (s.viewBelow n path)) js
  | .nil _, _, _, _, _, _, _ => .nil
  | .cons h hs, _, _, _, .cons k ks, hn, hp => .cons (h.view k hn hp) (hs.view ks hn hp)

theorem PlacedEntries.view {m : Address} {rs : List (Ref × Ref)} {fs : List (String × WireJson)} :
    PlacedEntries s m rs fs → ∀ {es n path}, NativeEntries es fs → m ≤ n →
      (∀ a ∈ path, m ≤ a) →
        NativeEntries (rs.map fun e => (s.viewBelow n path e.1, s.viewBelow n path e.2)) fs
  | .nil _, _, _, _, _, _, _ => .nil
  | .cons key h hs, _, n, path, .cons _ k ks, hn, hp => by
    rw [List.map_cons, Ref.text, viewBelow_scalar]
    exact .cons key (h.view k hn hp) (hs.view ks hn hp)

end

section Items

variable {m : Address} {rs : List (Ref × Ref)} {fs : List (String × WireJson)} {p x : Ref}

theorem same_text (s : Store) (k key : String) :
    s.same (.text k) (.text key) = decide (k = key) := by
  simp [same, view, Ref.text, Value.same, Scalar.same, Scalar.equal, Scalar.number?]

theorem hashFault?_text (s : Store) (key : String) : s.hashFault? (.text key) = none := by
  simp [hashFault?, view, Ref.text, Value.hash]

theorem findEntry?_cons (s : Store) (k key : String) (x : Ref) (rest : List (Ref × Ref)) :
    s.findEntry? ((.text k, x) :: rest) (.text key) =
      if k = key then some x else s.findEntry? rest (.text key) := by
  simp only [ findEntry?, List.find?_cons, same_text]
  by_cases hk : k = key <;> simp [hk]

/-- Under a key of placed entries stands what the tree has there. -/
theorem PlacedEntries.found (key : String) (h : PlacedEntries s m rs fs) :
    Option.Rel (fun x j => Placed s m x j ∧ x ∈ rs.map Prod.snd) ( s.findEntry? rs (.text key))
      (Json.member? key (.object fs)) := by
  induction rs generalizing fs with
  | nil =>
    cases h
    exact .none
  | cons e rest ih =>
    cases h with
    | cons k h hs =>
      rw [ findEntry?_cons, Json.member?_cons]
      split
      · exact .some ⟨h, List.mem_cons_self⟩
      · have later := ih hs
        generalize s.findEntry? rest (.text key) = x, Json.member? key (.object _) = j at later ⊢
        cases later with
        | none => exact .none
        | some h => exact .some ⟨h.1, List.mem_cons_of_mem _ h.2⟩

theorem Placed.item (h : Placed s m p (.object fs)) (key : String) :
    ∃ a rs, p = .address a ∧ s.cell? a = some (.mapping false rs) ∧
      Option.Rel (fun x j => Placed s m x j ∧ x ∈ rs.map Prod.snd) (s.item p (.text key)).toOption
        (Json.member? key (.object fs)) := by
  cases h with
  | @object _ a rs _ ha hc h =>
    have found : (s.item (.address a) (.text key)).toOption = s.findEntry? rs (.text key) := by
      simp only [Store.item, cellOf?, hc, hashFault?_text]
      cases s.findEntry? rs (.text key) <;> rfl
    refine ⟨a, rs, rfl, hc, ?_⟩
    rw [found]
    exact (h.mono (.refl s) (Nat.le_of_lt ha)).found key

theorem Placed.exists_item (h : Placed s m p (.object fs)) {key : String} {j : WireJson}
    (hj : Json.member? key (.object fs) = some j) :
    ∃ x, s.item p (.text key) = .ok x ∧ Placed s m x j := by
  obtain ⟨a, rs, -, -, found⟩ := h.item key
  rw [hj] at found
  cases hx : s.item p (.text key) with
  | error e =>
    rw [hx] at found
    cases found
  | ok x =>
    rw [hx] at found
    cases found with
    | some h => exact ⟨x, rfl, h.1⟩

theorem Placed.of_item (h : Placed s m p (.object fs)) {key : String}
    (hx : s.item p (.text key) = .ok x) :
    ∃ a rs j, p = .address a ∧ s.cell? a = some (.mapping false rs) ∧ x ∈ rs.map Prod.snd ∧
      Json.member? key (.object fs) = some j ∧ Placed s m x j := by
  obtain ⟨a, rs, rfl, hc, found⟩ := h.item key
  rw [hx] at found
  generalize Json.member? key (.object fs) = member at found ⊢
  cases found with
  | some h => exact ⟨a, rs, _, rfl, hc, h.2, rfl, h.1⟩

end Items

/-- The objects made of two native trees have the trees for views. -/
theorem native_view_place {v w : Value} {j k : WireJson} (hv : Native v j) (hw : Native w k) :
    let x := s.place (.ofWire j)
    let y := x.2.place (.ofWire k)
    Native (y.2.view x.1) j ∧ Native (y.2.view y.1) k := by
  have hx := placed_place s j
  have hy := placed_place (s.place (.ofWire j)).2 k
  have he := extends_place (s.place (.ofWire j)).2 (.ofWire k)
  refine ⟨?_, ?_⟩
  · exact (hx.mono he he.evolves.size_le).view hv (size_le_depthBound _) (by simp)
  · exact hy.view hw (size_le_depthBound _) (by simp)

end CredentialWrite.Store
