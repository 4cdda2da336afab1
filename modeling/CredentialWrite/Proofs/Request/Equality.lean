import CredentialWrite.Proofs.Request.History
import CredentialWrite.Proofs.Value.Equivalence
import CredentialWrite.Session.Lookup

/-!
# Equality of requests

Objects that show finite trees are compared by what they show, and the comparison is an equivalence
unless it starts at a float that is no number. A request is no float: two of them are equal exactly
when their flags, the paths of their names, their kinds, their values and their permissions are,
whatever class or type they were declared with.
-/

namespace CredentialWrite.Store

open Value

variable {s : Store} {a b c : Ref} {x y z : Address}
  {p q r : WriteRequest CredentialName Permission Value}

section Trees

variable (ca : (s.view a).IsComparable) (cb : (s.view b).IsComparable)
  (cc : (s.view c).IsComparable) (na : (s.view a).isNan = false) (nb : (s.view b).isNan = false)

include ca cb na

theorem equalOf_trees : s.equalOf a b = .ok ((s.view a).same (s.view b)) := by
  rw [equalOf_of_hasLoop ca.hasLoop cb.hasLoop, equal_eq_same na]

omit cb in
theorem equalOf_self : s.equalOf a a = .ok true := by
  rw [equalOf_trees ca ca na, ca.same_refl]

include nb in
theorem equalOf_comm : s.equalOf b a = s.equalOf a b := by
  rw [equalOf_trees ca cb na, equalOf_trees cb ca nb, ca.same_comm cb]

include cc nb in
theorem equalOf_trans (hab : s.equalOf a b = .ok true) (hbc : s.equalOf b c = .ok true) :
    s.equalOf a c = .ok true := by
  rw [equalOf_trees ca cb na] at hab
  rw [equalOf_trees cb cc nb] at hbc
  rw [equalOf_trees ca cc na,
    ca.same_trans cb cc (Except.ok.inj hab) (Except.ok.inj hbc)]

end Trees

/-- Requests with finite trees as values are equal exactly when their five parts are, unequal
otherwise, and this is an equivalence. -/
theorem requests_equal_iff_parts_equal (ha : s.view a = .request x p) (hb : s.view b = .request y q)
    (hc : s.view c = .request z r) (cp : p.value.IsComparable) (cq : q.value.IsComparable)
    (cr : r.value.IsComparable) (np : p.value.isNan = false) :
    (∃ equal, s.equalOf a b = .ok equal ∧ s.unequalOf a b = .ok (!equal) ∧
      (equal = true ↔ p.overwrite = q.overwrite ∧ p.name.path = q.name.path ∧ p.kind = q.kind ∧
        p.value.equal q.value = true ∧ p.permissions = q.permissions)) ∧
    s.equalOf a a = .ok true ∧ s.equalOf b a = s.equalOf a b ∧
    (s.equalOf a b = .ok true → s.equalOf b c = .ok true → s.equalOf a c = .ok true) := by
  have ca : (s.view a).IsComparable := ha ▸ .request x cp
  have cb : (s.view b).IsComparable := hb ▸ .request y cq
  have cc : (s.view c).IsComparable := hc ▸ .request z cr
  have na : (s.view a).isNan = false := by rw [ha]; rfl
  have nb : (s.view b).isNan = false := by rw [hb]; rfl
  refine ⟨⟨_, equalOf_trees ca cb na, ?_, ?_⟩, equalOf_self ca na, equalOf_comm ca cb na nb,
    equalOf_trans ca cb cc na nb⟩
  · rw [unequalOf, equalOf_trees ca cb na]
    rfl
  · rw [ha, hb, same_request, equal_eq_same np]

/-- A mapping from a number to octets and a set, a read-only one from a truth value to a buffer and
the set in another order, and one from a float to them, each in a request. The name of the second
request is one of a service instance. -/
def chainStore : Store :=
  let plain : Held CredentialName := ⟨0, RequestBuilder.plainName⟩
  let broker : Held CredentialName := ⟨1, { plain.content with scheme := .serviceInstance }⟩
  ⟨#[.name plain.content, .name broker.content,
    .buffer [120],
    .set [.text "x", .scalar (.int 0)],
    .set [.bool false, .text "x"],
    .mapping false [(.scalar (.int 1), .scalar (.octets [120])), (.text "s", .address 3)],
    .mapping true [(.text "s", .address 4), (.bool true, .address 2)],
    .mapping false [(.scalar (.float (Binary64.ofRatio false 1 1) 0), .address 2),
      (.text "s", .address 4)],
    .sequence .tuple [],
    .request ⟨.any, true, true, plain, .json, .address 5, [], false⟩ 8,
    .request ⟨.any, true, true, broker, .json, .address 6, [], true⟩ 8,
    .request ⟨.any, true, false, plain, .json, .address 7, [], false⟩ 8]⟩

theorem chained_requests_equal :
    chainStore.equalOf (.address 9) (.address 10) = .ok true ∧
    chainStore.equalOf (.address 10) (.address 9) = .ok true ∧
    chainStore.equalOf (.address 10) (.address 11) = .ok true ∧
    chainStore.equalOf (.address 9) (.address 11) = .ok true := by
  have set₁ : (Value.set 3 [.scalar (.text "x"), .scalar (.int 0)]).IsComparable :=
    .set 3 (by simp [IsComparable.scalar]) (by decide +kernel)
  have set₂ : (Value.set 4 [.scalar (.bool false), .scalar (.text "x")]).IsComparable :=
    .set 4 (by simp [IsComparable.scalar]) (by decide +kernel)
  have first : (Value.mapping 5 false [(.scalar (.int 1), .scalar (.octets [120])),
      (.scalar (.text "s"), .set 3 [.scalar (.text "x"), .scalar (.int 0)])]).IsComparable :=
    .mapping 5 false (by simp [IsComparable.scalar]) (by decide +kernel)
      (by simp [IsComparable.scalar, set₁])
  have second : (Value.mapping 6 true [
      (.scalar (.text "s"), .set 4 [.scalar (.bool false), .scalar (.text "x")]),
      (.scalar (.bool true), .buffer 2 [120])]).IsComparable :=
    .mapping 6 true (by simp [IsComparable.scalar]) (by decide +kernel)
      (by simp [IsComparable.buffer, set₂])
  have third : (Value.mapping 7 false [
      (.scalar (.float (Binary64.ofRatio false 1 1) 0), .buffer 2 [120]),
      (.scalar (.text "s"), .set 4 [.scalar (.bool false), .scalar (.text "x")])]).IsComparable :=
    .mapping 7 false (by simp [IsComparable.scalar]) (by decide +kernel)
      (by simp [IsComparable.buffer, set₂])
  obtain ⟨-, -, back, on⟩ := requests_equal_iff_parts_equal (s := chainStore) (a := .address 9)
    (b := .address 10) (c := .address 11) rfl rfl rfl first second third rfl
  have here : chainStore.equalOf (.address 9) (.address 10) = .ok true := by decide +kernel
  have next : chainStore.equalOf (.address 10) (.address 11) = .ok true := by decide +kernel
  exact ⟨here, back.trans here, next, on here next⟩

end CredentialWrite.Store
