import Mathlib.Data.List.Basic

/-!
# Checksums that undo themselves

A checksum folds a list with an operation of which every element is its own inverse, such as
exclusive or.  A list is closed by one element only, and a list that is closed does not stay so when
one of its elements is changed.

* `SelfInverse` — what the operation must satisfy.
* `checksum` — the fold.
* `closes_iff` — the element that closes a list.
* `checksum_set` — what changing one element does.
-/

namespace Foundation

variable {α : Type*}

/-- The operation is commutative and associative, and everything is its own inverse. -/
structure SelfInverse (op : α → α → α) (e : α) : Prop where
  comm : ∀ a b, op a b = op b a
  assoc : ∀ a b c, op (op a b) c = op a (op b c)
  neutral : ∀ a, op e a = a
  self : ∀ a, op a a = e

namespace SelfInverse

variable {op : α → α → α} {e : α} (h : SelfInverse op e)

include h

lemma cancel (a b : α) : op a (op a b) = b := by
  rw [← h.assoc, h.self, h.neutral]

lemma eq_iff {a b : α} : op a b = e ↔ a = b := by
  constructor
  · intro hab
    have hcancel := h.cancel a b
    rw [hab, h.comm, h.neutral] at hcancel
    exact hcancel
  · rintro rfl
    exact h.self a

lemma left_inj {a b c : α} : op a b = op a c ↔ b = c := by
  constructor
  · intro heq
    rw [← h.cancel a b, heq, h.cancel]
  · rintro rfl
    rfl

end SelfInverse

/-- The checksum of a list, from a start value. -/
def checksum (op : α → α → α) (seed : α) (xs : List α) : α := xs.foldl op seed

section

variable {op : α → α → α} {seed : α} {xs : List α}

@[simp] lemma checksum_nil : checksum op seed [] = seed := rfl

@[simp] lemma checksum_cons {x : α} : checksum op seed (x :: xs) = checksum op (op seed x) xs :=
  rfl

lemma checksum_append {ys : List α} :
    checksum op seed (xs ++ ys) = checksum op (checksum op seed xs) ys := List.foldl_append

variable {e : α} (h : SelfInverse op e)

include h

/-- The start value may be put off. -/
lemma checksum_start (a : α) : checksum op (op a seed) xs = op a (checksum op seed xs) := by
  induction xs generalizing seed with
  | nil => rfl
  | cons x xs ih => rw [checksum_cons, checksum_cons, h.assoc, ih]

/-- **Exactly one element** closes a list. -/
theorem closes_iff {c : α} : checksum op seed (xs ++ [c]) = e ↔ c = checksum op seed xs := by
  rw [checksum_append, checksum_cons, checksum_nil, h.eq_iff, eq_comm]

/-- **Changing one element** keeps the checksum only if the element stays what it was. -/
theorem checksum_set {i : ℕ} (hi : i < xs.length) {b : α} :
    checksum op seed (xs.set i b) = checksum op seed xs ↔ b = xs[i] := by
  induction xs generalizing seed i with
  | nil => exact absurd hi (Nat.not_lt_zero _)
  | cons x xs ih =>
      cases i with
      | zero =>
          rw [List.set_cons_zero, checksum_cons, checksum_cons, h.comm seed b, h.comm seed x,
            checksum_start h, checksum_start h, h.comm b, h.comm x, h.left_inj]
          exact Iff.rfl
      | succ i =>
          rw [List.set_cons_succ, checksum_cons, checksum_cons]
          exact ih (Nat.lt_of_succ_lt_succ hi)

end

/-- Exclusive or of bytes. -/
lemma selfInverse_xor : SelfInverse (fun a b : UInt8 => a ^^^ b) 0 where
  comm := UInt8.xor_comm
  assoc := UInt8.xor_assoc
  neutral _ := UInt8.zero_xor
  self _ := UInt8.xor_self

end Foundation
