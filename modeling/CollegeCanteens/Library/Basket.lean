import Mathlib.Algebra.BigOperators.Group.Finset.Basic
import Mathlib.Algebra.Ring.Int.Defs

/-!
# Baskets

A basket is a multiset of items.  Items are put into it and taken out of it one
at a time, taking out what is not there does nothing, and the whole basket can
be emptied at once.

How many units of an item a basket holds depends on the operations that concern
the item alone (`count_after`), so that two lists of operations in which every
item has the same history lead to the same basket (`after_eq_of_reordered`):
operations on different items may change places, and none may change places with
an emptying.
-/

namespace CollegeCanteens.Basket

universe u

variable {κ : Type u}

/-- What is done to a basket. -/
inductive Op (κ : Type u) where
  | add (k : κ)
  | remove (k : κ)
  | clear
deriving DecidableEq

/-- The operation is on `k`, or on all items. -/
def Op.Concerns (k : κ) : Op κ → Prop
  | add k' | remove k' => k' = k
  | clear => True

variable [DecidableEq κ]

instance (k : κ) : DecidablePred (Op.Concerns k)
  | .add k' | .remove k' => inferInstanceAs (Decidable (k' = k))
  | .clear => .isTrue trivial

/-- The basket after an operation. -/
def Op.apply (m : Multiset κ) : Op κ → Multiset κ
  | add k => k ::ₘ m
  | remove k => m.erase k
  | clear => 0

/-- The basket after a list of operations. -/
def after (m : Multiset κ) (ops : List (Op κ)) : Multiset κ := ops.foldl Op.apply m

/-- The operations that concern an item, in order. -/
def history (k : κ) (ops : List (Op κ)) : List (Op κ) := ops.filter (Op.Concerns k)

/-- Every item has the same history. -/
def Reordered (ops ops' : List (Op κ)) : Prop := ∀ k, history k ops = history k ops'

variable {m : Multiset κ} {ops ops' : List (Op κ)} {op op' : Op κ} {k : κ}

theorem after_append : after m (ops ++ ops') = after (after m ops) ops' := List.foldl_append

theorem history_append : history k (ops ++ ops') = history k ops ++ history k ops' :=
  List.filter_append ..

/-- Operations that no item is concerned by both of may change places. -/
theorem Reordered.swap (h : ∀ k, ¬ (op.Concerns k ∧ op'.Concerns k)) :
    Reordered (ops ++ op :: op' :: ops') (ops ++ op' :: op :: ops') := by
  intro k
  by_cases hop : op.Concerns k
  · have hop' : ¬ op'.Concerns k := fun h' ↦ h k ⟨hop, h'⟩
    simp [history, hop, hop']
  · simp [history, hop, List.filter_cons]

/-! ## Counting an item -/

/-- The number of units of an item after an operation that concerns it. -/
def Op.applyCount (n : ℕ) : Op κ → ℕ
  | add _ => n + 1
  | remove _ => n - 1
  | clear => 0

theorem count_apply_of_concerns (h : op.Concerns k) :
    (op.apply m).count k = op.applyCount (m.count k) := by
  cases op with
  | add k' =>
      obtain rfl : k' = k := h
      exact Multiset.count_cons_self k' m
  | remove k' =>
      obtain rfl : k' = k := h
      exact Multiset.count_erase_self k' m
  | clear => exact Multiset.count_zero k

theorem count_apply_of_not_concerns (h : ¬ op.Concerns k) : (op.apply m).count k = m.count k := by
  cases op with
  | add k' => exact Multiset.count_cons_of_ne (Ne.symm h) m
  | remove k' => exact Multiset.count_erase_of_ne (Ne.symm h) m
  | clear => exact absurd trivial h

/-- The units of an item depend on its history alone. -/
theorem count_after : (after m ops).count k = (history k ops).foldl Op.applyCount (m.count k) := by
  induction ops generalizing m with
  | nil => rfl
  | cons op ops ih =>
      have hrest := ih (m := op.apply m)
      by_cases hop : op.Concerns k
      · rw [count_apply_of_concerns hop] at hrest
        rw [history, List.filter_cons_of_pos (by simpa using hop)]
        exact hrest
      · rw [count_apply_of_not_concerns hop] at hrest
        rw [history, List.filter_cons_of_neg (by simpa using hop)]
        exact hrest

theorem after_eq_of_reordered (h : Reordered ops ops') : after m ops = after m ops' := by
  ext k
  rw [count_after, count_after, h k]

/-! ## What a basket costs -/

/-- The price of a basket: units times price, over its items. -/
def charge (price : κ → ℤ) (m : Multiset κ) : ℤ := ∑ k ∈ m.toFinset, m.count k * price k

variable {price : κ → ℤ}

theorem charge_eq_sum_map : charge price m = (m.map price).sum := by
  simp [charge, Finset.sum_multiset_map_count]

@[simp] theorem charge_cons : charge price (k ::ₘ m) = charge price m + price k := by
  rw [charge_eq_sum_map, charge_eq_sum_map, Multiset.map_cons, Multiset.sum_cons, add_comm]

theorem charge_erase (h : k ∈ m) : charge price (m.erase k) = charge price m - price k := by
  have hcons : charge price (k ::ₘ m.erase k) = charge price m := by rw [Multiset.cons_erase h]
  rw [charge_cons] at hcons
  omega

end CollegeCanteens.Basket
