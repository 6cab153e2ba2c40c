import Mathlib.Init

/-!
# Registers with a history

A register holds a value that is overwritten from time to time.  It keeps the
values it has had, and is never without one.
-/

namespace CollegeCanteens

universe u

variable {α : Type u}

/-- The values that a register has had. -/
structure Register (α : Type u) where
  /-- The values, oldest first. -/
  history : List α
  /-- There is one to begin with. -/
  ne_nil : history ≠ []

namespace Register

variable {r : Register α} {a b : α}

/-- A register with its first value. -/
def init (a : α) : Register α := ⟨[a], List.cons_ne_nil a []⟩

/-- The value of the register. -/
def current (r : Register α) : α := r.history.getLast r.ne_nil

/-- Overwrite the value. -/
def commit (r : Register α) (a : α) : Register α :=
  ⟨r.history ++ [a], List.append_ne_nil_of_right_ne_nil _ (List.cons_ne_nil a [])⟩

@[simp] theorem current_commit : (r.commit a).current = a := List.getLast_concat

theorem current_mem (r : Register α) : r.current ∈ r.history := List.getLast_mem r.ne_nil

@[simp] theorem mem_init : b ∈ (init a).history ↔ b = a := List.mem_singleton

@[simp] theorem mem_commit : b ∈ (r.commit a).history ↔ b ∈ r.history ∨ b = a := by
  simp [commit]

end Register

end CollegeCanteens
