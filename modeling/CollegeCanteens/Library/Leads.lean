import CollegeCanteens.Library.Run

/-!
# States that can be reached

`Leads R s P` says that there is a run from `s` to a state with `P`: whatever has
happened until `s`, the machine can still get there.  Nothing is said of the other
runs from `s`.

Such a run is put together from pieces.  `Leads.bind` is the rule for two of them, of
which the second may use the run of the first, so that the invariants of the
machine are at hand where they meet; `Leads.descend` is the rule for a loop.
-/

namespace CollegeCanteens.Transition

universe u v

variable {σ : Type u} {ε : Type v} {R : σ → ε → σ → Prop} {s t : σ} {e : ε} {es : List ε}
  {P Q : σ → Prop}

/-- Some run leads to a state with `P`. -/
def Leads (R : σ → ε → σ → Prop) (s : σ) (P : σ → Prop) : Prop := ∃ es t, Run R s es t ∧ P t

namespace Leads

/-- It may be reached already. -/
theorem here (h : P s) : Leads R s P := ⟨[], s, .refl, h⟩

theorem bind (h : Leads R s P) (hQ : ∀ {es t}, Run R s es t → P t → Leads R t Q) :
    Leads R s Q := by
  obtain ⟨es, t, ht, hP⟩ := h
  obtain ⟨fs, u, hu, hQu⟩ := hQ ht hP
  exact ⟨es ++ fs, u, ht.trans hu, hQu⟩

theorem single (h : R s e t) (ht : P t) : Leads R s P := ⟨[e], t, .single h, ht⟩

/-- What can be reached from a state that a run leads to can be reached. -/
theorem run (h : Run R s es t) (ht : Leads R t P) : Leads R s P := by
  obtain ⟨fs, u, hu, hP⟩ := ht
  exact ⟨es ++ fs, u, h.trans hu, hP⟩

theorem step (h : R s e t) (ht : Leads R t P) : Leads R s P := run (.single h) ht

/-- What steps can keep while they make `m` smaller can be kept until it is zero. -/
theorem descend (m : σ → ℕ) (hs : P s)
    (hstep : ∀ {a}, P a → m a ≠ 0 → ∃ e b, R a e b ∧ P b ∧ m b < m a) :
    Leads R s fun t ↦ P t ∧ m t = 0 := by
  induction hn : m s using Nat.strong_induction_on generalizing s with
  | h n ih =>
      by_cases h0 : m s = 0
      · exact here ⟨hs, h0⟩
      · obtain ⟨e, b, hR, hb, hlt⟩ := hstep hs h0
        exact step hR (ih (m b) (hn ▸ hlt) hb rfl)

end Leads

end CollegeCanteens.Transition
