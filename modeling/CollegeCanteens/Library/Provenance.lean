import CollegeCanteens.Library.Run

/-!
# Where the facts of a run come from

`Visited R s es C` says that the events `es`, taken from `s` by steps of `R`, have
led through a state with `C`.

A fact of the last state of a run has a cause `C` if no step brings it about but
from a state with `C` or into one: `Run.visited` then finds such a state in the
run.  A cause may have a cause in turn, which lies further back
(`Visited.bind`), so that a fact is traced as far as the steps allow, one lemma
about single steps for each link.
-/

namespace CollegeCanteens.Transition

universe u v

variable {σ : Type u} {ε : Type v} {R : σ → ε → σ → Prop} {s t : σ} {es fs : List ε}
  {F C D : σ → Prop}

/-- The events have led through a state with `C`. -/
def Visited (R : σ → ε → σ → Prop) (s : σ) (es : List ε) (C : σ → Prop) : Prop :=
  ∃ pre a, pre <+: es ∧ Run R s pre a ∧ C a

namespace Visited

theorem imp (h : Visited R s es C) (hD : ∀ a, C a → D a) : Visited R s es D := by
  obtain ⟨pre, a, hpre, ha, hC⟩ := h
  exact ⟨pre, a, hpre, ha, hD a hC⟩

/-- What a run has been through, every run that goes on from it has. -/
theorem extend (h : Visited R s es C) (hes : es <+: fs) : Visited R s fs C := by
  obtain ⟨pre, a, hpre, ha, hC⟩ := h
  exact ⟨pre, a, hpre.trans hes, ha, hC⟩

/-- The cause of a cause. -/
theorem bind (h : Visited R s es C) (hD : ∀ {pre a}, Run R s pre a → C a → Visited R s pre D) :
    Visited R s es D := by
  obtain ⟨pre, a, hpre, ha, hC⟩ := h
  exact (hD ha hC).extend hpre

end Visited

namespace Run

theorem visited_end (h : Run R s es t) (ht : C t) : Visited R s es C :=
  ⟨es, t, List.prefix_rfl, h, ht⟩

/-- A fact that no step brings about but from a state with `C` or into one, and
that does not hold at the start without it, holds only after such a state. -/
theorem visited (h : Run R s es t) (hs : F s → C s)
    (hstep : ∀ {pre e a b}, Run R s pre a → R a e b → F b → F a ∨ C a ∨ C b) (ht : F t) :
    Visited R s es C := by
  induction h with
  | refl => exact visited_end .refl (hs ht)
  | @snoc es a e b ha hab ih =>
      rcases hstep ha hab ht with hF | hC | hC
      · exact (ih hF).extend (List.prefix_append es [e])
      · exact ⟨es, a, List.prefix_append es [e], ha, hC⟩
      · exact visited_end (ha.snoc hab) hC

end Run

end CollegeCanteens.Transition
