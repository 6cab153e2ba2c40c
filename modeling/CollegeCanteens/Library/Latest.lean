import CollegeCanteens.Library.Run

/-!
# What was written last

`latest w a es` is what the events `es` have written last to a field that is `a` at
first, where `w e` is what the event `e` writes, if it writes anything.  A field of a
state that every step treats in this way holds it after every run (`Run.latest_eq`).

A copy of the field may be set back to `a` by events that leave the field as it is.
The two then differ exactly if something else than `a` was written and the copy has
been set back since, but nothing written (`latest_ne_latest_reset_iff`).
-/

namespace CollegeCanteens.Transition

universe u v w

variable {σ : Type u} {ε : Type v} {α : Type w} {w : ε → Option α} {r : ε → Prop} {a b : α}
  {e : ε} {es fs pre post : List ε}

/-- What is written last. -/
def latest (w : ε → Option α) (a : α) (es : List ε) : α := es.foldl (fun b e ↦ (w e).getD b) a

/-- An event writes as `w` says, or sets the field back to `a`. -/
def reset (r : ε → Prop) [DecidablePred r] (a : α) (w : ε → Option α) (e : ε) : Option α :=
  if r e then some a else w e

theorem latest_snoc : latest w a (es ++ [e]) = (w e).getD (latest w a es) := by
  simp [latest]

/-- Events that write nothing change nothing. -/
theorem latest_append_of_none (h : ∀ e ∈ fs, w e = none) :
    latest w a (es ++ fs) = latest w a es := by
  induction fs using List.reverseRecOn with
  | nil => rw [List.append_nil]
  | append_singleton fs e ih =>
      have he : w e = none := h e (by simp)
      rw [← List.append_assoc, latest_snoc, he, Option.getD_none]
      exact ih fun e' he' ↦ h e' (List.mem_append_left _ he')

/-- What a write has written is there until the next one. -/
theorem latest_of_last (he : w e = some b) (hpost : ∀ e' ∈ post, w e' = none) :
    latest w a (pre ++ e :: post) = b := by
  rw [List.append_cons, latest_append_of_none hpost, latest_snoc, he, Option.getD_some]

/-- Nothing is written, or there is a last write. -/
theorem exists_last (w : ε → Option α) (es : List ε) : (∀ e ∈ es, w e = none) ∨
    ∃ pre e post b, es = pre ++ e :: post ∧ w e = some b ∧ ∀ e' ∈ post, w e' = none := by
  induction es using List.reverseRecOn with
  | nil => exact .inl nofun
  | append_singleton es e ih =>
      cases he : w e with
      | some b => exact .inr ⟨es, e, [], b, rfl, he, nofun⟩
      | none =>
          rcases ih with hnone | ⟨pre, e', post, b, rfl, he', hpost⟩
          · refine .inl fun e' hmem ↦ ?_
            rcases List.mem_append.mp hmem with hmem | hmem
            · exact hnone e' hmem
            · exact List.mem_singleton.mp hmem ▸ he
          · refine .inr ⟨pre, e', post ++ [e], b, by simp, he', fun e'' hmem ↦ ?_⟩
            rcases List.mem_append.mp hmem with hmem | hmem
            · exact hpost e'' hmem
            · exact List.mem_singleton.mp hmem ▸ he

section Reset

variable [DecidablePred r]

/-- Among events that write nothing, one that sets the field back decides. -/
theorem latest_reset_append (hpost : ∀ e ∈ post, w e = none) :
    latest (reset r a w) a (es ++ post) =
      if ∃ e ∈ post, r e then a else latest (reset r a w) a es := by
  induction post using List.reverseRecOn with
  | nil => simp
  | append_singleton post e ih =>
      have hold := ih fun e' he' ↦ hpost e' (List.mem_append_left _ he')
      have he : w e = none := hpost e (by simp)
      rw [← List.append_assoc, latest_snoc, hold]
      by_cases hr : r e
      · rw [reset, if_pos hr, Option.getD_some, if_pos ⟨e, by simp, hr⟩]
      · have hsame : (∃ e' ∈ post ++ [e], r e') ↔ ∃ e' ∈ post, r e' := by simp [hr]
        rw [reset, if_neg hr, he, Option.getD_none]
        exact if_congr hsame.symm rfl rfl

/-- The field and a copy that some of the other events set back. -/
theorem latest_ne_latest_reset_iff (hr : ∀ e, r e → w e = none) :
    latest w a es ≠ latest (reset r a w) a es ↔ ∃ pre e post b, es = pre ++ e :: post ∧
      w e = some b ∧ b ≠ a ∧ (∀ e' ∈ post, w e' = none) ∧ ∃ e' ∈ post, r e' := by
  have hcopy {pre e post b} (he : w e = some b) (hpost : ∀ e' ∈ post, w e' = none) :
      latest (reset r a w) a (pre ++ e :: post) = if ∃ e' ∈ post, r e' then a else b := by
    have hw : reset r a w e = some b := by
      rw [reset, if_neg fun h ↦ ?_, he]
      cases (hr e h).symm.trans he
    rw [List.append_cons, latest_reset_append hpost, latest_snoc, hw, Option.getD_some]
  constructor
  · intro hne
    rcases exists_last w es with hnone | ⟨pre, e, post, b, rfl, he, hpost⟩
    · -- nothing was written, and both are as they were
      refine absurd ?_ hne
      have hfield : latest w a ([] ++ es) = a := latest_append_of_none hnone
      have hreset : latest (reset r a w) a ([] ++ es) = if ∃ e ∈ es, r e then a else a :=
        latest_reset_append hnone
      rw [ite_self] at hreset
      rw [List.nil_append] at hfield hreset
      rw [hfield, hreset]
    · rw [latest_of_last he hpost, hcopy he hpost] at hne
      split at hne
      · exact ⟨pre, e, post, b, rfl, he, hne, hpost, ‹_›⟩
      · exact absurd rfl hne
  · rintro ⟨pre, e, post, b, rfl, he, hb, hpost, hset⟩
    rw [latest_of_last he hpost, hcopy he hpost, if_pos hset]
    exact hb

end Reset

/-- A field that every step writes as `w` says holds what was written last. -/
theorem Run.latest_eq {R : σ → ε → σ → Prop} {f : σ → α} {s t : σ} (h : Run R s es t)
    (hstep : ∀ {s e t}, R s e t → f t = (w e).getD (f s)) : f t = latest w (f s) es := by
  induction h with
  | refl => rfl
  | snoc _ hR ih => rw [hstep hR, ih, latest_snoc]

end CollegeCanteens.Transition
