import Mathlib.Algebra.BigOperators.Group.List.Basic
import Mathlib.Data.List.Induction
import Mathlib.Tactic.Abel

/-!
# Runs of a labelled step relation

`Run R s es t` says that the events `es`, taken in order, lead from `s` to `t`
by steps of `R`.  A partial step function `step : σ → ε → Option σ` gives the
relation `Fires step`, and `exec step` then computes the state a run ends in,
so that a concrete run is checked by evaluation.

The rules collected here are the ones a proof about every run needs:

* `Run.invariant` and `Run.invariantOn`: what each step preserves, a run
  preserves;
* `Run.guarded_iff` and `Run.guarded_iff_steps`: what holds all along a run
  exactly if its steps meet a condition;
* `Run.exists_entry`: a property that holds at the end of a run and not at its
  start was entered by one step of it, and has held since;
* `Run.total_eq`: a quantity that each step changes by a known amount has
  changed, over a run, by the total of these amounts;
* `Run.simulate`: a run of one machine seen as a run of a coarser one;
* `Run.exists_simulation`: a run of one machine matched by a run of another, along a
  relation between their states.
-/

namespace CollegeCanteens.Transition

universe u v w

variable {σ : Type u} {ε : Type v}

/-- The run relation of a labelled step relation: `es` leads from `s` to the
state it is indexed by. -/
inductive Run (R : σ → ε → σ → Prop) (s : σ) : List ε → σ → Prop
  | /-- No event leads nowhere. -/
    refl : Run R s [] s
  | /-- A run goes on by one step. -/
    snoc {es : List ε} {t : σ} {e : ε} {u : σ} :
      Run R s es t → R t e u → Run R s (es ++ [e]) u

/-- The steps of a partial step function. -/
def Fires (step : σ → ε → Option σ) (s : σ) (e : ε) (t : σ) : Prop := step s e = some t

/-- The steps of `R` whose state and event meet `G`. -/
def Guarded (G : σ → ε → Prop) (R : σ → ε → σ → Prop) (s : σ) (e : ε) (t : σ) : Prop :=
  G s e ∧ R s e t

/-- The steps of `R` before and after which `P` holds. -/
def Staying (P : σ → Prop) (R : σ → ε → σ → Prop) (s : σ) (e : ε) (t : σ) : Prop :=
  R s e t ∧ P s ∧ P t

/-- Take the events in order; `none` as soon as one of them is not enabled. -/
def exec (step : σ → ε → Option σ) : σ → List ε → Option σ
  | s, [] => some s
  | s, e :: es => (step s e).bind fun t ↦ exec step t es

/-- The step function that takes only the steps that meet `G`. -/
def restrict (G : σ → ε → Prop) [∀ s e, Decidable (G s e)] (step : σ → ε → Option σ) (s : σ)
    (e : ε) : Option σ := if G s e then step s e else none

/-- The sum of `f` over the states and events a list of events goes through. -/
def total {M : Type w} [AddMonoid M] (step : σ → ε → Option σ) (f : σ → ε → M) :
    σ → List ε → M
  | _, [] => 0
  | s, e :: es => f s e + ((step s e).elim 0 fun t ↦ total step f t es)

namespace Run

variable {R R' : σ → ε → σ → Prop} {s t u : σ} {es fs : List ε} {e : ε}

theorem single (h : R s e t) : Run R s [e] t := .snoc .refl h

/-- Runs compose. -/
theorem trans (h : Run R s es t) (h' : Run R t fs u) : Run R s (es ++ fs) u := by
  induction h' with
  | refl => simpa using h
  | snoc _ hR ih => simpa using ih.snoc hR

/-- A run may start with one more step. -/
theorem head (h : R s e t) (h' : Run R t es u) : Run R s (e :: es) u := by
  simpa using (single h).trans h'

/-- A run's last step. -/
theorem of_snoc (h : Run R s (es ++ [e]) u) : ∃ t, Run R s es t ∧ R t e u := by
  generalize hfs : es ++ [e] = fs at h
  cases h with
  | refl => simp at hfs
  | snoc hr hR =>
      obtain ⟨rfl, he⟩ := List.append_inj' hfs rfl
      obtain rfl : e = _ := by simpa using he
      exact ⟨_, hr, hR⟩

/-- A run splits wherever its events do. -/
theorem split (h : Run R s (es ++ fs) u) : ∃ t, Run R s es t ∧ Run R t fs u := by
  induction fs using List.reverseRecOn generalizing u with
  | nil => exact ⟨u, by simpa using h, .refl⟩
  | append_singleton fs e ih =>
      rw [← List.append_assoc] at h
      obtain ⟨v, hv, hR⟩ := h.of_snoc
      obtain ⟨t, ht, hf⟩ := ih hv
      exact ⟨t, ht, hf.snoc hR⟩

/-- A run of smaller steps is a run. -/
theorem mono (hsub : ∀ {a e b}, R a e b → R' a e b) (h : Run R s es t) : Run R' s es t := by
  induction h with
  | refl => exact .refl
  | snoc _ hR ih => exact ih.snoc (hsub hR)

theorem of_guarded {G : σ → ε → Prop} (h : Run (Guarded G R) s es t) : Run R s es t :=
  h.mono fun hR ↦ hR.2

theorem of_staying {P : σ → Prop} (h : Run (Staying P R) s es t) : Run R s es t :=
  h.mono fun hR ↦ hR.1

/-- What holds at first and is preserved by every step holds at the end. -/
theorem invariant {P : σ → Prop} (h : Run R s es t) (hs : P s)
    (hstep : ∀ {a e b}, P a → R a e b → P b) : P t := by
  induction h with
  | refl => exact hs
  | snoc _ hR ih => exact hstep ih hR

/-- `Run.invariant` for a property of the state and of the events so far. -/
theorem invariantOn {P : List ε → σ → Prop} (h : Run R s es t) (hs : P [] s)
    (hstep : ∀ {es a e b}, Run R s es a → P es a → R a e b → P (es ++ [e]) b) : P es t := by
  induction h with
  | refl => exact hs
  | snoc hr hR ih => exact hstep hr ih hR

/-- What holds at the end of a run and not at its start was entered by one of
its steps, and has held ever since. -/
theorem exists_entry {P : σ → Prop} (h : Run R s es t) (hs : ¬ P s) (ht : P t) :
    ∃ pre e post a b, es = pre ++ e :: post ∧ Run R s pre a ∧ R a e b ∧ ¬ P a ∧ P b ∧
      Run (Staying P R) b post t := by
  induction h with
  | refl => exact absurd ht hs
  | @snoc es t e u hr hR ih =>
      by_cases hP : P t
      · obtain ⟨pre, e', post, a, b, rfl, ha, hab, hna, hb, hpost⟩ := ih hP
        exact ⟨pre, e', post ++ [e], a, b, by simp, ha, hab, hna, hb,
          hpost.snoc ⟨hR, hP, ht⟩⟩
      · exact ⟨es, e, [], t, u, rfl, hr, hR, hP, ht, .refl⟩

/-- A run seen through `f`: each event `e` is either one event of the coarser
machine, `g e = some e'`, or silent, in which case `f` does not move. -/
theorem simulate {σ' : Type*} {ε' : Type*} {Q : σ' → ε' → σ' → Prop} (f : σ → σ')
    (g : ε → Option ε')
    (hstep : ∀ {a e b}, R a e b →
      (∃ e', g e = some e' ∧ Q (f a) e' (f b)) ∨ g e = none ∧ f b = f a)
    (h : Run R s es t) : Run Q (f s) (es.filterMap g) (f t) := by
  induction h with
  | refl => exact .refl
  | snoc _ hR ih =>
      rw [List.filterMap_append]
      rcases hstep hR with ⟨e', hg, hQ⟩ | ⟨hg, hf⟩
      · simpa [hg] using ih.snoc hQ
      · simpa [hg, hf] using ih

/-- If, from related states, each step is matched by a run that leads to related
states again and of which the same is seen, then a run is matched by a run. -/
theorem exists_simulation {σ' ε' ω : Type*} {Q : σ' → ε' → σ' → Prop} (C : σ → σ' → Prop)
    (g : ε → Option ω) (g' : ε' → Option ω)
    (hstep : ∀ {a c e b}, C a c → R a e b →
      ∃ fs d, Run Q c fs d ∧ fs.filterMap g' = (g e).toList ∧ C b d)
    {s' : σ'} (hs : C s s') (h : Run R s es t) :
    ∃ fs t', Run Q s' fs t' ∧ fs.filterMap g' = es.filterMap g ∧ C t t' := by
  induction h with
  | refl => exact ⟨[], s', .refl, rfl, hs⟩
  | @snoc es a e b _ hR ih =>
      obtain ⟨fs, c, hc, hseen, hC⟩ := ih
      obtain ⟨fs', d, hd, hseen', hC'⟩ := hstep hC hR
      refine ⟨fs ++ fs', d, hc.trans hd, ?_, hC'⟩
      have hsingle : [e].filterMap g = (g e).toList := by cases hg : g e <;> simp [hg]
      rw [List.filterMap_append, List.filterMap_append, hseen, hseen', hsingle]

end Run

section Exec

variable {step : σ → ε → Option σ} {s t : σ} {es : List ε} {e : ε}

theorem exec_append (s : σ) (es fs : List ε) :
    exec step s (es ++ fs) = (exec step s es).bind fun t ↦ exec step t fs := by
  induction es generalizing s with
  | nil => rfl
  | cons e es ih =>
      simp only [List.cons_append, exec]
      cases step s e with
      | none => rfl
      | some t => exact ih t

/-- `exec` computes the runs of a step function. -/
theorem exec_eq_some_iff : exec step s es = some t ↔ Run (Fires step) s es t := by
  constructor
  · intro h
    induction es generalizing s with
    | nil => cases h; exact .refl
    | cons e es ih =>
        obtain ⟨u, hu, hrest⟩ := Option.bind_eq_some_iff.mp h
        exact .head hu (ih hrest)
  · intro h
    induction h with
    | refl => rfl
    | snoc _ hR ih =>
        rw [exec_append, ih]
        simpa [exec, Fires] using hR

/-- A list of events leads to one state at most. -/
theorem Run.det {t' : σ} (h : Run (Fires step) s es t) (h' : Run (Fires step) s es t') :
    t = t' :=
  Option.some.inj ((exec_eq_some_iff.mpr h).symm.trans (exec_eq_some_iff.mpr h'))

/-- The state a list of events that `exec` accepts leads to. -/
theorem run_exec_get (h : (exec step s es).isSome) :
    Run (Fires step) s es ((exec step s es).get h) :=
  exec_eq_some_iff.mp (Option.some_get h).symm

/-- The restricted step function takes the guarded steps. -/
theorem fires_restrict {G : σ → ε → Prop} [∀ s e, Decidable (G s e)] :
    Fires (restrict G step) s e t ↔ Guarded G (Fires step) s e t := by
  simp only [Fires, restrict, Guarded]
  split <;> simp [*]

theorem run_guarded_exec_get {G : σ → ε → Prop} [∀ s e, Decidable (G s e)]
    (h : (exec (restrict G step) s es).isSome) :
    Run (Guarded G (Fires step)) s es ((exec (restrict G step) s es).get h) :=
  (run_exec_get h).mono fires_restrict.mp

/-- Where a step from a state with `P` meets `G` exactly if it leads to a state
with `P`, the steps of a run all meet `G` exactly if `P` holds in every state
that the run reaches. -/
theorem Run.guarded_iff {R : σ → ε → σ → Prop} {G : σ → ε → Prop} {I P : σ → Prop}
    (hR : ∀ {a e b}, R a e b → Fires step a e b) (hI : I s) (hP : P s)
    (hpres : ∀ {a e b}, I a → R a e b → I b)
    (hstep : ∀ {a e b}, I a → P a → R a e b → (G a e ↔ P b)) :
    Run (Guarded G R) s es t ↔
      Run R s es t ∧ ∀ pre a, pre <+: es → Run R s pre a → P a := by
  constructor
  · intro h
    refine ⟨h.of_guarded, ?_⟩
    rintro pre a ⟨post, rfl⟩ ha
    obtain ⟨a', ha', -⟩ := h.split
    obtain rfl : a = a' := (ha.mono hR).det (ha'.of_guarded.mono hR)
    have hboth : I a ∧ P a := ha'.invariant (P := fun a ↦ I a ∧ P a) ⟨hI, hP⟩
      fun ⟨hIa, hPa⟩ hstep' ↦ ⟨hpres hIa hstep'.2, (hstep hIa hPa hstep'.2).mp hstep'.1⟩
    exact hboth.2
  · rintro ⟨h, hall⟩
    induction h with
    | refl => exact .refl
    | @snoc es b e c hr hbc ih =>
        have hb : I b := hr.invariant hI hpres
        have hPb : P b := hall es b (List.prefix_append es [e]) hr
        have hPc : P c := hall (es ++ [e]) c List.prefix_rfl (hr.snoc hbc)
        refine (ih fun pre a hpre ha ↦ ?_).snoc ⟨(hstep hb hPb hbc).mpr hPc, hbc⟩
        exact hall pre a (hpre.trans (List.prefix_append es [e])) ha

/-- `Run.guarded_iff` for a property of the steps of a run. -/
theorem Run.guarded_iff_steps {R : σ → ε → σ → Prop} {G : σ → ε → Prop}
    {C : σ → ε → σ → Prop} {I : σ → Prop} (hR : ∀ {a e b}, R a e b → Fires step a e b) (hI : I s)
    (hpres : ∀ {a e b}, I a → R a e b → I b)
    (hstep : ∀ {a e b}, I a → R a e b → (G a e ↔ C a e b)) :
    Run (Guarded G R) s es t ↔
      Run R s es t ∧ ∀ pre e a b, pre ++ [e] <+: es → Run R s pre a → R a e b → C a e b := by
  constructor
  · intro h
    refine ⟨h.of_guarded, ?_⟩
    rintro pre e a b ⟨post, rfl⟩ ha hab
    obtain ⟨b', hb', -⟩ := h.split
    obtain ⟨a', ha', hG, -⟩ := hb'.of_snoc
    obtain rfl : a = a' := (ha.mono hR).det (ha'.of_guarded.mono hR)
    exact (hstep (ha.invariant hI hpres) hab).mp hG
  · rintro ⟨h, hall⟩
    induction h with
    | refl => exact .refl
    | @snoc es b e c hr hbc ih =>
        have hC : C b e c := hall es e b c List.prefix_rfl hr hbc
        refine (ih fun pre e' a a' hpre ha haa' ↦ ?_).snoc
          ⟨(hstep (hr.invariant hI hpres) hbc).mpr hC, hbc⟩
        exact hall pre e' a a' (hpre.trans (List.prefix_append es [e])) ha haa'

variable {M : Type w}

theorem total_sub [AddCommGroup M] {f g : σ → ε → M} :
    total step (fun s e ↦ f s e - g s e) s es = total step f s es - total step g s es := by
  induction es generalizing s with
  | nil => simp [total]
  | cons e es ih =>
      simp only [total]
      cases step s e with
      | none => simp
      | some t =>
          simp only [Option.elim_some, ih]
          abel

theorem total_snoc [AddMonoid M] {f : σ → ε → M} (h : Run (Fires step) s es t) :
    total step f s (es ++ [e]) = total step f s es + f t e := by
  rw [← exec_eq_some_iff] at h
  induction es generalizing s with
  | nil =>
      cases h
      cases hs : step t e <;> simp [total, hs]
  | cons e' es ih =>
      obtain ⟨u, hu, hrest⟩ := Option.bind_eq_some_iff.mp h
      simp only [List.cons_append, total, hu, Option.elim_some, ih hrest, add_assoc]

/-- If each step changes `g` by `f`, under an invariant `I`, a run changes it by
the total of `f`. -/
theorem Run.total_eq [AddCommMonoid M] {R : σ → ε → σ → Prop} {f : σ → ε → M} {g : σ → M}
    {I : σ → Prop} (hR : ∀ {a e b}, R a e b → Fires step a e b) (hI : I s)
    (hstep : ∀ {a e b}, I a → R a e b → I b ∧ g b = g a + f a e) (h : Run R s es t) :
    g t = g s + total step f s es := by
  suffices I t ∧ g t = g s + total step f s es from this.2
  induction h with
  | refl => exact ⟨hI, by simp [total]⟩
  | snoc hr hab ih =>
      obtain ⟨hIb, hg⟩ := hstep ih.1 hab
      exact ⟨hIb, by rw [hg, ih.2, total_snoc (hr.mono hR), add_assoc]⟩

end Exec

end CollegeCanteens.Transition
