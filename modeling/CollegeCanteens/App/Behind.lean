import CollegeCanteens.App.Disposed

/-!
# What lies behind a page

The app goes from page to page by replacing the topmost layer of the Navigator.  As
long as that layer is the page itself there is never more than one page, so that
nothing lies behind it and the back button closes dialogs and the country picker
only (`Solo`).

If a dialog or the picker is on top, it is taken off instead, and the page stays
where it is, behind the new one: a home page of an account that has signed out, to
which the back button then leads.  `solo_run_iff` says that there is no other way
for a second page to come about.
-/

namespace CollegeCanteens.App.Device

open Transition Menu SignIn

/-- If the event replaces the topmost layer, that layer is a page. -/
def FindsPage (s : Device) (e : Event) : Prop :=
  s.Navigates e → (s.stack.head?.bind Layer.page?).isSome

instance (s : Device) (e : Event) : Decidable (s.FindsPage e) :=
  inferInstanceAs (Decidable (_ → _))

/-- There is one page, and nothing but dialogs and the country picker over it. -/
def Solo (s : Device) : Prop :=
  ∃ above i, s.stack = above ++ [.page i] ∧ ∀ layer ∈ above, layer.page? = none

variable {s t : Device} {e : Event} {es : List Event} {i : Nat}
  {currentUser : Option String}

/-! ## One page at a time -/

theorem solo_launch : (launch currentUser).Solo := ⟨[], 0, rfl, by simp⟩

/-- One of the layers of a device with one page is that page. -/
theorem not_solo_of_pages {above : List Layer} {i j : Nat}
    (h : s.stack = .page i :: (above ++ [.page j])) : ¬ s.Solo := by
  rintro ⟨above', k, hstack, hno⟩
  rw [h] at hstack
  cases above' with
  | nil => simp at hstack
  | cons layer above' =>
      obtain ⟨rfl, -⟩ := List.cons_eq_cons.mp hstack
      cases hno _ List.mem_cons_self

/-- From a state with one page, a step leads to one with one page if and only if a
replacement finds the page on top. -/
theorem findsPage_iff_solo (hs : s.Solo) (h : Step s e t) : s.FindsPage e ↔ t.Solo := by
  obtain ⟨above, i, hstack, hno⟩ := hs
  rcases stacked_step h with hstacked | ⟨currentUser, rfl, rfl⟩
  · generalize ht : t.stack = stack, t.pages.length = n at hstacked
    have hopened {layer : Layer} (hnav : ¬ s.Navigates e) (hlayer : layer.page? = none)
        (ht : t.stack = layer :: s.stack) : s.FindsPage e ↔ t.Solo := by
      refine iff_of_true (fun h ↦ absurd h hnav) ⟨layer :: above, i, by rw [ht, hstack]; rfl, ?_⟩
      exact List.forall_mem_cons.mpr ⟨hlayer, hno⟩
    cases hstacked with
    | same hnav => exact iff_of_true (fun h ↦ absurd h hnav) ⟨above, i, ht.trans hstack, hno⟩
    | pop hnav _ hlength =>
        refine iff_of_true (fun h ↦ absurd h hnav) ?_
        cases above with
        | nil => simp [hstack] at hlength
        | cons layer above =>
            exact ⟨above, i, by rw [ht, hstack]; rfl, (List.forall_mem_cons.mp hno).2⟩
    | picker hnav => exact hopened hnav rfl ht
    | dialog hnav => exact hopened hnav rfl ht
    | replace hnav =>
        cases above with
        | nil =>
            refine iff_of_true (fun _ ↦ by simp [hstack, Layer.page?])
              ⟨[], s.pages.length, ?_, by simp⟩
            rw [ht, hstack]
            rfl
        | cons layer above =>
            have hpages : t.stack = .page s.pages.length :: (above ++ [.page i]) := by
              rw [ht, hstack]
              rfl
            refine iff_of_false (fun hfinds ↦ ?_) (not_solo_of_pages hpages)
            have htop := hfinds hnav
            rw [hstack] at htop
            simp [hno layer List.mem_cons_self] at htop
  · have hnav : ¬ s.Navigates (.restart currentUser) := not_navigates_of_uses (by simp [uses])
    exact iff_of_true (fun h ↦ absurd h hnav) solo_launch

/-- There is one page in every state of a run, so that no earlier page lies behind
it, if and only if every replacement of the run finds a page on top, and not a
dialog or the country picker. -/
theorem solo_run_iff : Run (Guarded FindsPage Step) (launch currentUser) es t ↔
    Run Step (launch currentUser) es t ∧
      ∀ pre a, pre <+: es → Run Step (launch currentUser) pre a → a.Solo :=
  Run.guarded_iff (I := fun _ ↦ True) id trivial solo_launch (fun _ _ ↦ trivial)
    fun _ ha hR ↦ findsPage_iff_solo ha hR

end CollegeCanteens.App.Device
