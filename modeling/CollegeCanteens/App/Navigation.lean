import CollegeCanteens.App.Effect

/-!
# The pages and the layers over a step

What a step of the app makes of one page, `pages_step`, and of the stack,
`stacked_step`.  Invariants of the pages are proved by induction on `Origin`, from
the code of `route()` and of the Menu screen alone: which of the events has led
there does not matter to them.
-/

namespace CollegeCanteens.App

open Transition Menu SignIn

namespace Device

variable {s t : Device} {i j call : Nat} {page : Page} {phone : String} {e : Event}
  {currentUser : Option String} {f : AuthenticateState → AuthenticateState}

/-! ## What becomes of a page -/

/-- How the page of place `j` comes to be what it is after the event `e` in the
state `s`. -/
inductive Origin (s : Device) (e : Event) (j : Nat) : Page → Prop
  | /-- It was there. -/
    same {page : Page} : s.pages[j]? = some page → Origin s e j page
  | /-- It is an Authenticate page. -/
    authenticate {p : AuthenticateState} : Origin s e j (.authenticate p)
  | /-- It is a new InitializerWidget. -/
    initState {currentUser : Option String} : Origin s e j (.initializer (.initState currentUser))
  | /-- Its frame has ended. -/
    frame {p : InitializerState} : Origin s e j (.initializer p) → p.route = .postFrame →
      Origin s e j (.initializer { p with route := .returned })
  | /-- Its read has completed. -/
    resume {p : InitializerState} {phone : String} {reply : Reply} : e = .routeReply j reply →
      s.pages[j]? = some (.initializer p) → p.route = .get phone → s.Mounted j →
      Origin s e j (.initializer (p.resume phone s.currentUser reply))
  | /-- Its read has completed after it was disposed. -/
    lost {p : InitializerState} : ¬ s.Mounted j → s.pages[j]? = some (.initializer p) →
      Origin s e j (.initializer { p with route := .failed })
  | /-- Its Menu screen has made a step. -/
    menu {p : InitializerState} {menu menu' : Screen} {menuEvent : Menu.Event} :
      Origin s e j (.initializer p) → p.home = some (.user menu) →
      Screen.Step menu menuEvent menu' →
      Origin s e j (.initializer { p with home := some (.user menu') })

/-- Every page of `t` has an origin in `s`. -/
def From (s : Device) (e : Event) (t : Device) : Prop :=
  ∀ j page, t.pages[j]? = some page → Origin s e j page

namespace From

variable {s' : Device}

theorem of_pages_eq (h : t.pages = s.pages) : From s e t := fun _ _ hp ↦ .same (h ▸ hp)

theorem modify {f : Page → Page} (h : From s e s')
    (hf : ∀ page, Origin s e i page → Origin s e i (f page)) : From s e (s'.modify i f) := by
  intro j page hp
  rw [getElem?_modify] at hp
  split at hp
  · obtain ⟨page', hp', rfl⟩ := Option.map_eq_some_iff.mp hp
    exact ‹i = j› ▸ hf page' (‹i = j› ▸ h j page' hp')
  · exact h j page hp

theorem setState (h : From s e s') : From s e (s'.setState i f) := by
  unfold Device.setState
  split
  · refine h.modify fun page hp ↦ ?_
    cases page with
    | authenticate p => exact .authenticate
    | initializer p => exact hp
  · exact h

theorem push (h : From s e s') (hp : ∀ j, Origin s e j page) : From s e (s'.push page) := by
  intro j page' hp'
  change (s'.pages ++ [page])[j]? = some page' at hp'
  rw [List.getElem?_append] at hp'
  split at hp'
  · exact h j page' hp'
  · obtain rfl := List.mem_singleton.mp (List.mem_of_getElem? hp')
    exact hp j

theorem dismiss (h : From s e s') : From s e (s'.dismiss i) := by
  refine h.modify fun page hp ↦ ?_
  cases page with
  | authenticate p => exact hp
  | initializer p =>
      cases hhome : p.home with
      | none => simpa [Page.mapInitializer, InitializerState.mapMenu, hhome] using hp
      | some home =>
          cases home with
          | admin => simpa [Page.mapInitializer, InitializerState.mapMenu, hhome] using hp
          | user menu =>
              cases hstep : menu.step .dismiss with
              | none =>
                  have hsame : { p with home := some (.user menu) } = p := by rw [← hhome]
                  simpa [Page.mapInitializer, InitializerState.mapMenu, hhome, hstep, hsame] using hp
              | some menu' =>
                  have hmenu := Origin.menu hp hhome hstep
                  simpa [Page.mapInitializer, InitializerState.mapMenu, hhome, hstep] using hmenu

theorem pop (h : From s e s') : From s e s'.pop := by
  unfold Device.pop
  split
  · exact h
  · exact dismiss h
  · exact h

theorem replace (h : From s e s') (hp : ∀ j, Origin s e j page) : From s e (s'.replace page) :=
  h.pop.push hp

end From

/-- The code of an event makes no page that has no origin. -/
theorem From.of_ran (h : Ran s e t) : From s e t := by
  induction h with
  | refl | account => exact .of_pages_eq rfl
  | @frame i p hp hroute =>
      intro j page hj
      rw [getElem?_modify] at hj
      split at hj
      · subst ‹i = j›
        rw [hp] at hj
        obtain rfl := Option.some.inj hj
        exact .frame (.same hp) hroute
      · exact .same hj
  | setState _ _ _ ih => exact ih.setState
  | setTask _ _ _ _ ih | endTask _ _ ih => exact ih

/-- Where the pages come from in a step. -/
theorem pages_step (h : Step s e t) : From s e t := by
  cases effect_step h with
  | launch =>
      intro j page hp
      obtain rfl := List.mem_singleton.mp (List.mem_of_getElem? hp)
      exact .initState
  | ran _ hran => exact .of_ran hran
  | @read i reply p phone he hp hroute =>
      intro j page hj
      rw [getElem?_modify] at hj
      split at hj
      · subst ‹i = j›
        rw [hp] at hj
        obtain rfl := Option.some.inj hj
        rw [Page.mapInitializer]
        split
        · exact .resume he hp hroute ‹_›
        · exact .lost ‹_› hp
      · exact .same hj
  | @menu i menuEvent p menu menu' stack _ hp hhome hmenu =>
      intro j page hj
      change (s.modify i _).pages[j]? = some page at hj
      rw [getElem?_modify] at hj
      split at hj
      · subst ‹i = j›
        rw [hp] at hj
        obtain rfl := Option.some.inj hj
        rw [Page.mapInitializer, InitializerState.mapMenu, hhome]
        exact .menu (.same hp) hhome hmenu
      · exact .same hj
  | pick => exact .of_pages_eq rfl
  | replace _ hran => exact (From.of_ran hran).replace fun _ ↦ .authenticate
  | pushed _ _ hran => exact (From.of_ran hran).replace fun _ ↦ .initState
  | back => exact (From.of_pages_eq rfl).pop

/-- What the read makes of its page, if that is still there. -/
theorem page_of_routeReply {reply : Reply} (h : Step s (.routeReply i reply) t) (hm : s.Mounted i) :
    ∃ p phone, s.pages[i]? = some (.initializer p) ∧ p.route = .get phone ∧
      t.pages[i]? = some (.initializer (p.resume phone s.currentUser reply)) := by
  obtain ⟨p, phone, hp, hroute, rfl⟩ := step_routeReply h
  refine ⟨p, phone, hp, hroute, ?_⟩
  rw [getElem?_modify, if_pos rfl, hp, Option.map_some, Page.mapInitializer, if_pos hm]

/-! ## What becomes of the stack -/

/-- How many pages there are, and which layers are on the stack, after an event in the
state `s` that does not launch the app anew.  A page replaces the topmost layer if and
only if the event navigates. -/
inductive Stacked (s : Device) (e : Event) : ℕ → List Layer → Prop
  | same : ¬ s.Navigates e → Stacked s e s.pages.length s.stack
  | /-- The topmost layer is taken off. -/
    pop : ¬ s.Navigates e → e = .back → 2 ≤ s.stack.length →
      Stacked s e s.pages.length s.stack.tail
  | picker : ¬ s.Navigates e → Stacked s e s.pages.length (.picker :: s.stack)
  | /-- The Menu screen of a page that is there opens a dialog. -/
    dialog {i : Nat} : ¬ s.Navigates e → s.Mounted i →
      Stacked s e s.pages.length (.dialog i :: s.stack)
  | /-- The topmost layer is taken off, and a new page pushed. -/
    replace : s.Navigates e → Stacked s e (s.pages.length + 1) (.page s.pages.length :: s.stack.tail)

theorem Stacked.of_eq (hnav : ¬ s.Navigates e) (hp : t.pages.length = s.pages.length)
    (hs : t.stack = s.stack) : Stacked s e t.pages.length t.stack := by
  rw [hp, hs]
  exact .same hnav

theorem Stacked.of_replace {s' : Device} (hnav : s.Navigates e)
    (hp : s'.pages.length = s.pages.length) (hs : s'.stack = s.stack) :
    Stacked s e (s'.replace page).pages.length (s'.replace page).stack := by
  simp only [Device.replace, push, List.length_append, List.length_singleton, length_pop_pages,
    pop_stack, hp, hs]
  exact .replace hnav

/-- Where the layers come from in a step. -/
theorem stacked_step (h : Step s e t) : Stacked s e t.pages.length t.stack ∨
    ∃ currentUser, e = .restart currentUser ∧ t = launch currentUser := by
  cases effect_step h with
  | @launch currentUser he => exact .inr ⟨currentUser, he, rfl⟩
  | ran hnav hran => exact .inl (.of_eq hnav hran.length_pages hran.stack_eq)
  | read he => exact .inl (.of_eq (he ▸ not_navigates_routeReply) length_modify_pages rfl)
  | menu he _ _ _ hstack =>
      left
      simp only [length_modify_pages]
      rcases hstack with rfl | ⟨hm, rfl⟩
      · exact .same (he ▸ not_navigates_menu)
      · exact .dialog (he ▸ not_navigates_menu) hm
  | pick he => exact .inl (.picker (he ▸ not_navigates_of_uses (by simp [uses])))
  | replace hnav hran | pushed _ hnav hran =>
      exact .inl (.of_replace hnav hran.length_pages hran.stack_eq)
  | back he hlength =>
      left
      rw [length_pop_pages, pop_stack]
      exact .pop (he ▸ not_navigates_back) he hlength

/-- Between `s` and `t` pages have been taken off, and one pushed at most. -/
def Follows (s t : Device) : Prop :=
  t.pages.length = s.pages.length ∧ t.pageIds.Sublist s.pageIds ∨
    t.pages.length = s.pages.length + 1 ∧
      ∃ ids, ids.Sublist s.pageIds ∧ t.pageIds = s.pages.length :: ids

/-- Where the pages on the stack come from in a step. -/
theorem stack_step (h : Step s e t) : Follows s t ∨ ∃ currentUser, t = launch currentUser := by
  refine (stacked_step h).imp (fun hstacked ↦ ?_) fun ⟨currentUser, _, ht⟩ ↦ ⟨currentUser, ht⟩
  have htail : (s.stack.tail.filterMap Layer.page?).Sublist s.pageIds :=
    (List.tail_sublist _).filterMap _
  unfold Follows pageIds
  generalize t.pages.length = n, t.stack = stack at hstacked ⊢
  cases hstacked with
  | same | picker | dialog => exact .inl ⟨rfl, .refl _⟩
  | pop => exact .inl ⟨rfl, htail⟩
  | replace => exact .inr ⟨rfl, _, htail, rfl⟩

/-- A page is mounted as long as it has been; a new one has a new name. -/
theorem mounted_step (h : Step s e t) (hj : t.Mounted j) :
    s.Mounted j ∨ s.pages.length ≤ j ∨ ∃ currentUser, t = launch currentUser := by
  rw [mounted_iff] at hj ⊢
  rcases stack_step h with (⟨-, hids⟩ | ⟨-, ids, hids, ht⟩) | hlaunch
  · exact .inl (hids.subset hj)
  · rw [ht] at hj
    rcases List.mem_cons.mp hj with rfl | hj
    · exact .inr (.inl le_rfl)
    · exact .inl (hids.subset hj)
  · exact .inr (.inr hlaunch)

/-- Pages lie on one another in the order in which they were opened. -/
structure Ordered (s : Device) : Prop where
  pairwise : s.pageIds.Pairwise (· > ·)
  lt_length : ∀ {j}, s.Mounted j → j < s.pages.length

theorem ordered_launch : Ordered (launch currentUser) where
  pairwise := List.pairwise_singleton ..
  lt_length hj := by
    rw [mounted_iff] at hj
    exact List.mem_singleton.mp hj ▸ Nat.zero_lt_one

theorem ordered_step (hs : Ordered s) (h : Step s e t) : Ordered t := by
  have hlt {j : Nat} (hj : j ∈ s.pageIds) : j < s.pages.length := hs.lt_length (mounted_iff.mpr hj)
  rcases stack_step h with (⟨hlength, hids⟩ | ⟨hlength, ids, hids, ht⟩) | ⟨currentUser, rfl⟩
  · refine ⟨hs.pairwise.sublist hids, fun hj ↦ ?_⟩
    rw [hlength]
    exact hlt (hids.subset (mounted_iff.mp hj))
  · refine ⟨?_, fun hj ↦ ?_⟩
    · rw [ht, List.pairwise_cons]
      exact ⟨fun j hj ↦ hlt (hids.subset hj), hs.pairwise.sublist hids⟩
    · rw [mounted_iff, ht] at hj
      rw [hlength]
      rcases List.mem_cons.mp hj with rfl | hj
      · exact Nat.lt_succ_self _
      · exact Nat.lt_succ_of_lt (hlt (hids.subset hj))
  · exact ordered_launch

/-- The topmost page is the one opened last. -/
theorem Ordered.le_of_head? (hs : Ordered s) (hi : s.pageIds.head? = some i) (hj : s.Mounted j) :
    j ≤ i := by
  obtain ⟨ids, hids⟩ := List.head?_eq_some_iff.mp hi
  have hpairwise := hs.pairwise
  rw [mounted_iff, hids] at hj
  rw [hids, List.pairwise_cons] at hpairwise
  rcases List.mem_cons.mp hj with rfl | hj
  · exact le_rfl
  · exact (hpairwise.1 j hj).le

end Device

end CollegeCanteens.App
