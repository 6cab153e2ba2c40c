import CollegeCanteens.App.Homes

/-!
# Whose home page it is

A UserHomePage is one of the same user for as long as the app is not launched anew:
nothing that happens on the device, and no read that completes, makes it one of
somebody else (`user?_step`).
-/

namespace CollegeCanteens.App

open Transition Menu SignIn

/-- The user of a UserHomePage. -/
def Home.username? : Home → Option String
  | .admin => none
  | .user menu => some menu.username

/-- The user of the UserHomePage that an InitializerWidget shows. -/
def InitializerState.user? (p : InitializerState) : Option String := p.home.bind Home.username?

namespace Device

variable {s t : Device} {e : Event} {i j : Nat} {page : Page} {username : String}
  {g : InitializerState → InitializerState}

/-- The user of the UserHomePage that a page shows. -/
def user? (s : Device) (i : Nat) : Option String := (s.initializer? i).bind InitializerState.user?

theorem user?_eq : s.user? i = (s.home? i).bind Home.username? := by
  unfold user? home?
  cases s.initializer? i <;> rfl

theorem user?_eq_some_iff :
    s.user? i = some username ↔ ∃ menu, s.menu? i = some menu ∧ menu.username = username := by
  rw [user?_eq, Option.bind_eq_some_iff]
  constructor
  · rintro ⟨home, hhome, huser⟩
    cases home with
    | admin => cases huser
    | user menu => exact ⟨menu, menu?_eq_some_iff.mpr hhome, Option.some.inj huser⟩
  · rintro ⟨menu, hmenu, rfl⟩
    exact ⟨.user menu, menu?_eq_some_iff.mp hmenu, rfl⟩

/-! ## What the operations leave alone -/

theorem user?_modify (hg : ∀ p, s.initializer? j = some p → (g p).user? = p.user?) :
    (s.modify j (.mapInitializer g)).user? i = s.user? i := by
  rw [user?, user?, initializer?_modify]
  split
  · next h =>
      subst h
      cases hp : s.initializer? j with
      | none => rfl
      | some p => exact hg p hp
  · rfl

/-- A step of its Menu screen leaves the user of a page alone. -/
theorem user?_mapMenu {p : InitializerState} {h : Screen → Screen}
    (hh : ∀ menu, p.home = some (.user menu) → (h menu).username = menu.username) :
    (p.mapMenu h).user? = p.user? := by
  unfold InitializerState.mapMenu
  split
  · next menu hmenu =>
      rw [InitializerState.user?, InitializerState.user?, hmenu]
      exact congrArg some (hh menu hmenu)
  · rfl

@[simp] theorem user?_dismiss : (s.dismiss j).user? i = s.user? i := by
  apply user?_modify
  intro p _
  apply user?_mapMenu
  intro menu _
  cases hstep : menu.step .dismiss with
  | none => rfl
  | some menu' => exact Screen.username_step hstep

@[simp] theorem user?_pop : s.pop.user? i = s.user? i := by
  unfold pop
  split
  · rfl
  · exact user?_dismiss
  · rfl

/-- A new page shows no home page. -/
theorem user?_replace (hp : ∀ p, page = .initializer p → p.home = none) :
    (s.replace page).user? i = s.user? i := by
  rw [replace, user?_eq, home?_push hp, ← user?_eq, user?_pop]

theorem Ran.user?_eq (h : Ran s e t) : t.user? i = s.user? i := by
  rw [Device.user?_eq, h.home?_eq, Device.user?_eq]

/-! ## What the steps leave alone -/

/-- As long as the app is not launched anew the user of a home page stays. -/
theorem user?_step (hs : s.Waiting) (h : Step s e t) (he : ∀ currentUser, e ≠ .restart currentUser)
    (hu : s.user? i = some username) : t.user? i = some username := by
  rw [← hu]
  cases effect_step h with
  | launch heq => exact absurd heq (he _)
  | ran _ hran => exact hran.user?_eq
  | @read j reply p phone _ hp hroute =>
      by_cases hij : j = i
      · -- the page shows nothing as long as it waits for its read
        subst hij
        have hnone : p.home = none := (hs j p hp).home phone hroute
        rw [user?, initializer?_eq_some_iff.mpr hp, Option.bind_some, InitializerState.user?,
          hnone] at hu
        cases hu
      · rw [user?, initializer?_modify, if_neg hij, user?]
  | @menu j menuEvent p menu menu' stack _ hp hhome hmenu =>
      change (s.modify j (.mapInitializer (.mapMenu fun _ ↦ menu'))).user? i = s.user? i
      apply user?_modify
      intro p' hp'
      obtain rfl : p = p' := by
        rw [initializer?_eq_some_iff, hp] at hp'
        exact Page.initializer.inj (Option.some.inj hp')
      apply user?_mapMenu
      intro menu₀ hmenu₀
      obtain rfl : menu = menu₀ := Home.user.inj (Option.some.inj (hhome.symm.trans hmenu₀))
      exact Screen.username_step hmenu
  | pick => rfl
  | replace _ hran =>
      refine (user?_replace ?_).trans hran.user?_eq
      rintro p ⟨⟩
  | pushed _ _ hran =>
      refine (user?_replace ?_).trans hran.user?_eq
      rintro p ⟨⟩
      rfl
  | back => exact user?_pop

end Device

end CollegeCanteens.App
