import CollegeCanteens.App.Device

/-!
# What the handlers do with their pages

`uses` lists what the code that an event runs does with the page it belongs to:
`setState`, navigation, dialogs and snackbars.  An event that navigates replaces the
topmost layer by a new page, if the page that it navigates from is still there
(`Navigates`).
-/

namespace CollegeCanteens.App

open Transition Menu SignIn

/-- What a handler does with the context of its page. -/
inductive Use where
  | setState
  | navigate
  | showDialog
  | showSnackBar
deriving DecidableEq

/-- The page whose handler a call is. -/
def Task.page : Task → Nat
  | .verify page _ _ | .signIn page _ _ | .pushed page _ | .signOut page => page

namespace Device

/-- The Menu screen of a page, if it has one. -/
def menu? (s : Device) (i : Nat) : Option Screen :=
  match s.pages[i]? with
  | some (.initializer p) =>
    match p.home with
    | some (.user menu) => some menu
    | _ => none
  | _ => none

/-- When the topmost layer is taken off and is the dialog of a confirmed order,
its Pay call goes on, and resets the cart. -/
def popUses (s : Device) : List (Use × Nat) :=
  match s.stack with
  | .dialog i :: _ => if (s.menu? i).any Screen.resets then [(.setState, i)] else []
  | _ => []

/-- `pushReplacementNamed` or `popAndPushNamed`. -/
def navigateUses (s : Device) (i : Nat) : List (Use × Nat) := (.navigate, i) :: s.popUses

/-- The rest of `signInWithPhoneAuthCredential` up to its next await. -/
def advanceUses (s : Device) (i : Nat) : Except DartError (Option Await) → List (Use × Nat)
  | .ok (some .pushReplacementNamed) => s.navigateUses i
  | .ok none => [(.setState, i)]
  | .error .firebaseAuthException => [(.setState, i), (.showSnackBar, i)]
  | _ => []

/-- The buttons of a Menu screen, and Pay after its read. -/
def menuUses (menu : Screen) (i : Nat) : Menu.Event → List (Use × Nat)
  | .add _ => [(.setState, i)]
  | .remove key =>
    match menu.cart.get? key with
    | none => []
    | some entry => if entry.quantity = 0 then [] else [(.setState, i)]
  | .get _ r _ now =>
    match r >>= payAfterGet menu.username menu.toMenuState now with
    | .error _ => []
    | .ok _ => [(.showDialog, i)]
  | _ => []

/-- A call does this with its page. -/
def taskUses (s : Device) (id : Nat) (uses : List Use) : List (Use × Nat) :=
  match s.tasks.get? id with
  | some task => uses.map fun use ↦ (use, task.page)
  | none => []

/-- The page of a sign-in call and what the call does next, when its await
completes. -/
def next (s : Device) (call : Nat) (completion : Completion) :
    Option (Nat × Except DartError (Option Await)) :=
  match s.tasks.get? call with
  | some (.signIn i phone await) =>
    (await.resume (s.authenticated phone completion).currentUser completion).map
      fun next ↦ (i, next)
  | _ => none

/-- What the code that an event runs does with which pages, in order, as far as
none of it throws. -/
def uses (s : Device) : Event → List (Use × Nat)
  | .frame i => s.navigateUses i
  | .routeReply i reply =>
    match reply with
    | .ok _ => [(.setState, i)]
    | .error _ => []
  -- `onSaved` of the form's field, and the indicator
  | .verify i _ _ => [(.setState, i), (.setState, i)]
  | .pick i => [(.showDialog, i)]
  | .codeSent id => s.taskUses id [.setState]
  -- the second one is that of the sign-in handler
  | .verificationCompleted id _ => s.taskUses id [.setState, .setState]
  | .verificationFailed id => s.taskUses id [.setState, .showSnackBar]
  | .confirm i _ => [(.setState, i), (.setState, i)]
  | .reply call completion =>
    match s.next call completion with
    | some (i, next) => s.advanceUses i next
    | none => []
  | .popped call => s.taskUses call [.setState]
  | .signOutReply id err =>
    match err, s.tasks.get? id with
    | none, some task => s.navigateUses task.page
    | _, _ => []
  | .menu i e =>
    match s.menu? i with
    | some menu => menuUses menu i e
    | none => []
  | .back => s.popUses
  | .restart _ | .verifyThrows _ | .signOut _ _ => []

/-! ## Navigation -/

/-- The event replaces the topmost layer by a new page. -/
def Navigates (s : Device) (e : Event) : Prop :=
  ∃ use ∈ s.uses e, use.1 = .navigate ∧ s.Mounted use.2

instance (s : Device) (e : Event) : Decidable (s.Navigates e) :=
  inferInstanceAs (Decidable (∃ use ∈ s.uses e, _))

variable {s : Device} {e : Event} {i : Nat}

theorem not_navigates_of_uses (h : ∀ use ∈ s.uses e, use.1 ≠ .navigate) : ¬ s.Navigates e := by
  rintro ⟨use, hu, hnav, -⟩
  exact h use hu hnav

theorem navigate_notMem_popUses {use : Use × Nat} (hu : use ∈ s.popUses) : use.1 ≠ .navigate := by
  unfold popUses at hu
  split at hu
  · split at hu
    · obtain rfl := List.mem_singleton.mp hu
      exact Use.noConfusion
    · cases hu
  · cases hu

theorem navigate_notMem_menuUses {menu : Screen} {menuEvent : Menu.Event} {use : Use × Nat}
    (hu : use ∈ menuUses menu i menuEvent) : use.1 ≠ .navigate := by
  unfold menuUses at hu
  split at hu
  · rw [List.mem_singleton.mp hu]
    exact Use.noConfusion
  · split at hu
    · cases hu
    · split at hu
      · cases hu
      · rw [List.mem_singleton.mp hu]
        exact Use.noConfusion
  · split at hu
    · cases hu
    · rw [List.mem_singleton.mp hu]
      exact Use.noConfusion
  · cases hu

/-- A replacement is one of the page that it was called from. -/
theorem navigates_navigateUses_iff (hu : s.uses e = s.navigateUses i) :
    s.Navigates e ↔ s.Mounted i := by
  constructor
  · rintro ⟨use, huse, hnav, hm⟩
    rw [hu] at huse
    rcases List.mem_cons.mp huse with rfl | huse
    · exact hm
    · exact absurd hnav (navigate_notMem_popUses huse)
  · intro hm
    exact ⟨(.navigate, i), by rw [hu]; exact List.mem_cons_self, rfl, hm⟩

theorem navigate_notMem_taskUses {id : Nat} {uses : List Use} (h : .navigate ∉ uses) :
    ∀ use ∈ s.taskUses id uses, use.1 ≠ .navigate := by
  intro use hu hnav
  unfold taskUses at hu
  split at hu
  · obtain ⟨use', hu', rfl⟩ := List.mem_map.mp hu
    exact h (hnav ▸ hu')
  · cases hu

theorem not_navigates_routeReply {reply : Reply} : ¬ s.Navigates (.routeReply i reply) :=
  not_navigates_of_uses (by cases reply <;> simp [uses])

theorem not_navigates_menu {menuEvent : Menu.Event} : ¬ s.Navigates (.menu i menuEvent) := by
  refine not_navigates_of_uses fun use hu ↦ ?_
  simp only [uses] at hu
  split at hu
  · exact navigate_notMem_menuUses hu
  · cases hu

theorem not_navigates_back : ¬ s.Navigates .back :=
  not_navigates_of_uses fun _ ↦ navigate_notMem_popUses

end Device

end CollegeCanteens.App
