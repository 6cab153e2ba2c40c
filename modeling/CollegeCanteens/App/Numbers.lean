import CollegeCanteens.App.Effect

/-!
# The phone numbers of a device

A phone number comes to a device by a tap on Verify, and from there it goes by the
call to `verifyPhoneNumber`, the verification id that is sent and the credential of a
sign-in to Auth, which keeps it when the app is killed.  No other event brings a
number with it, so that what holds of the account at the launch and of every
number that is verified holds of all of them (`knows_run`).
-/

namespace CollegeCanteens.App

open Transition SignIn

/-- The phone number that a page has been sent a verification id for. -/
def Page.phone? : Page → Option String
  | .authenticate p => p.verificationId
  | .initializer _ => none

namespace Device

variable {s t : Device} {e : Event} {es : List Event} {i id : Nat} {phone : String}
  {page : Page} {task : Task} {currentUser : Option String} {Q : String → Prop}

/-- Every number has `Q` that is signed in or may become so without a tap on Verify. -/
structure Knows (Q : String → Prop) (s : Device) : Prop where
  currentUser : ∀ phone ∈ s.currentUser, Q phone
  pages : ∀ page ∈ s.pages, ∀ phone ∈ page.phone?, Q phone
  tasks : s.tasks.All fun _ task ↦ ∀ phone ∈ task.phone?, Q phone

theorem knows_launch (h : ∀ phone ∈ currentUser, Q phone) : (launch currentUser).Knows Q := by
  constructor
  · exact h
  · intro page hpage phone hphone
    obtain rfl := List.mem_singleton.mp hpage
    cases hphone
  · exact OrderedMap.all_empty

namespace Knows

/-- The number of a call that has it. -/
theorem of_get? (h : s.Knows Q) (hget : s.tasks.get? id = some task)
    (htask : task.phone? = some phone) : Q phone :=
  h.tasks id task hget phone htask

theorem modify {f : Page → Page} (h : s.Knows Q)
    (hf : ∀ page phone, (f page).phone? = some phone → page.phone? = some phone ∨ Q phone) :
    (s.modify i f).Knows Q := by
  refine ⟨h.currentUser, ?_, h.tasks⟩
  intro page hpage phone hphone
  obtain ⟨j, hj⟩ := List.getElem?_of_mem hpage
  rw [getElem?_modify] at hj
  split at hj
  · obtain ⟨page', hpage', rfl⟩ := Option.map_eq_some_iff.mp hj
    rcases hf page' phone hphone with hphone | hQ
    · exact h.pages page' (List.mem_of_getElem? hpage') phone hphone
    · exact hQ
  · exact h.pages page (List.mem_of_getElem? hj) phone hphone

theorem mapInitializer {f : InitializerState → InitializerState} (h : s.Knows Q) :
    (s.modify i (.mapInitializer f)).Knows Q := by
  apply h.modify
  intro page phone hphone
  cases page with
  | authenticate p => exact .inl hphone
  | initializer p => cases hphone

theorem setState {f : AuthenticateState → AuthenticateState} (h : s.Knows Q)
    (hf : ∀ p phone, (f p).verificationId = some phone → p.verificationId = some phone ∨ Q phone) :
    (s.setState i f).Knows Q := by
  unfold Device.setState
  split
  · apply h.modify
    intro page phone hphone
    cases page with
    | authenticate p => exact hf p phone hphone
    | initializer p => cases hphone
  · exact h

theorem push (h : s.Knows Q) (hpage : page.phone? = none) : (s.push page).Knows Q := by
  refine ⟨h.currentUser, ?_, h.tasks⟩
  intro page' hmem phone hphone
  rcases List.mem_append.mp hmem with hmem | hmem
  · exact h.pages page' hmem phone hphone
  · obtain rfl := List.mem_singleton.mp hmem
    cases hpage.symm.trans hphone

theorem pop (h : s.Knows Q) : s.pop.Knows Q := by
  unfold Device.pop
  split
  · exact h
  · exact mapInitializer ⟨h.currentUser, h.pages, h.tasks⟩
  · exact ⟨h.currentUser, h.pages, h.tasks⟩

theorem replace (h : s.Knows Q) (hpage : page.phone? = none) : (s.replace page).Knows Q :=
  h.pop.push hpage

theorem setTask (h : s.Knows Q) (htask : ∀ phone ∈ task.phone?, Q phone) :
    (s.setTask id task).Knows Q :=
  ⟨h.currentUser, h.pages, h.tasks.set_iff.mpr htask⟩

theorem endTask (h : s.Knows Q) : (s.endTask id).Knows Q :=
  ⟨h.currentUser, h.pages, h.tasks.remove⟩

/-- What an event brings is known, but for the number of a tap on Verify. -/
theorem brings (h : s.Knows Q) (he : ∀ i id phone, e = .verify i id phone → Q phone)
    (hphone : s.Brings e phone) : Q phone := by
  cases hphone with
  | task hget hphone => exact h.of_get? hget hphone
  | page hp hphone => exact h.pages _ (List.mem_of_getElem? hp) phone hphone
  | verify heq => exact he _ _ _ heq

theorem of_ran (hs : s.Knows Q) (he : ∀ i id phone, e = .verify i id phone → Q phone)
    (h : Ran s e t) : t.Knows Q := by
  induction h with
  | refl => exact hs
  | frame => exact hs.mapInitializer
  | account _ hphone =>
      exact ⟨fun phone hmem ↦ hs.brings he (hphone phone hmem), hs.pages, hs.tasks⟩
  | setState _ _ hphone ih =>
      exact ih.setState fun p phone hid ↦ (hphone p phone hid).imp_right (hs.brings he)
  | setTask _ _ hphone _ ih =>
      exact ih.setTask fun phone hmem ↦ hs.brings he (hphone phone hmem)
  | endTask _ _ ih => exact ih.endTask

end Knows

/-- A launch keeps the account, or that of a sign-in call that was under way. -/
theorem knows_keeps (hs : s.Knows Q) (h : s.Keeps currentUser) : (launch currentUser).Knows Q := by
  apply knows_launch
  rintro phone ⟨⟩
  rcases h with heq | ⟨⟨id, task⟩, hmem, hleave⟩
  · exact hs.currentUser phone heq.symm
  · cases task with
    | signIn i phone' await =>
        cases await <;> cases hleave
        exact hs.of_get? (OrderedMap.get?_eq_some_iff.mpr hmem) rfl
    | signOut i => cases hleave
    | verify | pushed => cases hleave

/-- A step brings no number but the one of a tap on Verify. -/
theorem knows_step (h : Step s e t) (hs : s.Knows Q)
    (he : ∀ i id phone, e = .verify i id phone → Q phone) : t.Knows Q := by
  cases effect_step h with
  | launch _ hkeeps => exact knows_keeps hs hkeeps
  | ran _ hran => exact hs.of_ran he hran
  | read => exact hs.mapInitializer
  | @menu i _ _ _ menu' =>
      have hmodify := hs.mapInitializer (i := i) (f := .mapMenu fun _ ↦ menu')
      exact ⟨hmodify.currentUser, hmodify.pages, hmodify.tasks⟩
  | pick => exact ⟨hs.currentUser, hs.pages, hs.tasks⟩
  | replace _ hran => exact (hs.of_ran he hran).replace rfl
  | pushed _ _ hran =>
      apply ((hs.of_ran he hran).replace rfl).setTask
      rintro phone ⟨⟩
  | back => exact hs.pop

/-- What holds of the account at the launch and of every number that is verified
holds of every number that the device knows. -/
theorem knows_run (h : Run Step (launch currentUser) es t)
    (hlaunch : ∀ phone ∈ currentUser, Q phone)
    (hes : ∀ i id phone, .verify i id phone ∈ es → Q phone) : t.Knows Q := by
  induction h with
  | refl => exact knows_launch hlaunch
  | @snoc es a e b _ hR ih =>
      apply knows_step hR
      · exact ih fun i id phone hmem ↦ hes i id phone (List.mem_append_left _ hmem)
      · rintro i id phone rfl
        exact hes i id phone (List.mem_append_right _ List.mem_cons_self)

/-- The phone number was verified. -/
def Verified (es : List Event) (phone : String) : Prop := ∃ i id, .verify i id phone ∈ es

/-- Whoever is signed in was so at the launch, or has had the number verified on
the device. -/
theorem currentUser_run (h : Run Step (launch currentUser) es t) (ht : t.currentUser = some phone) :
    currentUser = some phone ∨ Verified es phone := by
  have hknows : t.Knows fun phone ↦ currentUser = some phone ∨ Verified es phone := by
    apply knows_run h
    · exact fun phone hphone ↦ .inl hphone
    · exact fun i id phone hmem ↦ .inr ⟨i, id, hmem⟩
  exact hknows.currentUser phone ht

end Device

end CollegeCanteens.App
