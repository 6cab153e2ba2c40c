import CollegeCanteens.App.Uses

/-!
# What a step does

`effect_step` says once what each event does to a device: to a page, to the stack of
the Navigator, to the calls under way and to the account.  Most of the code that an
event runs leaves the Navigator and the home pages alone (`Ran`), and the rest is a
launch, the read of a page, a step of a Menu screen, or a layer that comes or goes.
What the steps preserve is proved from this, whatever the event.
-/

namespace CollegeCanteens.App

open Transition Menu SignIn

/-- The event is one of a call: it starts one, or something comes of one. -/
def Event.OfCall : Event → Prop
  | .restart _ | .frame _ | .routeReply _ _ | .pick _ | .menu _ _ | .back => False
  | _ => True

/-- The phone number that a call under way is for, if it is to sign somebody in. -/
def Task.phone? : Task → Option String
  | .verify _ phone _ | .signIn _ phone _ => some phone
  | .pushed _ _ | .signOut _ => none

/-- The phone number whose document a sign-in call reads. -/
def Task.reads? : Task → Option String
  | .signIn _ _ (.get phone) => some phone
  | _ => none

namespace Device

variable {s s' t : Device} {e : Event} {i id call : Nat} {page : Page} {phone : String}
  {completion : Completion}

/-- Where the phone numbers are from that an event deals with: from a call under way,
from a verification id that has been sent, or from a tap on Verify. -/
inductive Brings (s : Device) (e : Event) (phone : String) : Prop
  | task {id : Nat} {task : Task} : s.tasks.get? id = some task → task.phone? = some phone →
      Brings s e phone
  | page {i : Nat} {p : AuthenticateState} : s.pages[i]? = some (.authenticate p) →
      p.verificationId = some phone → Brings s e phone
  | verify {i id : Nat} : e = .verify i id phone → Brings s e phone

/-- What the code of an event makes of the state `s` with the Navigator left alone,
and no InitializerWidget touched but by the callback of its first frame. -/
inductive Ran (s : Device) (e : Event) : Device → Prop
  | refl : Ran s e s
  | /-- The first frame of an InitializerWidget has ended. -/
    frame {i : Nat} {p : InitializerState} : s.pages[i]? = some (.initializer p) →
      p.route = .postFrame →
      Ran s e (s.modify i (.mapInitializer fun p ↦ { p with route := .returned }))
  | /-- Somebody has signed in or out. -/
    account {currentUser : Option String} : e.OfCall →
      (∀ phone ∈ currentUser, s.Brings e phone) → Ran s e { s with currentUser := currentUser }
  | setState {s' : Device} {i : Nat} {f : AuthenticateState → AuthenticateState} : e.OfCall →
      Ran s e s' → (∀ p phone, (f p).verificationId = some phone →
        p.verificationId = some phone ∨ s.Brings e phone) → Ran s e (s'.setState i f)
  | setTask {s' : Device} {id : Nat} {task : Task} : e.OfCall → Ran s e s' →
      (∀ phone ∈ task.phone?, s.Brings e phone) →
      (∀ phone ∈ task.reads?, s'.currentUser = some phone) → Ran s e (s'.setTask id task)
  | endTask {s' : Device} {id : Nat} : e.OfCall → Ran s e s' → Ran s e (s'.endTask id)

namespace Ran

theorem stack_eq (h : Ran s e t) : t.stack = s.stack := by
  induction h with
  | refl | frame | account => rfl
  | setState _ _ _ ih => exact setState_stack.trans ih
  | setTask _ _ _ _ ih | endTask _ _ ih => exact ih

theorem length_pages (h : Ran s e t) : t.pages.length = s.pages.length := by
  induction h with
  | refl | account => rfl
  | frame => exact length_modify_pages
  | setState _ _ _ ih => exact length_setState_pages.trans ih
  | setTask _ _ _ _ ih | endTask _ _ ih => exact ih

theorem mounted_iff (h : Ran s e t) : t.Mounted i ↔ s.Mounted i := by
  rw [Mounted, h.stack_eq, Mounted]

/-- The loading indicator is switched on or off. -/
theorem setLoading {b : Bool} (he : e.OfCall) (h : Ran s e s') :
    Ran s e (s'.setState i fun p ↦ { p with showLoading := b }) :=
  .setState he h fun _ _ hphone ↦ .inl hphone

/-- A call that reads no document is set. -/
theorem setTask' {task : Task} (he : e.OfCall) (h : Ran s e s') (htask : task.reads? = none)
    (hphone : ∀ phone ∈ task.phone?, s.Brings e phone) : Ran s e (s'.setTask id task) := by
  refine .setTask he h hphone ?_
  rw [htask]
  rintro phone ⟨⟩

/-- A call to `verifyPhoneNumber` goes on. -/
theorem setVerify {owed : Bool} (he : e.OfCall) (h : Ran s e s') (hphone : s.Brings e phone) :
    Ran s e (s'.setTask id (.verify i phone owed)) := by
  refine h.setTask' he rfl ?_
  rintro _ ⟨⟩
  exact hphone

theorem startSignIn (he : e.OfCall) (h : Ran s e s') (hphone : s.Brings e phone) :
    Ran s e (s'.startSignIn i call phone) := by
  refine (h.setLoading he).setTask' he rfl ?_
  rintro _ ⟨⟩
  exact hphone

theorem stopLoading (he : e.OfCall) (h : Ran s e s') : Ran s e (s'.stopLoading i call) :=
  .endTask he (h.setLoading he)

theorem authenticated (he : e.OfCall) (hphone : s.Brings e phone) :
    Ran s e (s.authenticated phone completion) := by
  unfold Device.authenticated
  split
  · refine .account he ?_
    rintro _ ⟨⟩
    exact hphone
  · exact .refl

end Ran

/-- What an event does. -/
inductive Effect (s : Device) (e : Event) : Device → Prop
  | launch {currentUser : Option String} : e = .restart currentUser → s.Keeps currentUser →
      Effect s e (launch currentUser)
  | ran {t : Device} : ¬ s.Navigates e → Ran s e t → Effect s e t
  | /-- The read of `route()` completes. -/
    read {i : Nat} {reply : Reply} {p : InitializerState} {phone : String} :
      e = .routeReply i reply → s.pages[i]? = some (.initializer p) → p.route = .get phone →
      Effect s e (s.modify i (.mapInitializer fun p ↦
        if s.Mounted i then p.resume phone s.currentUser reply else { p with route := .failed }))
  | /-- A Menu screen makes a step, and may open a dialog. -/
    menu {i : Nat} {menuEvent : Menu.Event} {p : InitializerState} {menu menu' : Screen}
      {stack : List Layer} : e = .menu i menuEvent → s.pages[i]? = some (.initializer p) →
      p.home = some (.user menu) → Screen.Step menu menuEvent menu' →
      stack = s.stack ∨ s.Mounted i ∧ stack = .dialog i :: s.stack →
      Effect s e { s.modify i (.mapInitializer (.mapMenu fun _ ↦ menu')) with stack := stack }
  | pick {i : Nat} : e = .pick i → Effect s e { s with stack := .picker :: s.stack }
  | /-- An Authenticate page replaces the topmost layer. -/
    replace {s' : Device} : s.Navigates e → Ran s e s' →
      Effect s e (s'.replace (.authenticate .initial))
  | /-- A sign-in call replaces it by an InitializerWidget. -/
    pushed {s' : Device} {i call : Nat} : e.OfCall → s.Navigates e → Ran s e s' →
      Effect s e ((s'.replace (.initializer (.initState s'.currentUser))).setTask call
        (.pushed i s'.pages.length))
  | back : e = .back → 2 ≤ s.stack.length → Effect s e s.pop

/-- The sign-in handler up to its next await. -/
theorem Effect.advance {next : Except DartError (Option Await)} (he : e.OfCall) (h : Ran s e s')
    (hphone : s.Brings e phone) (hu : s.uses e = s.advanceUses i next)
    (hget : ∀ phone, next = .ok (some (.get phone)) → s'.currentUser = some phone) :
    Effect s e (s'.advance i call phone next) := by
  have hno (h : ∀ use ∈ s.advanceUses i next, use.1 ≠ .navigate) : ¬ s.Navigates e :=
    not_navigates_of_uses (hu ▸ h)
  unfold Device.advance
  split
  · have hnavigates : s.Navigates e ↔ s.Mounted i := navigates_navigateUses_iff hu
    split
    · next hm => exact .pushed he (hnavigates.mpr (h.mounted_iff.mp hm)) h
    · next hm =>
        exact .ran (fun hnav ↦ hm (h.mounted_iff.mpr (hnavigates.mp hnav))) (.endTask he h)
  · next await hne =>
      refine .ran (hno ?_) (.setTask he h ?_ ?_)
      · cases await with
        | pushReplacementNamed => exact absurd rfl hne
        | signInWithCredential | get | set => simp [advanceUses]
      · rintro _ ⟨⟩
        exact hphone
      · intro phone' hreads
        cases await <;> cases hreads
        exact hget phone' rfl
  · exact .ran (hno (by simp [advanceUses])) (h.stopLoading he)
  · exact .ran (hno (by simp [advanceUses])) (h.stopLoading he)
  · next err hne =>
      refine .ran (hno ?_) (.endTask he h)
      cases err with
      | firebaseAuthException => exact absurd rfl hne
      | typeError | firebaseException => simp [advanceUses]

/-- A page navigates away if it is still there. -/
theorem Effect.leave (h : Ran s e s') (hu : s.uses e = s.navigateUses i) :
    Effect s e (if s.Mounted i then s'.replace (.authenticate .initial) else s') := by
  split
  · exact .replace ((navigates_navigateUses_iff hu).mpr ‹_›) h
  · exact .ran (fun hnav ↦ absurd ((navigates_navigateUses_iff hu).mp hnav) ‹_›) h

theorem effect_step (h : Step s e t) : Effect s e t := by
  cases e with
  | restart currentUser =>
      obtain ⟨hkeeps, rfl⟩ := step_restart h
      exact .launch rfl hkeeps
  | frame i =>
      obtain ⟨p, hp, hroute, s', rfl, rfl⟩ := step_frame h
      exact .leave (.frame hp hroute) rfl
  | routeReply i reply =>
      obtain ⟨p, phone, hp, hroute, rfl⟩ := step_routeReply h
      exact .read rfl hp hroute
  | verify i id phone =>
      obtain ⟨-, -, rfl⟩ := step_verify h
      exact .ran (not_navigates_of_uses (by simp [uses]))
        (.setVerify trivial (.setLoading trivial .refl) (.verify rfl))
  | pick i =>
      obtain ⟨-, rfl⟩ := step_pick h
      exact .pick rfl
  | codeSent id =>
      obtain ⟨i, phone, owed, hget, rfl⟩ := step_codeSent h
      refine .ran (not_navigates_of_uses (navigate_notMem_taskUses (by decide)))
        (.setVerify trivial (.setState trivial .refl ?_) (.task hget rfl))
      rintro p _ ⟨⟩
      exact .inr (.task hget rfl)
  | verificationCompleted id call =>
      obtain ⟨i, phone, owed, hget, -, s', rfl, rfl⟩ := step_verificationCompleted h
      have hphone : s.Brings (.verificationCompleted id call) phone := .task hget rfl
      have hran : Ran s (.verificationCompleted id call)
          ((s.setState i fun p ↦ { p with showLoading := false }).setTask id
            (.verify i phone false)) :=
        .setVerify trivial (.setLoading trivial .refl) hphone
      refine .ran (not_navigates_of_uses (navigate_notMem_taskUses (by decide))) ?_
      split
      · exact hran.startSignIn trivial hphone
      · exact hran
  | verificationFailed id =>
      obtain ⟨i, phone, owed, hget, rfl⟩ := step_verificationFailed h
      exact .ran (not_navigates_of_uses (navigate_notMem_taskUses (by decide)))
        (.setVerify trivial (.setLoading trivial .refl) (.task hget rfl))
  | verifyThrows id =>
      obtain ⟨i, phone, owed, hget, rfl⟩ := step_verifyThrows h
      exact .ran (not_navigates_of_uses (by simp [uses]))
        (.setVerify trivial .refl (.task hget rfl))
  | confirm i call =>
      obtain ⟨-, -, p, phone, hp, hphone, rfl⟩ := step_confirm h
      exact .ran (not_navigates_of_uses (by simp [uses]))
        (.startSignIn trivial .refl (.page hp hphone))
  | reply call completion =>
      obtain ⟨i, phone, await, next, hget, hnext, rfl⟩ := step_reply h
      have hphone : s.Brings (.reply call completion) phone := .task hget rfl
      have huses : s.uses (.reply call completion) = s.advanceUses i next := by
        simp only [uses, Device.next, hget, hnext, Option.map_some]
      refine .advance trivial (.authenticated trivial hphone) hphone huses ?_
      rintro phone' rfl
      exact currentUser_of_resume_get hnext
  | popped call =>
      obtain ⟨i, home, -, -, rfl⟩ := step_popped h
      exact .ran (not_navigates_of_uses (navigate_notMem_taskUses (by decide)))
        (.stopLoading trivial .refl)
  | signOut i id =>
      obtain ⟨-, -, rfl⟩ := step_signOut h
      refine .ran (not_navigates_of_uses (by simp [uses])) (.setTask' trivial .refl rfl ?_)
      rintro phone ⟨⟩
  | signOutReply id err =>
      obtain ⟨i, hget, ⟨herr, rfl⟩ | ⟨rfl, s', rfl, rfl⟩⟩ := step_signOutReply h
      · refine .ran (not_navigates_of_uses ?_) (.endTask trivial .refl)
        cases err with
        | none => exact absurd rfl herr
        | some err => simp [uses]
      · refine .leave (.endTask trivial (.account trivial ?_)) ?_
        · rintro phone ⟨⟩
        · simp only [uses, hget, Task.page]
  | menu i menuEvent =>
      obtain ⟨-, -, p, menu, menu', hp, hhome, hmenu, s', rfl, rfl | ⟨hm, rfl⟩⟩ := step_menu h
      · exact .menu rfl hp hhome hmenu (.inl rfl)
      · exact .menu rfl hp hhome hmenu (.inr ⟨hm, rfl⟩)
  | back =>
      obtain ⟨hlength, rfl⟩ := step_back h
      exact .back rfl hlength

end Device

end CollegeCanteens.App
