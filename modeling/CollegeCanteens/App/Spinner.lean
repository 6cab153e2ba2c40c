import CollegeCanteens.App.Navigation

/-!
# Loading indicators

An InitializerWidget shows one while `isLoading`, an Authenticate page while
`showLoading`.  The first is cleared only if `route()` succeeds, the second by
the callbacks of `verifyPhoneNumber` and by the sign-in handler, unless that
throws something that it does not catch.

The invariant is `Attended`: where an Authenticate page that is still there
shows a loading indicator, some call under way has to do with it.  `Handled` is
what a step needs to keep this up, and `clear_run` says that then nothing is
left behind a loading indicator once no call is outstanding.
-/

namespace CollegeCanteens.App

open Transition SignIn

/-- The call has to do with the loading indicator of the page `i`: it is going
to clear it, or has pushed a page over it. -/
def Task.Holds (i : Nat) : Task → Prop
  | .verify page _ owed => page = i ∧ owed = true
  | .signIn page _ _ => page = i
  | .pushed page home => page = i ∧ page < home
  | .signOut _ => False

instance (i : Nat) : DecidablePred (Task.Holds i)
  | .verify page _ owed => inferInstanceAs (Decidable (page = i ∧ owed = true))
  | .signIn page _ _ => inferInstanceAs (Decidable (page = i))
  | .pushed page home => inferInstanceAs (Decidable (page = i ∧ page < home))
  | .signOut _ => .isFalse not_false

/-- The page does not wait for anything in `route()`. -/
def Page.RouteEnded : Page → Prop
  | .initializer p => p.route = .returned ∨ p.route = .failed
  | .authenticate _ => True

instance : DecidablePred Page.RouteEnded
  | .initializer p => inferInstanceAs (Decidable (p.route = .returned ∨ p.route = .failed))
  | .authenticate _ => .isTrue trivial

namespace Device

variable {s t : Device} {e : Event} {es : List Event} {i j id call : Nat} {page : Page}
  {task : Task} {phone : String} {f : AuthenticateState → AuthenticateState}
  {currentUser : Option String}

/-! ## Authenticate -/

/-- An Authenticate page with `showLoading` set. -/
def ShowsLoading (s : Device) (i : Nat) : Prop :=
  ∃ p, s.pages[i]? = some (.authenticate p) ∧ p.showLoading = true

/-- Some call has to do with the loading indicator of the page. -/
def Held (s : Device) (i : Nat) : Prop := ∃ id task, s.tasks.get? id = some task ∧ task.Holds i

/-- Every loading indicator is held by a call, but for that of the page `i`. -/
def AttendedBut (s : Device) (i : Nat) : Prop :=
  ∀ j, j ≠ i → s.Mounted j → s.ShowsLoading j → s.Held j

/-- Every loading indicator is held by a call. -/
def Attended (s : Device) : Prop := ∀ j, s.Mounted j → s.ShowsLoading j → s.Held j

/-- The call, if there is one, has to do with no page but `i`. -/
def OnlyHolds (s : Device) (id i : Nat) : Prop :=
  ∀ task, s.tasks.get? id = some task → ∀ j, task.Holds j → j = i

theorem onlyHolds_of_notMem (h : id ∉ s.tasks) : s.OnlyHolds id i := by
  intro task htask
  rw [OrderedMap.notMem_iff.mp h] at htask
  cases htask

theorem onlyHolds_of_get? (h : s.tasks.get? id = some task) (ht : ∀ j, task.Holds j → j = i) :
    s.OnlyHolds id i := by
  intro task' htask'
  cases h.symm.trans htask'
  exact ht

theorem showsLoading_of_mapInitializer {f : InitializerState → InitializerState}
    (h : (s.modify i (.mapInitializer f)).ShowsLoading j) : s.ShowsLoading j := by
  obtain ⟨p, hp, hload⟩ := h
  rw [getElem?_modify] at hp
  split at hp
  · obtain ⟨page, hpage, heq⟩ := Option.map_eq_some_iff.mp hp
    cases page with
    | authenticate p' =>
        cases heq
        exact ⟨p, hpage, hload⟩
    | initializer p' => cases heq
  · exact ⟨p, hp, hload⟩

theorem showsLoading_of_setState (hne : j ≠ i) (h : (s.setState i f).ShowsLoading j) :
    s.ShowsLoading j := by
  unfold setState at h
  split at h
  · obtain ⟨p, hp, hload⟩ := h
    rw [getElem?_modify, if_neg hne.symm] at hp
    exact ⟨p, hp, hload⟩
  · exact h

theorem not_showsLoading_setState (hf : ∀ p, (f p).showLoading = false) (hm : s.Mounted i) :
    ¬ (s.setState i f).ShowsLoading i := by
  rintro ⟨p, hp, hload⟩
  rw [setState, if_pos hm, getElem?_modify, if_pos rfl] at hp
  obtain ⟨page, -, heq⟩ := Option.map_eq_some_iff.mp hp
  cases page with
  | authenticate p' =>
      cases heq
      rw [hf p'] at hload
      cases hload
  | initializer p' => cases heq

theorem showsLoading_of_pop (h : s.pop.ShowsLoading j) : s.ShowsLoading j := by
  obtain ⟨p, hp, hload⟩ := h
  rcases pop_pages (s := s) with heq | ⟨i, heq⟩ <;> rw [heq] at hp
  · exact ⟨p, hp, hload⟩
  · exact showsLoading_of_mapInitializer ⟨p, hp, hload⟩

/-- A new page shows none. -/
theorem showsLoading_of_push (hpage : ∀ p, page = .authenticate p → p.showLoading = false)
    (h : (s.push page).ShowsLoading j) : s.ShowsLoading j := by
  obtain ⟨p, hp, hload⟩ := h
  change (s.pages ++ [page])[j]? = _ at hp
  rw [List.getElem?_append] at hp
  split at hp
  · exact ⟨p, hp, hload⟩
  · have hnew := hpage p (List.mem_singleton.mp (List.mem_of_getElem? hp)).symm
    rw [hnew] at hload
    cases hload

/-- Some call other than this one has to do with the loading indicator that the
page shows, if it does. -/
def Spared (s : Device) (id i : Nat) : Prop :=
  s.Mounted i → s.ShowsLoading i → ∃ e ∈ s.tasks.entries, e.1 ≠ id ∧ e.2.Holds i

theorem Spared.held (h : s.Spared id i) (hm : s.Mounted i) (hload : s.ShowsLoading i)
    (ht : ∀ id', id' ≠ id → t.tasks.get? id' = s.tasks.get? id') : t.Held i := by
  obtain ⟨⟨id', task⟩, hmem, hne, hholds⟩ := h hm hload
  exact ⟨id', task, (ht id' hne).trans (OrderedMap.get?_eq_some_iff.mpr hmem), hholds⟩

namespace AttendedBut

/-- A call that has to do with no page but `i` may start, change or end. -/
theorem of_tasks (h : s.AttendedBut i) (hid : s.OnlyHolds id i) (hp : t.pages = s.pages)
    (hs : t.stack = s.stack)
    (ht : ∀ id', id' ≠ id → t.tasks.get? id' = s.tasks.get? id') : t.AttendedBut i := by
  intro j hne hm hload
  rw [Mounted, hs] at hm
  rw [ShowsLoading, hp] at hload
  obtain ⟨id', task, hid', hholds⟩ := h j hne hm hload
  refine ⟨id', task, ?_, hholds⟩
  rw [ht id' ?_]
  · exact hid'
  · rintro rfl
    exact hne (hid task hid' j hholds)

theorem setTask (h : s.AttendedBut i) (hid : s.OnlyHolds id i) :
    (s.setTask id task).AttendedBut i :=
  h.of_tasks hid rfl rfl fun _ hne ↦ OrderedMap.get?_set_of_ne hne

theorem endTask (h : s.AttendedBut i) (hid : s.OnlyHolds id i) : (s.endTask id).AttendedBut i :=
  h.of_tasks hid rfl rfl fun _ hne ↦ OrderedMap.get?_remove_of_ne hne

theorem setState (h : s.AttendedBut i) : (s.setState i f).AttendedBut i := by
  intro j hne hm hload
  rw [Mounted, setState_stack] at hm
  obtain ⟨id, task, hid, hholds⟩ := h j hne hm (showsLoading_of_setState hne hload)
  exact ⟨id, task, by rwa [setState_tasks], hholds⟩

theorem attended (h : s.AttendedBut i) (hi : s.Mounted i → s.ShowsLoading i → s.Held i) :
    s.Attended := by
  intro j hm hload
  rcases eq_or_ne j i with rfl | hne
  · exact hi hm hload
  · exact h j hne hm hload

/-- The call that is set holds the page. -/
theorem attended_setTask (h : s.AttendedBut i) (hid : s.OnlyHolds id i) (ht : task.Holds i) :
    (s.setTask id task).Attended :=
  (h.setTask hid).attended fun _ _ ↦ ⟨id, task, OrderedMap.get?_set_self, ht⟩

/-- The page's loading indicator has been cleared. -/
theorem attended_of_cleared (h : t.AttendedBut i) (hp : t.pages = (s.setState i f).pages)
    (hs : t.stack = s.stack) (hf : ∀ p, (f p).showLoading = false) : t.Attended := by
  refine h.attended fun hm hload ↦ ?_
  rw [Mounted, hs] at hm
  rw [ShowsLoading, hp] at hload
  exact absurd hload (not_showsLoading_setState hf hm)

end AttendedBut

namespace Attended

theorem but (h : s.Attended) : s.AttendedBut i := fun j _ ↦ h j

/-- What a step may do with no call involved. -/
theorem mono (h : s.Attended) (ht : t.tasks = s.tasks)
    (hp : ∀ j, t.Mounted j → t.ShowsLoading j → s.Mounted j ∧ s.ShowsLoading j) : t.Attended := by
  intro j hm hload
  obtain ⟨hm', hload'⟩ := hp j hm hload
  obtain ⟨id, task, hid, hholds⟩ := h j hm' hload'
  exact ⟨id, task, ht ▸ hid, hholds⟩

/-- A call that has to do with no page may start or end. -/
theorem of_idle (h : s.Attended) (id : Nat)
    (hid : ∀ task, s.tasks.get? id = some task → ∀ j, ¬ task.Holds j)
    (hp : t.pages = s.pages) (hs : t.stack = s.stack)
    (ht : ∀ id', id' ≠ id → t.tasks.get? id' = s.tasks.get? id') : t.Attended := by
  intro j hm hload
  rw [Mounted, hs] at hm
  rw [ShowsLoading, hp] at hload
  obtain ⟨id', task, hid', hholds⟩ := h j hm hload
  refine ⟨id', task, ?_, hholds⟩
  rw [ht id' ?_]
  · exact hid'
  · rintro rfl
    exact hid task hid' j hholds

/-- Another layer than a page is put on top. -/
theorem cover {layer : Layer} (h : s.Attended) (hl : layer.page? = none) :
    Attended { s with stack := layer :: s.stack } := by
  refine h.mono rfl fun j hm hload ↦ ⟨?_, hload⟩
  rcases List.mem_cons.mp hm with rfl | hm
  · cases hl
  · exact hm

theorem mapInitializer {f : InitializerState → InitializerState} (h : s.Attended) :
    (s.modify i (.mapInitializer f)).Attended :=
  h.mono rfl fun _ hm hload ↦ ⟨hm, showsLoading_of_mapInitializer hload⟩

theorem pop (h : s.Attended) : s.pop.Attended := by
  refine h.mono pop_tasks fun j hm hload ↦ ⟨?_, showsLoading_of_pop hload⟩
  rw [Mounted, pop_stack] at hm
  exact List.mem_of_mem_tail hm

theorem push (h : s.Attended) (hpage : ∀ p, page = .authenticate p → p.showLoading = false) :
    (s.push page).Attended := by
  refine h.mono rfl fun j hm hload ↦ ?_
  have hload' : s.ShowsLoading j := showsLoading_of_push hpage hload
  refine ⟨?_, hload'⟩
  rcases List.mem_cons.mp hm with heq | hm
  · obtain ⟨p, hp, -⟩ := hload'
    obtain rfl : j = s.pages.length := by simpa using heq
    simp at hp
  · exact hm

theorem replace (h : s.Attended) (hpage : ∀ p, page = .authenticate p → p.showLoading = false) :
    (s.replace page).Attended :=
  h.pop.push hpage

/-- A callback of `verifyPhoneNumber` that clears the loading indicator. -/
theorem calledBack {owed : Bool} (h : s.Attended)
    (hid : s.tasks.get? id = some (.verify i phone owed)) (hf : ∀ p, (f p).showLoading = false) :
    ((s.setState i f).setTask id (.verify i phone false)).Attended := by
  have hid' : (s.setState i f).tasks.get? id = some (.verify i phone owed) := by
    rwa [setState_tasks]
  have hbut : ((s.setState i f).setTask id (.verify i phone false)).AttendedBut i :=
    (AttendedBut.setState h.but).setTask (onlyHolds_of_get? hid' fun _ hj ↦ hj.1.symm)
  exact hbut.attended_of_cleared rfl setState_stack hf

theorem stopLoading (h : s.Attended) (hid : s.tasks.get? id = some task)
    (ht : ∀ j, task.Holds j → j = i) : (s.stopLoading i id).Attended := by
  have hbut : (s.stopLoading i id).AttendedBut i :=
    (AttendedBut.setState h.but).endTask (onlyHolds_of_get? (setState_tasks.symm ▸ hid) ht)
  exact hbut.attended_of_cleared rfl setState_stack fun _ ↦ rfl

theorem startSignIn (h : s.Attended) (hid : id ∉ s.tasks) :
    (s.startSignIn i id phone).Attended := by
  refine (AttendedBut.setState h.but).attended_setTask ?_ rfl
  exact onlyHolds_of_notMem (setState_tasks.symm ▸ hid)

/-- A sign-in call goes on, unless it throws what it does not catch. -/
theorem advance {next : Except DartError (Option Await)} {await : Await} (h : s.Attended)
    (hlt : s.Mounted i → i < s.pages.length)
    (hid : s.tasks.get? id = some (.signIn i phone await))
    (hthrow : ∀ e, next = .error e → e ≠ .firebaseAuthException → s.Spared id i) :
    (s.advance i id phone next).Attended := by
  have honly : s.OnlyHolds id i := onlyHolds_of_get? hid fun _ hj ↦ hj.symm
  unfold Device.advance
  split
  · split
    · have hreplace : (s.replace (.initializer (.initState s.currentUser))).Attended :=
        h.replace fun _ hp ↦ by cases hp
      refine hreplace.but.attended_setTask ?_ ⟨rfl, hlt ‹_›⟩
      rw [OnlyHolds, replace_tasks]
      exact honly
    · exact (h.but.endTask honly).attended fun hm _ ↦ absurd hm ‹_›
  · exact h.but.attended_setTask honly rfl
  · exact h.stopLoading hid fun _ hj ↦ hj.symm
  · exact h.stopLoading hid fun _ hj ↦ hj.symm
  · rename_i e hne
    exact (h.but.endTask honly).attended fun hm hload ↦
      (hthrow e rfl (fun heq ↦ hne heq)).held hm hload fun _ hne' ↦
        OrderedMap.get?_remove_of_ne hne'

end Attended

/-! ## What a step needs -/

/-- An existing document with a bool `isAdmin`, while an account is signed in. -/
def Served : Option String → Reply → Prop
  | some _, .ok (some data) => (data.field "isAdmin").asBool.isOk
  | _, _ => False

instance (currentUser : Option String) : DecidablePred (Served currentUser) := fun reply ↦ by
  unfold Served
  split <;> infer_instance

/-- The read of a page that is still there is served, and no call fails with an
exception that it does not catch while no other one has to do with a loading
indicator that it has left on. -/
def Handled (s : Device) : Event → Prop
  | .routeReply i reply => s.Mounted i → Served s.currentUser reply
  | .verifyThrows task =>
    match s.tasks.get? task with
    | some (.verify i _ _) => s.Spared task i
    | _ => True
  | .reply call completion =>
    match s.tasks.get? call with
    | some (.signIn i _ _) =>
      ∀ e ∈ completion.exception, e ≠ .firebaseAuthException → s.Spared call i
    | _ => True
  | _ => True

instance (s : Device) (i : Nat) : Decidable (s.ShowsLoading i) :=
  match h : s.pages[i]? with
  | some (.authenticate p) =>
    decidable_of_iff (p.showLoading = true)
      ⟨fun hp ↦ ⟨p, h, hp⟩, fun ⟨p', hp', hl⟩ ↦ by
        cases h.symm.trans hp'
        exact hl⟩
  | some (.initializer p) | none => .isFalse fun ⟨p', hp', _⟩ ↦ by cases h.symm.trans hp'

instance (s : Device) (id i : Nat) : Decidable (s.Spared id i) :=
  inferInstanceAs (Decidable (_ → _ → _))

instance (s : Device) : DecidablePred (Handled s) := fun e ↦ by
  unfold Handled
  split
  · infer_instance
  · split <;> infer_instance
  · split <;> infer_instance
  · infer_instance

theorem attended_launch : (launch currentUser).Attended := by
  rintro j - ⟨p, hp, -⟩
  cases List.mem_singleton.mp (List.mem_of_getElem? hp)

/-- An event that is none of a call starts and ends none, and switches no loading
indicator on. -/
theorem attended_step_of_not_call (hs : s.Attended) (h : Step s e t) (he : ¬ e.OfCall) :
    t.Attended := by
  have hran {s' : Device} (h : Ran s e s') : s'.Attended := by
    cases h with
    | refl => exact hs
    | frame => exact hs.mapInitializer
    | account hcall | setState hcall | setTask hcall | endTask hcall => exact absurd hcall he
  cases effect_step h with
  | launch => exact attended_launch
  | ran _ h => exact hran h
  | read => exact hs.mapInitializer
  | @menu i _ _ _ menu' _ _ _ _ _ hstack =>
      have hmodify : (s.modify i (.mapInitializer (.mapMenu fun _ ↦ menu'))).Attended :=
        hs.mapInitializer
      rcases hstack with rfl | ⟨-, rfl⟩
      · exact hmodify
      · exact hmodify.cover rfl
  | pick => exact hs.cover rfl
  | replace _ h' =>
      refine (hran h').replace ?_
      rintro p ⟨⟩
      rfl
  | pushed hcall => exact absurd hcall he
  | back => exact hs.pop

theorem attended_step (hs : s.Attended) (ho : s.Ordered) (hh : s.Handled e) (h : Step s e t) :
    t.Attended := by
  cases e with
  | restart | frame | routeReply | pick | menu | back =>
      exact attended_step_of_not_call hs h not_false
  | verify i task phone =>
      obtain ⟨-, hid, rfl⟩ := step_verify h
      refine (AttendedBut.setState hs.but).attended_setTask (onlyHolds_of_notMem ?_) ⟨rfl, rfl⟩
      rwa [setState_tasks]
  | codeSent task =>
      obtain ⟨i, phone, owed, hid, rfl⟩ := step_codeSent h
      exact hs.calledBack hid fun _ ↦ rfl
  | verificationCompleted task call =>
      obtain ⟨i, phone, owed, hid, hcall, s', rfl, rfl⟩ := step_verificationCompleted h
      have hback := hs.calledBack (f := fun p ↦ { p with showLoading := false }) hid fun _ ↦ rfl
      split
      · refine hback.startSignIn fun hmem ↦ hcall ?_
        rw [setTask, setState_tasks] at hmem
        rcases OrderedMap.mem_set.mp hmem with rfl | hmem
        · exact OrderedMap.mem_of_get? hid
        · exact hmem
      · exact hback
  | verificationFailed task =>
      obtain ⟨i, phone, owed, hid, rfl⟩ := step_verificationFailed h
      exact hs.calledBack hid fun _ ↦ rfl
  | verifyThrows task =>
      obtain ⟨i, phone, owed, hid, rfl⟩ := step_verifyThrows h
      simp only [Handled, hid] at hh
      have honly : s.OnlyHolds task i := onlyHolds_of_get? hid fun _ hj ↦ hj.1.symm
      exact (hs.but.setTask honly).attended fun hm hload ↦
        hh.held hm hload fun _ hne ↦ OrderedMap.get?_set_of_ne hne
  | confirm i call =>
      obtain ⟨-, hid, p, phone, -, -, rfl⟩ := step_confirm h
      exact hs.startSignIn hid
  | reply call completion =>
      obtain ⟨i, phone, await, next, hid, hnext, rfl⟩ := step_reply h
      simp only [Handled, hid] at hh
      have hthrow : ∀ e, next = .error e → e ≠ .firebaseAuthException → s.Spared call i := by
        rintro e rfl hne
        refine hh e (exception_of_resume (fun hc ↦ ?_) hnext) hne
        rw [hc]
        rfl
      obtain ⟨currentUser, heq⟩ := authenticated_eq s phone completion
      rw [heq]
      exact Attended.advance (s := { s with currentUser := currentUser }) hs ho.lt_length hid hthrow
  | popped call =>
      obtain ⟨i, home, hid, -, rfl⟩ := step_popped h
      exact hs.stopLoading hid fun _ hj ↦ hj.1.symm
  | signOut i task =>
      obtain ⟨-, hid, rfl⟩ := step_signOut h
      refine hs.of_idle task ?_ rfl rfl fun _ hne ↦ OrderedMap.get?_set_of_ne hne
      intro task' htask'
      rw [OrderedMap.notMem_iff.mp hid] at htask'
      cases htask'
  | signOutReply task err =>
      obtain ⟨i, hid, ht⟩ := step_signOutReply h
      have hend {currentUser : Option String} :
          ({ s with currentUser := currentUser }.endTask task).Attended := by
        refine hs.of_idle task ?_ rfl rfl fun _ hne ↦ OrderedMap.get?_remove_of_ne hne
        intro task' htask' j hj
        cases hid.symm.trans htask'
        exact hj
      rcases ht with ⟨-, rfl⟩ | ⟨-, s', rfl, rfl⟩
      · exact hend
      · split
        · refine hend.replace ?_
          rintro p ⟨⟩
          rfl
        · exact hend

/-! ## InitializerWidget -/

/-- A page that is loading and still there waits for its read. -/
def Loads (s : Device) : Prop :=
  ∀ (i : Nat) (p : InitializerState), s.Mounted i → s.pages[i]? = some (.initializer p) →
    p.isLoading = true → ∃ phone, p.route = .get phone

theorem isLoading_resume_of_served {p : InitializerState} {reply : Reply}
    (h : Served currentUser reply) : (p.resume phone currentUser reply).isLoading = false := by
  rcases currentUser with _ | username
  · exact h.elim
  · rcases reply with err | _ | data
    · exact h.elim
    · exact h.elim
    · obtain ⟨b, hb⟩ := Scalar.isOk_asBool_iff.mp h
      simp only [InitializerState.resume, InitializerState.routeSetState_bool hb]

theorem loads_launch : (launch currentUser).Loads := by
  rintro i p - hp hload
  obtain rfl : p = .initState currentUser := by
    simpa using List.mem_singleton.mp (List.mem_of_getElem? hp)
  cases currentUser with
  | none => cases hload
  | some phone => exact ⟨phone, rfl⟩

/-- What an origin makes of a page that is still there. -/
theorem Origin.loads (h : Origin s e j page) (hs : s.Loads) (hh : s.Handled e)
    (hm : s.Mounted j ∨ s.pages.length ≤ j) :
    ∀ p, page = .initializer p → p.isLoading = true → ∃ phone, p.route = .get phone := by
  have hmounted {page : Page} (hp : s.pages[j]? = some page) : s.Mounted j :=
    hm.resolve_right (not_le_of_gt (List.getElem?_eq_some_iff.mp hp).1)
  induction h with
  | same h =>
      rintro p rfl
      exact hs _ p (hmounted h) h
  | authenticate =>
      intro p hp
      cases hp
  | @initState currentUser =>
      rintro p ⟨⟩ hload
      cases currentUser with
      | none => cases hload
      | some phone => exact ⟨phone, rfl⟩
  | @frame p _ hroute ih =>
      rintro p' ⟨⟩ hload
      obtain ⟨phone, hget⟩ := ih p rfl hload
      rw [hroute] at hget
      cases hget
  | @resume p phone reply he hp hroute hm' =>
      rintro p' ⟨⟩ hload
      subst he
      rw [isLoading_resume_of_served (hh hm')] at hload
      cases hload
  | @lost p hnm hp => exact absurd (hmounted hp) hnm
  | @menu p menu menu' menuEvent _ hhome hstep ih =>
      rintro p' ⟨⟩ hload
      exact ih p rfl hload

theorem loads_step (hs : s.Loads) (hh : s.Handled e) (h : Step s e t) : t.Loads := by
  intro i p hm hp hload
  rcases mounted_step h hm with hm | hlt | ⟨currentUser, rfl⟩
  · exact (pages_step h i _ hp).loads hs hh (.inl hm) p rfl hload
  · exact (pages_step h i _ hp).loads hs hh (.inr hlt) p rfl hload
  · exact loads_launch i p hm hp hload

/-! ## Once nothing is outstanding -/

/-- The call has still to complete, or to call back. -/
def Outstanding (s : Device) : Task → Prop
  | .verify _ _ owed => owed = true
  | .signIn _ _ _ | .signOut _ => True
  | .pushed _ home => ¬ s.Mounted home

instance (s : Device) : DecidablePred (Outstanding s)
  | .verify _ _ owed => inferInstanceAs (Decidable (owed = true))
  | .signIn _ _ _ | .signOut _ => .isTrue trivial
  | .pushed _ home => inferInstanceAs (Decidable (¬ s.Mounted home))

/-- No call or callback is outstanding. -/
structure Quiet (s : Device) : Prop where
  tasks : ∀ e ∈ s.tasks.entries, ¬ s.Outstanding e.2
  route : ∀ page ∈ s.pages, page.RouteEnded

instance (s : Device) : Decidable s.Quiet :=
  decidable_of_iff ((∀ e ∈ s.tasks.entries, ¬ s.Outstanding e.2) ∧ ∀ page ∈ s.pages, page.RouteEnded)
    ⟨fun h ↦ ⟨h.1, h.2⟩, fun h ↦ ⟨h.tasks, h.route⟩⟩

/-- The screen shown is no loading indicator: an InitializerWidget is gone or has
`isLoading` false, and the Authenticate page on top has `showLoading` false. -/
structure Clear (s : Device) : Prop where
  isLoading : ∀ (i : Nat) (p : InitializerState), s.Mounted i →
    s.pages[i]? = some (.initializer p) → p.isLoading = false
  showLoading : ∀ (i : Nat) (p : AuthenticateState), s.pageIds.head? = some i →
    s.pages[i]? = some (.authenticate p) → p.showLoading = false

theorem clear_of_quiet (ho : s.Ordered) (ha : s.Attended) (hl : s.Loads) (hq : s.Quiet) :
    s.Clear where
  isLoading := by
    intro i p hm hp
    refine Bool.eq_false_iff.mpr fun hload ↦ ?_
    obtain ⟨phone, hroute⟩ := hl i p hm hp hload
    rcases hq.route _ (List.mem_of_getElem? hp) with h | h <;> rw [hroute] at h <;> cases h
  showLoading := by
    intro i p htop hp
    refine Bool.eq_false_iff.mpr fun hload ↦ ?_
    have hm : s.Mounted i := mounted_iff.mpr (List.mem_of_head? htop)
    obtain ⟨id, task, hid, hholds⟩ := ha i hm ⟨p, hp, hload⟩
    have hout : ¬ s.Outstanding task := hq.tasks _ (OrderedMap.get?_eq_some_iff.mp hid)
    cases task with
    | verify page phone owed => exact hout hholds.2
    | signIn page phone await => exact hout trivial
    | signOut page => exact hholds
    | pushed page home =>
        -- the page that was pushed lies over this one, which is the topmost
        obtain ⟨rfl, hlt⟩ := hholds
        exact absurd (ho.le_of_head? htop (not_not.mp hout)) (not_le_of_gt hlt)

/-- In every run in which the reads of `route()` are served and no exception is
the last thing that happens to a loading indicator, nothing is left behind one
once no call is outstanding. -/
theorem clear_run (h : Run (Guarded Handled Step) (launch currentUser) es t) (hq : t.Quiet) :
    t.Clear := by
  obtain ⟨ho, ha, hl⟩ : t.Ordered ∧ t.Attended ∧ t.Loads :=
    h.invariant (P := fun s ↦ s.Ordered ∧ s.Attended ∧ s.Loads)
      ⟨ordered_launch, attended_launch, loads_launch⟩ fun ⟨ho, ha, hl⟩ ⟨hh, hR⟩ ↦
        ⟨ordered_step ho hR, attended_step ha ho hh hR, loads_step hl hh hR⟩
  exact clear_of_quiet ho ha hl hq

/-- A read that is not served leaves its page behind the loading indicator. -/
theorem not_clear_of_not_served {p : InitializerState} {reply : Reply}
    (h : Step s (.routeReply i reply) t) (hm : s.Mounted i) (hreply : ¬ Served s.currentUser reply)
    (hp : s.pages[i]? = some (.initializer p)) (hload : p.isLoading = true) : ¬ t.Clear := by
  intro hclear
  obtain ⟨p', phone, hp', -, hpage⟩ := page_of_routeReply h hm
  cases hp.symm.trans hp'
  have hm' : t.Mounted i := by
    obtain ⟨_, _, -, -, rfl⟩ := step_routeReply h
    exact hm
  have hdone := hclear.isLoading i _ hm' hpage
  obtain ⟨usrdata, userData, signedIn, heq⟩ : ∃ usrdata userData signedIn,
      p.resume phone s.currentUser reply = { p with
        usrdata := usrdata, userData := userData, signedIn := signedIn, route := .failed } := by
    refine InitializerState.resume_failed ?_
    rintro data username b rfl hu hb
    rw [hu] at hreply
    exact hreply (Scalar.isOk_asBool_iff.mpr ⟨b, hb⟩)
  rw [heq] at hdone
  exact absurd (hload.symm.trans hdone) Bool.noConfusion

/-- A wrong code, then the right one, of someone who has never signed in. -/
def firstSignIn : List Event :=
  [.frame 0, .verify 1 0 "u", .codeSent 0, .confirm 1 1,
    .reply 1 (.credential (.error .firebaseAuthException)), .confirm 1 2,
    .reply 2 (.credential (.ok true)), .reply 2 (.document (.ok none)), .reply 2 (.written (.ok ())),
    .routeReply 2 (.ok (some newUser))]

theorem clear_firstSignIn :
    ((exec (restrict Handled step) (launch none) firstSignIn).get (by decide)).Clear :=
  clear_run (run_guarded_exec_get (by decide)) (by decide)

/-- The app is killed between the read of a document that does not exist and its
creation, and is launched again with the user that has been signed in. -/
def killedSignIn : List Event :=
  [.frame 0, .verify 1 0 "u", .codeSent 0, .confirm 1 1, .reply 1 (.credential (.ok true)),
    .reply 1 (.document (.ok none)), .restart (some "u"), .routeReply 0 (.ok none)]

/-- `isLoading` then stays true for good. -/
theorem not_clear : ¬ ∀ (currentUser : Option String) (es : List Event) (t : Device),
    Run Step (launch currentUser) es t → t.Quiet → t.Clear := by
  intro h
  have hclear := h none killedSignIn ((exec step (launch none) killedSignIn).get (by decide))
    (run_exec_get (by decide)) (by decide)
  have hload := hclear.isLoading 0 _ (by decide) rfl
  cases hload

end Device

end CollegeCanteens.App
