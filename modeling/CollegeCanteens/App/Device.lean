import CollegeCanteens.App.Pages
import CollegeCanteens.Library.Run

/-!
# The app on one device

The pages, the Navigator and the calls under way on one device, from a launch
of the app on.  The server is not modelled here: a call may complete with
anything and at any time, so that what is proved holds whatever is stored and
whatever fails.

The Navigator is a stack of layers: pages, the dialogs that a Menu screen has
opened and the country picker of an Authenticate page.  A page whose layer is
gone is disposed, and `setState` and navigation from it throw: in the model they
do nothing.  What a tap needs is that its page is the topmost layer; what a call
that completes does depends on whether its page is still there.

`pushReplacementNamed` and `popAndPushNamed` both take the topmost layer off,
whatever it is, and push a new page; a dialog that they take off is dismissed.
-/

namespace CollegeCanteens.App

open Transition Menu SignIn

/-- A route of the Navigator. -/
inductive Layer where
  | page (i : Nat)
  /-- A dialog that the Menu screen of a page has opened. -/
  | dialog (i : Nat)
  /-- The dialog of the country picker. -/
  | picker
deriving DecidableEq

/-- The page that a layer is, if it is one. -/
def Layer.page? : Layer → Option Nat
  | .page i => some i
  | _ => none

/-- A call under way. -/
inductive Task where
  /-- `verifyPhoneNumber` for a phone number.  It may call back any number of
  times; `owed` says that it has not yet.  Its `codeAutoRetrievalTimeout` does
  nothing and is left out. -/
  | verify (page : Nat) (phone : String) (owed : Bool)
  /-- The sign-in handler, with a credential for a phone number. -/
  | signIn (page : Nat) (phone : String) (await : Await)
  /-- The sign-in handler, waiting for the page that it has pushed to be popped. -/
  | pushed (page : Nat) (home : Nat)
  /-- A tap on Sign Out. -/
  | signOut (page : Nat)

/-- If the app is killed while the call is under way, Auth may keep this
account. -/
def Task.MayLeave (currentUser : Option String) : Task → Prop
  | .signIn _ phone .signInWithCredential => currentUser = some phone
  | .signOut _ => currentUser = none
  | _ => False

instance (currentUser : Option String) : DecidablePred (Task.MayLeave currentUser) := fun task ↦ by
  unfold Task.MayLeave
  split <;> infer_instance

/-- The app on a device. -/
structure Device where
  /-- The phone number of `FirebaseAuth.instance.currentUser`. -/
  currentUser : Option String
  /-- The pages opened since the launch; their places are their names. -/
  pages : List Page
  /-- The layers of the Navigator, topmost first. -/
  stack : List Layer
  tasks : OrderedMap Nat Task

/-- What can happen. -/
inductive Event where
  /-- The app is killed, at any moment, and launched again with the account that
  Auth has kept. -/
  | restart (currentUser : Option String)
  /-- The frame ends in which an InitializerWidget without a user was built. -/
  | frame (i : Nat)
  /-- The read of `route()` completes. -/
  | routeReply (i : Nat) (reply : Reply)
  /-- A tap on Verify. -/
  | verify (i : Nat) (task : Nat) (phone : String)
  /-- A tap on the country picker. -/
  | pick (i : Nat)
  | codeSent (task : Nat)
  /-- `verificationCompleted` is called back, and calls the sign-in handler. -/
  | verificationCompleted (task : Nat) (call : Nat)
  | verificationFailed (task : Nat)
  /-- `verifyPhoneNumber` throws. -/
  | verifyThrows (task : Nat)
  /-- A tap on Confirm, which calls the sign-in handler. -/
  | confirm (i : Nat) (call : Nat)
  /-- An await of a sign-in call completes. -/
  | reply (call : Nat) (completion : Completion)
  /-- The page that a sign-in call has pushed is popped. -/
  | popped (call : Nat)
  /-- A tap on Sign Out. -/
  | signOut (i : Nat) (task : Nat)
  /-- `signOut()` completes. -/
  | signOutReply (task : Nat) (err : Option DartError)
  /-- Anything on the Menu screen of a page but the dismissal of a dialog. -/
  | menu (i : Nat) (e : Menu.Event)
  /-- The back button, or the OK button of a dialog. -/
  | back

/-- The dismissal of a dialog. -/
def IsDismiss : Menu.Event → Prop
  | .dismiss => True
  | _ => False

instance : DecidablePred IsDismiss
  | .dismiss => .isTrue trivial
  | .snapshot _ | .add _ | .remove _ | .pay | .get _ _ _ _ => .isFalse not_false

namespace Page

/-- Change the fields of an Authenticate page. -/
def mapAuthenticate (f : AuthenticateState → AuthenticateState) : Page → Page
  | .authenticate s => .authenticate (f s)
  | page => page

/-- Change the fields of an InitializerWidget. -/
def mapInitializer (f : InitializerState → InitializerState) : Page → Page
  | .initializer s => .initializer (f s)
  | page => page

end Page

namespace InitializerState

/-- Change the Menu screen. -/
def mapMenu (f : Screen → Screen) (s : InitializerState) : InitializerState :=
  match s.home with
  | some (.user menu) => { s with home := some (.user (f menu)) }
  | _ => s

end InitializerState

namespace Device

/-! ## The Navigator -/

/-- The page has not been disposed. -/
def Mounted (s : Device) (i : Nat) : Prop := .page i ∈ s.stack

instance (s : Device) (i : Nat) : Decidable (s.Mounted i) :=
  inferInstanceAs (Decidable (.page i ∈ s.stack))

/-- Change a page. -/
def modify (s : Device) (i : Nat) (f : Page → Page) : Device :=
  { s with pages := s.pages.modify i f }

/-- `setState` of an Authenticate page; it throws if the page is disposed. -/
def setState (s : Device) (i : Nat) (f : AuthenticateState → AuthenticateState) : Device :=
  if s.Mounted i then s.modify i (.mapAuthenticate f) else s

/-- Push a new page. -/
def push (s : Device) (page : Page) : Device :=
  { s with pages := s.pages ++ [page], stack := .page s.pages.length :: s.stack }

/-- The topmost dialog of a page is dismissed. -/
def dismiss (s : Device) (i : Nat) : Device :=
  s.modify i (.mapInitializer (.mapMenu fun menu ↦ (menu.step .dismiss).getD menu))

/-- Take the topmost layer off. -/
def pop (s : Device) : Device :=
  match s.stack with
  | [] => s
  | .dialog i :: stack => { s with stack := stack }.dismiss i
  | _ :: stack => { s with stack := stack }

/-- `pushReplacementNamed` and `popAndPushNamed`. -/
def replace (s : Device) (page : Page) : Device := s.pop.push page

/-! ## The calls -/

/-- A call is under way. -/
def setTask (s : Device) (id : Nat) (task : Task) : Device :=
  { s with tasks := s.tasks.set id task }

/-- A call has ended. -/
def endTask (s : Device) (id : Nat) : Device := { s with tasks := s.tasks.remove id }

/-- `signInWithPhoneAuthCredential` is called. -/
def startSignIn (s : Device) (i call : Nat) (phone : String) : Device :=
  (s.setState i fun p ↦ { p with showLoading := true }).setTask call
    (.signIn i phone .signInWithCredential)

/-- The end of the sign-in handler, and its handler for a
`FirebaseAuthException`. -/
def stopLoading (s : Device) (i call : Nat) : Device :=
  (s.setState i fun p ↦ { p with showLoading := false }).endTask call

/-- A sign-in call goes on: to its next await, to the page it pushes, to its end,
or out of it with an exception. -/
def advance (s : Device) (i call : Nat) (phone : String) :
    Except DartError (Option Await) → Device
  | .ok (some .pushReplacementNamed) =>
    if s.Mounted i then
      (s.replace (.initializer (.initState s.currentUser))).setTask call (.pushed i s.pages.length)
    else
      s.endTask call
  | .ok (some await) => s.setTask call (.signIn i phone await)
  | .ok none => s.stopLoading i call
  | .error .firebaseAuthException => s.stopLoading i call
  | .error _ => s.endTask call

/-- A credential with a user makes that user the current one. -/
def authenticated (s : Device) (phone : String) : Completion → Device
  | .credential (.ok true) => { s with currentUser := some phone }
  | _ => s

/-! ## The machine -/

/-- The app is launched. -/
def launch (currentUser : Option String) : Device :=
  { currentUser := currentUser, pages := [.initializer (.initState currentUser)]
    stack := [.page 0], tasks := ∅ }

/-- The account that Auth has kept may be one that is just being signed in, or
none if one is being signed out. -/
def Keeps (s : Device) (currentUser : Option String) : Prop :=
  currentUser = s.currentUser ∨ ∃ e ∈ s.tasks.entries, Task.MayLeave currentUser e.2

instance (s : Device) (currentUser : Option String) : Decidable (s.Keeps currentUser) :=
  inferInstanceAs (Decidable (_ ∨ _))

/-- The topmost layer is an Authenticate page that shows a form. -/
def ShowsForm (s : Device) (i : Nat) (form : ScreenState) : Prop :=
  s.stack.head? = some (.page i) ∧ ∃ p, s.pages[i]? = some (.authenticate p) ∧
    p.currState = form ∧ p.showLoading = false

/-- The topmost layer is an InitializerWidget that shows a home page. -/
def ShowsHome (s : Device) (i : Nat) : Prop :=
  s.stack.head? = some (.page i) ∧ ∃ p, s.pages[i]? = some (.initializer p) ∧ p.home.isSome

instance (s : Device) (i : Nat) (form : ScreenState) : Decidable (s.ShowsForm i form) :=
  match h : s.pages[i]? with
  | some (.authenticate p) =>
    decidable_of_iff (s.stack.head? = some (.page i) ∧ p.currState = form ∧ p.showLoading = false)
      ⟨fun hp ↦ ⟨hp.1, p, h, hp.2⟩, fun ⟨hs, p', hp', hf⟩ ↦ by
        cases h.symm.trans hp'
        exact ⟨hs, hf⟩⟩
  | some (.initializer p) | none => .isFalse fun ⟨_, p', hp', _⟩ ↦ by cases h.symm.trans hp'

instance (s : Device) (i : Nat) : Decidable (s.ShowsHome i) :=
  match h : s.pages[i]? with
  | some (.initializer p) =>
    decidable_of_iff (s.stack.head? = some (.page i) ∧ p.home.isSome)
      ⟨fun hp ↦ ⟨hp.1, p, h, hp.2⟩, fun ⟨hs, p', hp', hf⟩ ↦ by
        cases h.symm.trans hp'
        exact ⟨hs, hf⟩⟩
  | some (.authenticate p) | none => .isFalse fun ⟨_, p', hp', _⟩ ↦ by cases h.symm.trans hp'

/-- One event; `none` if it cannot happen. -/
def step (s : Device) : Event → Option Device
  | .restart currentUser => if s.Keeps currentUser then some (launch currentUser) else none
  | .frame i =>
    match s.pages[i]? with
    | some (.initializer p) =>
      if p.route = .postFrame then
        let s' := s.modify i (.mapInitializer fun p ↦ { p with route := .returned })
        some (if s.Mounted i then s'.replace (.authenticate .initial) else s')
      else
        none
    | _ => none
  | .routeReply i reply =>
    match s.pages[i]? with
    | some (.initializer p) =>
      match p.route with
      | .get phone =>
        some (s.modify i (.mapInitializer fun p ↦
          if s.Mounted i then p.resume phone s.currentUser reply else { p with route := .failed }))
      | _ => none
    | _ => none
  | .verify i task phone =>
    if s.ShowsForm i .mobileNoState ∧ task ∉ s.tasks then
      some ((s.setState i fun p ↦ { p with showLoading := true }).setTask task
        (.verify i phone true))
    else
      none
  | .pick i =>
    if s.ShowsForm i .mobileNoState then some { s with stack := .picker :: s.stack } else none
  | .codeSent task =>
    match s.tasks.get? task with
    | some (.verify i phone _) =>
      some ((s.setState i fun p ↦
        { p with showLoading := false, currState := .otpState, verificationId := some phone }).setTask
          task (.verify i phone false))
    | _ => none
  | .verificationCompleted task call =>
    match s.tasks.get? task with
    | some (.verify i phone _) =>
      if call ∈ s.tasks then
        none
      else
        let s' := (s.setState i fun p ↦ { p with showLoading := false }).setTask task
          (.verify i phone false)
        some (if s.Mounted i then s'.startSignIn i call phone else s')
    | _ => none
  | .verificationFailed task =>
    match s.tasks.get? task with
    | some (.verify i phone _) =>
      some ((s.setState i fun p ↦ { p with showLoading := false }).setTask task
        (.verify i phone false))
    | _ => none
  | .verifyThrows task =>
    match s.tasks.get? task with
    | some (.verify i phone _) => some (s.setTask task (.verify i phone false))
    | _ => none
  | .confirm i call =>
    if s.ShowsForm i .otpState ∧ call ∉ s.tasks then
      match s.pages[i]? with
      | some (.authenticate p) => p.verificationId.map (s.startSignIn i call)
      | _ => none
    else
      none
  | .reply call completion =>
    match s.tasks.get? call with
    | some (.signIn i phone await) =>
      let s' := s.authenticated phone completion
      (await.resume s'.currentUser completion).map (s'.advance i call phone)
    | _ => none
  | .popped call =>
    match s.tasks.get? call with
    | some (.pushed i home) => if s.Mounted home then none else some (s.stopLoading i call)
    | _ => none
  | .signOut i task =>
    if s.ShowsHome i ∧ task ∉ s.tasks then some (s.setTask task (.signOut i)) else none
  | .signOutReply task err =>
    match s.tasks.get? task with
    | some (.signOut i) =>
      match err with
      | some _ => some (s.endTask task)
      | none =>
        let s' := { s with currentUser := none }.endTask task
        some (if s.Mounted i then s'.replace (.authenticate .initial) else s')
    | _ => none
  | .menu i e =>
    if IsDismiss e ∨ (e.IsTap ∧ s.stack.head? ≠ some (.page i)) then
      none
    else
      match s.pages[i]? with
      | some (.initializer p) =>
        match p.home with
        | some (.user menu) =>
          (menu.step e).map fun menu' ↦
            let s' := s.modify i (.mapInitializer (.mapMenu fun _ ↦ menu'))
            if s.Mounted i ∧ menu.dialogs.length < menu'.dialogs.length then
              { s' with stack := .dialog i :: s.stack }
            else
              s'
        | _ => none
      | _ => none
  | .back => if 2 ≤ s.stack.length then some s.pop else none

/-- The steps of the machine. -/
abbrev Step : Device → Event → Device → Prop := Fires step

/-! ## The pages after an operation -/

variable {s t : Device} {i j id : Nat} {page : Page} {task : Task}
  {f : AuthenticateState → AuthenticateState}

/-- The pages that the layers are of, topmost first. -/
def pageIds (s : Device) : List Nat := s.stack.filterMap Layer.page?

theorem mounted_iff : s.Mounted i ↔ i ∈ s.pageIds := by
  rw [Mounted, pageIds, List.mem_filterMap]
  constructor
  · exact fun h ↦ ⟨_, h, rfl⟩
  · rintro ⟨layer, hl, heq⟩
    cases layer <;> cases heq
    exact hl

@[simp] theorem setState_stack : (s.setState i f).stack = s.stack := by
  unfold setState; split <;> rfl

@[simp] theorem setState_tasks : (s.setState i f).tasks = s.tasks := by
  unfold setState; split <;> rfl

@[simp] theorem setState_currentUser : (s.setState i f).currentUser = s.currentUser := by
  unfold setState; split <;> rfl

@[simp] theorem dismiss_stack : (s.dismiss i).stack = s.stack := rfl

@[simp] theorem pop_tasks : s.pop.tasks = s.tasks := by
  unfold pop; split <;> rfl

@[simp] theorem replace_tasks : (s.replace page).tasks = s.tasks := pop_tasks

@[simp] theorem pop_currentUser : s.pop.currentUser = s.currentUser := by
  unfold pop; split <;> rfl

@[simp] theorem pop_stack : s.pop.stack = s.stack.tail := by
  unfold pop; split <;> simp [*]

@[simp] theorem length_modify_pages {f : Page → Page} :
    (s.modify i f).pages.length = s.pages.length := by
  simp [modify]

@[simp] theorem length_setState_pages : (s.setState i f).pages.length = s.pages.length := by
  unfold setState; split <;> simp

theorem getElem?_modify {f : Page → Page} :
    (s.modify i f).pages[j]? = if i = j then s.pages[j]?.map f else s.pages[j]? := by
  rw [modify, List.getElem?_modify]
  split <;> simp

/-- Taking a layer off changes no page but for the Menu screen of a dialog. -/
theorem pop_pages : s.pop.pages = s.pages ∨ ∃ i, s.pop.pages = (s.dismiss i).pages := by
  unfold pop
  split
  · exact .inl rfl
  · exact .inr ⟨_, rfl⟩
  · exact .inl rfl

@[simp] theorem length_pop_pages : s.pop.pages.length = s.pages.length := by
  rcases pop_pages (s := s) with h | ⟨i, h⟩ <;> rw [h]
  simp [dismiss]

/-! ## What each event does -/

variable {e : Event} {call home : Nat} {phone : String} {reply : Reply} {completion : Completion}
  {err : Option DartError} {menuEvent : Menu.Event} {currentUser : Option String}

theorem authenticated_eq (s : Device) (phone : String) (completion : Completion) : ∃ currentUser,
    s.authenticated phone completion = { s with currentUser := currentUser } := by
  unfold authenticated
  split
  · exact ⟨_, rfl⟩
  · exact ⟨s.currentUser, rfl⟩

theorem step_restart (h : s.step (.restart currentUser) = some t) :
    s.Keeps currentUser ∧ t = launch currentUser := by
  simp only [step] at h
  split at h
  · exact ⟨‹_›, (Option.some.inj h).symm⟩
  · cases h

theorem step_frame (h : s.step (.frame i) = some t) :
    ∃ p, s.pages[i]? = some (.initializer p) ∧ p.route = .postFrame ∧
      ∃ s', s' = s.modify i (.mapInitializer fun p ↦ { p with route := .returned }) ∧
        t = if s.Mounted i then s'.replace (.authenticate .initial) else s' := by
  simp only [step] at h
  split at h
  · rename_i p hp
    split at h
    · exact ⟨p, hp, ‹_›, _, rfl, (Option.some.inj h).symm⟩
    · cases h
  · cases h

theorem step_routeReply (h : s.step (.routeReply i reply) = some t) :
    ∃ p phone, s.pages[i]? = some (.initializer p) ∧ p.route = .get phone ∧
      t = s.modify i (.mapInitializer fun p ↦
        if s.Mounted i then p.resume phone s.currentUser reply else { p with route := .failed }) := by
  simp only [step] at h
  split at h
  · rename_i p hp
    split at h
    · exact ⟨p, _, hp, ‹_›, (Option.some.inj h).symm⟩
    · cases h
  · cases h

theorem step_verify (h : s.step (.verify i id phone) = some t) :
    s.ShowsForm i .mobileNoState ∧ id ∉ s.tasks ∧
      t = (s.setState i fun p ↦ { p with showLoading := true }).setTask id
        (.verify i phone true) := by
  simp only [step] at h
  split at h
  · exact ⟨(‹_ ∧ _›).1, (‹_ ∧ _›).2, (Option.some.inj h).symm⟩
  · cases h

theorem step_pick (h : s.step (.pick i) = some t) :
    s.ShowsForm i .mobileNoState ∧ t = { s with stack := .picker :: s.stack } := by
  simp only [step] at h
  split at h
  · exact ⟨‹_›, (Option.some.inj h).symm⟩
  · cases h

theorem step_codeSent (h : s.step (.codeSent id) = some t) :
    ∃ i phone owed, s.tasks.get? id = some (.verify i phone owed) ∧
      t = (s.setState i fun p ↦ { p with
        showLoading := false, currState := .otpState, verificationId := some phone }).setTask id
          (.verify i phone false) := by
  simp only [step] at h
  split at h
  · exact ⟨_, _, _, ‹_›, (Option.some.inj h).symm⟩
  · cases h

theorem step_verificationCompleted (h : s.step (.verificationCompleted id call) = some t) :
    ∃ i phone owed, s.tasks.get? id = some (.verify i phone owed) ∧ call ∉ s.tasks ∧
      ∃ s', s' = (s.setState i fun p ↦ { p with showLoading := false }).setTask id
          (.verify i phone false) ∧
        t = if s.Mounted i then s'.startSignIn i call phone else s' := by
  simp only [step] at h
  split at h
  · split at h
    · cases h
    · exact ⟨_, _, _, ‹_›, ‹_›, _, rfl, (Option.some.inj h).symm⟩
  · cases h

theorem step_verificationFailed (h : s.step (.verificationFailed id) = some t) :
    ∃ i phone owed, s.tasks.get? id = some (.verify i phone owed) ∧
      t = (s.setState i fun p ↦ { p with showLoading := false }).setTask id
        (.verify i phone false) := by
  simp only [step] at h
  split at h
  · exact ⟨_, _, _, ‹_›, (Option.some.inj h).symm⟩
  · cases h

theorem step_verifyThrows (h : s.step (.verifyThrows id) = some t) :
    ∃ i phone owed, s.tasks.get? id = some (.verify i phone owed) ∧
      t = s.setTask id (.verify i phone false) := by
  simp only [step] at h
  split at h
  · exact ⟨_, _, _, ‹_›, (Option.some.inj h).symm⟩
  · cases h

theorem step_confirm (h : s.step (.confirm i call) = some t) :
    s.ShowsForm i .otpState ∧ call ∉ s.tasks ∧ ∃ p phone, s.pages[i]? = some (.authenticate p) ∧
      p.verificationId = some phone ∧ t = s.startSignIn i call phone := by
  simp only [step] at h
  split at h
  · split at h
    · obtain ⟨phone, hphone, rfl⟩ := Option.map_eq_some_iff.mp h
      exact ⟨(‹_ ∧ _›).1, (‹_ ∧ _›).2, _, phone, ‹_›, hphone, rfl⟩
    · cases h
  · cases h

theorem step_reply (h : s.step (.reply call completion) = some t) :
    ∃ i phone await next, s.tasks.get? call = some (.signIn i phone await) ∧
      await.resume (s.authenticated phone completion).currentUser completion = some next ∧
      t = (s.authenticated phone completion).advance i call phone next := by
  simp only [step] at h
  split at h
  · obtain ⟨next, hnext, rfl⟩ := Option.map_eq_some_iff.mp h
    exact ⟨_, _, _, next, ‹_›, hnext, rfl⟩
  · cases h

theorem step_popped (h : s.step (.popped call) = some t) :
    ∃ i home, s.tasks.get? call = some (.pushed i home) ∧ ¬ s.Mounted home ∧
      t = s.stopLoading i call := by
  simp only [step] at h
  split at h
  · split at h
    · cases h
    · exact ⟨_, _, ‹_›, ‹_›, (Option.some.inj h).symm⟩
  · cases h

theorem step_signOut (h : s.step (.signOut i id) = some t) :
    s.ShowsHome i ∧ id ∉ s.tasks ∧ t = s.setTask id (.signOut i) := by
  simp only [step] at h
  split at h
  · exact ⟨(‹_ ∧ _›).1, (‹_ ∧ _›).2, (Option.some.inj h).symm⟩
  · cases h

theorem step_signOutReply (h : s.step (.signOutReply id err) = some t) :
    ∃ i, s.tasks.get? id = some (.signOut i) ∧ (err ≠ none ∧ t = s.endTask id ∨
      err = none ∧ ∃ s', s' = { s with currentUser := none }.endTask id ∧
        t = if s.Mounted i then s'.replace (.authenticate .initial) else s') := by
  simp only [step] at h
  split at h
  · refine ⟨_, ‹_›, ?_⟩
    split at h
    · exact .inl ⟨Option.some_ne_none _, (Option.some.inj h).symm⟩
    · exact .inr ⟨rfl, _, rfl, (Option.some.inj h).symm⟩
  · cases h

theorem step_menu (h : s.step (.menu i menuEvent) = some t) :
    ¬ IsDismiss menuEvent ∧ (menuEvent.IsTap → s.stack.head? = some (.page i)) ∧
      ∃ p menu menu', s.pages[i]? = some (.initializer p) ∧
        p.home = some (.user menu) ∧ menu.step menuEvent = some menu' ∧
        ∃ s', s' = s.modify i (.mapInitializer (.mapMenu fun _ ↦ menu')) ∧
          (t = s' ∨ s.Mounted i ∧ t = { s' with stack := .dialog i :: s.stack }) := by
  simp only [step] at h
  split at h
  · cases h
  · next hguard =>
      refine ⟨fun hd ↦ hguard (.inl hd), fun htap ↦ by_contra fun hne ↦ ?_, ?_⟩
      · exact hguard (.inr ⟨htap, hne⟩)
      split at h
      · rename_i p hp
        split at h
        · obtain ⟨menu', hmenu', rfl⟩ := Option.map_eq_some_iff.mp h
          refine ⟨p, _, menu', hp, ‹_›, hmenu', _, rfl, ?_⟩
          split
          · next hopen => exact .inr ⟨hopen.1, rfl⟩
          · exact .inl rfl
        · cases h
      · cases h

theorem step_back (h : s.step .back = some t) : 2 ≤ s.stack.length ∧ t = s.pop := by
  simp only [step] at h
  split at h
  · exact ⟨‹_›, (Option.some.inj h).symm⟩
  · cases h

end Device

end CollegeCanteens.App
