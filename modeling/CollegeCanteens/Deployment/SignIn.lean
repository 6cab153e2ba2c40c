import CollegeCanteens.Deployment.Progress

/-!
# Signing in and out

A device can be handed over from one phone number to another, whatever the other
devices do and whatever is still on its way: `can_sign_in` goes through all of it,
from the tap on Sign Out to the home page of the new account.  A number that has no
document gets one, and a number that has one keeps it.  All that can be in the way is
a document that the app cannot read (`Readable`): that of the new account leads to no
home page, and that of the old one to none to sign out on.

Up to the read of the document a sign-in concerns its device alone, so that the
events up to there (`signingIn`) are those of a run of the device (`run_local`).  The
`set` of a new document is acknowledged only after it has landed, and is told from
those of earlier launches by the number of the launch (`launched_run`).
-/

namespace CollegeCanteens

open Transition Menu SignIn

namespace App

/-- The event concerns its device alone. -/
def Event.IsLocal : Event → Prop
  | .restart _ | .routeReply _ _ | .reply _ (.document _) | .reply _ (.written _) | .menu _ _ =>
    False
  | _ => True

namespace Device

variable {e : Event} {phone : String} {doc : Fields} {b : Bool}

/-- The events of a sign-in up to the read of the document, from a launch of the app
with nobody signed in. -/
def signingIn (phone : String) : List Event :=
  [.frame 0, .verify 1 0 phone, .codeSent 0, .confirm 1 1, .reply 1 (.credential (.ok true))]

/-- The device while that call of the sign-in handler waits for `await`. -/
def signIn (phone : String) (await : Await) : Device :=
  { currentUser := some phone
    pages := [.initializer { InitializerState.initState none with route := .returned },
      .authenticate
        { currState := .otpState, showLoading := true, verificationId := some phone }]
    stack := [.page 1]
    tasks := ((∅ : OrderedMap Nat Task).set 0 (.verify 1 phone false)).set 1
      (.signIn 1 phone await) }

/-- The device when the call has pushed an InitializerWidget. -/
def signedIn (phone : String) : Device :=
  { signIn phone .pushReplacementNamed with
    pages := (signIn phone .pushReplacementNamed).pages ++ [.initializer (.initState (some phone))]
    stack := [.page 2]
    tasks := ((∅ : OrderedMap Nat Task).set 0 (.verify 1 phone false)).set 1 (.pushed 1 2) }

theorem run_signingIn (phone : String) :
    Run Step (launch none) (signingIn phone) (signIn phone (.get phone)) :=
  exec_eq_some_iff.mp rfl

/-- A number that has a document goes on to its page. -/
theorem step_exists : Step (signIn phone (.get phone)) (.reply 1 (.document (.ok (some doc))))
    (signedIn phone) := rfl

/-- For one that has none it is set first. -/
theorem step_not_exists : Step (signIn phone (.get phone)) (.reply 1 (.document (.ok none)))
    (signIn phone (.set phone)) := rfl

theorem step_written : Step (signIn phone (.set phone)) (.reply 1 (.written (.ok ())))
    (signedIn phone) := rfl

/-- On a home page that is all there is one can sign out. -/
theorem signs_out {s : Device} {i : Nat} {home : Home} (hstack : s.stack = [.page i])
    (hhome : s.home? i = some home) :
    ∃ task t, Run Step s [.signOut i task, .signOutReply task none] t ∧ t.currentUser = none := by
  obtain ⟨task, hfresh⟩ := Infinite.exists_notMem_finset s.tasks.keys.toFinset
  rw [List.mem_toFinset] at hfresh
  have hshows : s.ShowsHome i := by
    obtain ⟨p, hp, hpage⟩ := Option.bind_eq_some_iff.mp hhome
    exact ⟨by rw [hstack]; rfl, p, initializer?_eq_some_iff.mp hp, by rw [hpage]; rfl⟩
  have hsignOut : Step s (.signOut i task) (s.setTask task (.signOut i)) :=
    if_pos ⟨hshows, hfresh⟩
  have hget : (s.setTask task (.signOut i)).tasks.get? task = some (.signOut i) :=
    OrderedMap.get?_set_self
  obtain ⟨t, ht, huser⟩ :
      ∃ t, Step (s.setTask task (.signOut i)) (.signOutReply task none) t ∧
        t.currentUser = none := by
    simp only [Fires, step, hget]
    refine ⟨_, rfl, ?_⟩
    split
    · exact pop_currentUser
    · rfl
  exact ⟨task, t, .head hsignOut (.single ht), huser⟩

end Device

end App

namespace Deployment.System

open App Device

variable {accounts : Nat → Option String} {users : OrderedMap String Fields} {menu : MenuMap}
  {es : List Event} {events : List App.Event} {s t : System} {d : Nat} {phone : String}
  {doc : Fields} {device : Device} {write : UserWrite}

/-! ## Events that concern one device -/

/-- Such an event brings nothing to its device and sends nothing. -/
theorem local_eq {s : Device} {e : App.Event} (he : e.IsLocal) :
    s.answered e = none ∧ s.setUser e = none ∧ e.snapshot? = none ∧ e.ordId? = none ∧
      e.written? = none ∧ ¬ e.IsRestart := by
  cases e with
  | restart | routeReply | menu => cases he
  | reply call completion =>
      cases completion with
      | credential => exact ⟨rfl, rfl, rfl, rfl, rfl, not_false⟩
      | document | written => cases he
  | frame | verify | pick | codeSent | verificationCompleted | verificationFailed | verifyThrows
  | confirm | popped | signOut | signOutReply | back =>
      exact ⟨rfl, rfl, rfl, rfl, rfl, not_false⟩

theorem step_local {e : App.Event} (he : e.IsLocal) (h : Device.Step (s.devices d) e device) :
    Alone d s (.device d e) { s with devices := Function.update s.devices d device } := by
  obtain ⟨hanswered, hset, hsnapshot, hordId, hwritten, hrestart⟩ :=
    local_eq (s := s.devices d) he
  have hgenuine : s.Genuine d e := by
    refine genuine_of ?_ ?_ hordId hwritten
    · rw [hanswered]
      rintro answer ⟨⟩
    · rw [hsnapshot]
      rintro menu ⟨⟩
  have hput := step_put hgenuine h
  simp only [put, sendOrders, hset, hordId, if_neg hrestart, Option.toList_none, List.map_nil,
    List.append_nil] at hput
  exact hput

/-- A run of a device whose events concern it alone. -/
theorem run_local (h : Run Device.Step (s.devices d) events device)
    (hes : ∀ e ∈ events, e.IsLocal) :
    Run (Alone d) s (events.map (.device d))
      { s with devices := Function.update s.devices d device } := by
  induction h with
  | refl =>
      rw [Function.update_eq_self]
      exact .refl
  | @snoc events device e device' hr hR ih =>
      have he : e.IsLocal := hes e (by simp)
      have hrun := ih fun e' he' ↦ hes e' (List.mem_append_left _ he')
      have hdevice : Device.Step (Function.update s.devices d device d) e device' := by
        rwa [Function.update_self]
      have hstep : Alone d { s with devices := Function.update s.devices d device } (.device d e)
          { s with devices := Function.update (Function.update s.devices d device) d device' } :=
        step_local he hdevice
      rw [Function.update_idem] at hstep
      rw [List.map_append, List.map_singleton]
      exact hrun.snoc hstep

/-! ## The launches -/

/-- A write that is on its way was sent in one of the launches of its device. -/
def Launched (s : System) : Prop := ∀ write ∈ s.userWrites, write.launch ≤ s.launches write.device

theorem launches_put {e : App.Event} {d' : Nat} :
    s.launches d' ≤ (s.put d e device).launches d' := by
  simp only [put]
  split
  · rw [Function.update_apply]
    split
    · next h => exact h ▸ Nat.le_succ _
    · exact le_rfl
  · exact le_rfl

theorem launched_step {e : Event} (hs : s.Launched) (h : Step s e t) : t.Launched := by
  cases effect_step h with
  | device he hgenuine hdevice =>
      intro write hw
      refine le_trans ?_ launches_put
      rcases List.mem_append.mp hw with hw | hw
      · exact hs write hw
      · obtain ⟨set, -, rfl⟩ := List.mem_map.mp hw
        exact le_rfl
  | store | canteen | otherUser => exact hs
  | landUser => exact fun write hw ↦ hs write (List.mem_of_mem_eraseIdx hw)

theorem launched_run (h : Run Step (initial accounts users menu) es t) : t.Launched :=
  h.invariant (by rintro write ⟨⟩) launched_step

/-! ## The sign-out -/

/-- `Users` has a document of the user, and the app can read it. -/
def Readable (s : System) (user : String) : Prop :=
  ∃ doc b, s.users.current.get? user = some doc ∧ doc.field "isAdmin" = .bool b

/-- A user whose document can be read can sign out. -/
theorem leads_nobody (hs : ∀ user ∈ (s.devices d).currentUser, s.Readable user) :
    Leads (Alone d) s fun t ↦ (t.devices d).currentUser = none ∧ t.users = s.users := by
  cases huser : (s.devices d).currentUser with
  | none => exact .here ⟨huser, rfl⟩
  | some user =>
      obtain ⟨doc, b, hdoc, hadmin⟩ := hs user huser
      refine (leads_home huser hdoc hadmin).bind ?_
      rintro fs t - ⟨⟨hstack, hhome⟩, hunmoved⟩
      obtain ⟨task, device, hrun, hnobody⟩ := signs_out hstack hhome
      have hlocal : ∀ e ∈ [App.Event.signOut 0 task, .signOutReply task none], e.IsLocal := by
        simp [Event.IsLocal]
      have hdevice : Function.update t.devices d device d = device := Function.update_self ..
      refine .run (run_local hrun hlocal) (.here ⟨?_, hunmoved.users⟩)
      exact (congrArg Device.currentUser hdevice).trans hnobody

/-! ## The sign-in -/

/-- The `set` of a new document lands, and is then acknowledged. -/
theorem leads_written {writes : List UserWrite} (hdevice : s.devices d = signIn phone (.set phone))
    (hwrites : s.userWrites = writes ++ [⟨d, s.launches d, 1, phone⟩])
    (hnew : ∀ write ∈ writes, ¬ (write.device = d ∧ write.launch = s.launches d)) :
    Leads (Alone d) s fun t ↦
      t.devices d = signedIn phone ∧ t.users.current.get? phone = some newUser := by
  obtain ⟨a, hland, hdevice', hlaunches, hwrites', hdoc⟩ :
      ∃ a, Alone d s (.landUser writes.length) a ∧ a.devices d = signIn phone (.set phone) ∧
        a.launches d = s.launches d ∧ a.userWrites = writes ∧
          a.users.current.get? phone = some newUser := by
    have hget : s.userWrites[writes.length]? = some ⟨d, s.launches d, 1, phone⟩ := by
      rw [hwrites, List.getElem?_concat_length]
    have herase : s.userWrites.eraseIdx writes.length = writes := by
      rw [hwrites, List.eraseIdx_append_of_length_le le_rfl]
      simp
    refine ⟨{ s with
      users := s.users.commit (s.users.current.set phone newUser)
      userWrites := writes }, ⟨trivial, ?_⟩, hdevice, rfl, rfl, ?_⟩
    · simp only [Fires, step, hget, Option.map_some, herase]
    · rw [Register.current_commit, OrderedMap.get?_set_self]
  have hgenuine : a.Genuine d (.reply 1 (.written (.ok ()))) := by
    constructor
    · rintro answer ⟨⟩
    · rintro menu ⟨⟩
    · rintro id ⟨⟩
    · rintro call - write hw ⟨hd, hlaunch, -⟩
      rw [hwrites'] at hw
      exact hnew write hw ⟨hd, hlaunch.trans hlaunches⟩
  have hwritten := step_put hgenuine (hdevice' ▸ step_written)
  exact .step hland (.single hwritten ⟨devices_put, hdoc⟩)

/-- Once the number is confirmed its document is read, and set if there is none. -/
theorem leads_signedIn (hdevice : s.devices d = signIn phone (.get phone))
    (hnew : ∀ write ∈ s.userWrites, ¬ (write.device = d ∧ write.launch = s.launches d)) :
    Leads (Alone d) s fun t ↦ t.devices d = signedIn phone ∧
      t.users.current.get? phone = some ((s.users.current.get? phone).getD newUser) := by
  have hanswer : (s.devices d).answered (.reply 1 (.document (.ok (s.users.current.get? phone)))) =
      some (phone, s.users.current.get? phone) := by
    rw [hdevice]
    rfl
  have hgenuine := genuine_read hanswer rfl rfl rfl
  cases hdoc : s.users.current.get? phone with
  | some doc =>
      rw [hdoc] at hgenuine
      have hstep := step_put hgenuine (hdevice ▸ step_exists)
      exact .single hstep ⟨devices_put, hdoc⟩
  | none =>
      rw [hdoc] at hgenuine
      have hstep := step_put hgenuine (hdevice ▸ step_not_exists)
      have hwrites :
          (s.put d (.reply 1 (.document (.ok none))) (signIn phone (.set phone))).userWrites =
            s.userWrites ++ [⟨d, s.launches d, 1, phone⟩] := by
        simp only [put, hdevice]
        rfl
      exact .step hstep (leads_written devices_put hwrites hnew)

/-- The account is signed in on the device, its document is `doc`, and its home page is
all there is. -/
def SignedIn (s : System) (d : Nat) (phone : String) (doc : Fields) : Prop :=
  (s.devices d).currentUser = some phone ∧ s.users.current.get? phone = some doc ∧
    ∃ i b, doc.field "isAdmin" = .bool b ∧ (s.devices d).stack = [.page i] ∧
      (s.devices d).home? i = some (homeOf phone b)

/-- The page that a sign-in has pushed reads the document that is there now. -/
theorem leads_opened {b : Bool} (hdevice : s.devices d = signedIn phone)
    (hdoc : s.users.current.get? phone = some doc) (hadmin : doc.field "isAdmin" = .bool b) :
    Leads (Alone d) s fun t ↦ SignedIn t d phone doc := by
  obtain ⟨device, hroute, hstack, huser, hhome⟩ :=
    opens (s := signedIn phone) (i := 2) List.mem_cons_self rfl rfl hadmin
  have hanswer : (s.devices d).answered (.routeReply 2 (.ok (some doc))) =
      some (phone, s.users.current.get? phone) := by
    rw [hdevice, hdoc]
    rfl
  rw [← hdevice] at hroute
  refine .single (step_put (genuine_read hanswer rfl rfl rfl) hroute)
    ⟨?_, hdoc, 2, b, hadmin, ?_, ?_⟩
  · rw [devices_put, huser]
    rfl
  · rw [devices_put, hstack]
    rfl
  · rw [devices_put, hhome]

/-- On a device where nobody is signed in every number can sign in. -/
theorem leads_somebody (hs : s.Launched) (hnobody : (s.devices d).currentUser = none)
    (hdoc : s.users.current.get? phone = none ∨ s.Readable phone) :
    Leads (Alone d) s fun t ↦
      SignedIn t d phone ((s.users.current.get? phone).getD newUser) := by
  obtain ⟨a, hlaunch, hdevice, hlaunches, hwrites, hunmoved⟩ := relaunched s d
  rw [hnobody] at hdevice
  obtain ⟨c, hsigningIn, hasking, husers', hwrites', hlaunches'⟩ :
      ∃ c, Run (Alone d) a ((signingIn phone).map (.device d)) c ∧
        c.devices d = signIn phone (.get phone) ∧ c.users = a.users ∧
          c.userWrites = a.userWrites ∧ c.launches = a.launches := by
    have hlocal : ∀ e ∈ signingIn phone, e.IsLocal := by simp [signingIn, Event.IsLocal]
    exact ⟨_, run_local (hdevice ▸ run_signingIn phone) hlocal, Function.update_self .., rfl, rfl,
      rfl⟩
  have hnew : ∀ write ∈ c.userWrites, ¬ (write.device = d ∧ write.launch = c.launches d) := by
    rintro write hw ⟨rfl, heq⟩
    rw [hwrites', hwrites] at hw
    have hle := hs write hw
    rw [hlaunches', hlaunches] at heq
    omega
  have hsame : c.users = s.users := husers'.trans hunmoved.users
  obtain ⟨b, hadmin⟩ : ∃ b,
      ((s.users.current.get? phone).getD newUser).field "isAdmin" = .bool b := by
    rcases hdoc with hnone | ⟨doc, b, hget, hadmin⟩
    · exact ⟨false, by rw [hnone]; rfl⟩
    · exact ⟨b, by rwa [hget]⟩
  refine .step hlaunch (.run hsigningIn ((leads_signedIn hasking hnew).bind ?_))
  rintro fs t - ⟨hsigned, hget⟩
  rw [hsame] at hget
  exact leads_opened hsigned hget hadmin

/-- Every phone number that has no document, or one that can be read, can sign in on
every device, unless somebody is signed in there whose document cannot.  Whoever is
signed in is signed out before. -/
theorem can_sign_in (h : Run Step (initial accounts users menu) es s)
    (hs : ∀ user ∈ (s.devices d).currentUser, s.Readable user)
    (hdoc : s.users.current.get? phone = none ∨ s.Readable phone) :
    Leads (Alone d) s fun a ↦ (a.devices d).currentUser = none ∧
      Leads (Alone d) a fun t ↦
        SignedIn t d phone ((s.users.current.get? phone).getD newUser) := by
  refine (leads_nobody hs).bind ?_
  rintro fs t ht ⟨hnobody, husers⟩
  have hdoc' : t.users.current.get? phone = none ∨ t.Readable phone := by
    rwa [Readable, husers]
  refine .here ⟨hnobody, ?_⟩
  rw [← husers]
  exact leads_somebody (launched_run (h.trans ht.of_guarded)) hnobody hdoc'

/-- The device that a number has signed in on for the first time can be handed over. -/
theorem can_sign_in_firstSignIn : Leads (Alone 0) afterFirstSignIn fun a ↦
    (a.devices 0).currentUser = none ∧ Leads (Alone 0) a fun t ↦
      SignedIn t 0 "v" ((afterFirstSignIn.users.current.get? "v").getD newUser) := by
  refine can_sign_in run_firstSignIn ?_ (.inl (by decide))
  rintro user huser
  obtain rfl : "u" = user := Option.some.inj huser
  exact ⟨newUser, false, by decide, rfl⟩

end Deployment.System

end CollegeCanteens
