import CollegeCanteens.App.Navigation

/-!
# Sessions

Which home page an InitializerWidget shows, and whose wallet and orders its Menu
screen touches.

`route()` is called for the account that is signed in when its page is opened,
but the user name of the home page is that of the account that is signed in when
the read completes.  Where the two are the same account, `SameAccount`, every
home page belongs to it: this is `session_run`.  Where they are not, the Menu
screen pays from the wallet of the second one, in the page of the first.
-/

namespace CollegeCanteens

open Transition

namespace Menu.Screen

variable {s t : Screen} {e : Event} {es : List Event} {username : String}

/-- Only the wallet of this user has been read, and only for them have orders
been recorded. -/
structure Of (username : String) (s : Screen) : Prop where
  username_eq : s.username = username
  reads : ∀ user ∈ s.reads, user = username
  orders : ∀ order ∈ s.orders, order.2.user = some (.scalar (.string username))

theorem of_initial : (initial username).Of username where
  username_eq := rfl
  reads := by
    intro user hu
    cases hu
  orders := by
    intro order ho
    cases ho

theorem of_step (hs : s.Of username) (h : Step s e t) : t.Of username where
  username_eq := (username_step h).trans hs.username_eq
  reads := by
    intro user hu
    rcases reads_step h with heq | heq <;> rw [heq] at hu
    · exact hs.reads user hu
    · rcases List.mem_append.mp hu with hu | hu
      · exact hs.reads user hu
      · exact (List.mem_singleton.mp hu).trans hs.username_eq
  orders := by
    intro order ho
    rcases orders_step h with heq | ⟨_, _, ordId, now, -, -, heq⟩ <;> rw [heq] at ho
    · exact hs.orders order ho
    · rcases List.mem_append.mp ho with ho | ho
      · exact hs.orders order ho
      · rw [List.mem_singleton.mp ho, OrderDoc.user_orderDoc, hs.username_eq]

end Menu.Screen

namespace App

open Menu

namespace InitializerState

variable {p : InitializerState} {phone : String} {currentUser : Option String} {reply : Reply}

/-- Its own call of `route()` has read this document, of the phone number that
was signed in when it was called and when the read completed. -/
def HasRead (p : InitializerState) (phone : String) (data : Fields) : Prop :=
  p.userData = some (phone, data) ∧ p.user = some phone ∧ p.signedIn = some phone

/-- The home page belongs to the account of its InitializerWidget. -/
structure Session (p : InitializerState) : Prop where
  admin : p.home = some .admin →
    ∃ phone data, p.HasRead phone data ∧ data.field "isAdmin" = .bool true
  menu : ∀ menu, p.home = some (.user menu) → ∃ phone data,
    p.HasRead phone data ∧ menu.Of phone ∧ ∃ es, Run Screen.Step (.initial phone) es menu

/-- While `route()` waits, it waits for the document of the account that was
signed in when it was called, and nothing is shown. -/
structure Waits (p : InitializerState) : Prop where
  user : ∀ phone, p.route = .get phone → p.user = some phone
  isAdmin : ∀ phone, p.route = .get phone → p.isAdmin = false
  home : ∀ phone, p.route = .get phone → p.home = none

theorem Session.of_home_none (h : p.home = none) : p.Session where
  admin ha := by
    rw [h] at ha
    cases ha
  menu menu hm := by
    rw [h] at hm
    cases hm

/-- What is shown follows from what has been read. -/
theorem Session.hasRead (h : p.Session) (hp : p.home.isSome) :
    ∃ phone data, p.HasRead phone data := by
  obtain ⟨home, hhome⟩ := Option.isSome_iff_exists.mp hp
  cases home with
  | admin =>
      obtain ⟨phone, data, hread, -⟩ := h.admin hhome
      exact ⟨phone, data, hread⟩
  | user menu =>
      obtain ⟨phone, data, hread, -⟩ := h.menu menu hhome
      exact ⟨phone, data, hread⟩

theorem Waits.of_not_get (h : ∀ phone, p.route ≠ .get phone) : p.Waits where
  user phone hp := absurd hp (h phone)
  isAdmin phone hp := absurd hp (h phone)
  home phone hp := absurd hp (h phone)

theorem Waits.of_initState : (initState currentUser).Waits where
  user phone hp := by
    cases currentUser <;> cases hp
    rfl
  isAdmin _ _ := rfl
  home _ _ := rfl

/-- What a read leads to, if the account signed in then is the one it was for. -/
theorem session_resume (hw : p.Waits) (hroute : p.route = .get phone)
    (hsame : ∀ data, reply = .ok (some data) → (data.field "isAdmin").asBool.isOk →
      ∀ username ∈ currentUser, username = phone) :
    (p.resume phone currentUser reply).Waits ∧ (p.resume phone currentUser reply).Session := by
  rcases p.resume_cases phone currentUser reply with
      ⟨data, username, b, rfl, rfl, hb⟩ | ⟨usrdata, userData, signedIn, heq⟩
  · obtain rfl : username = phone := hsame data rfl (by rw [hb]; rfl) username rfl
    rw [resume_ok hb (hw.isAdmin _ hroute)]
    have hread : HasRead { p with
        usrdata := data.set "username" (.string username), userData := some (username, data)
        signedIn := some username, isAdmin := b, isLoading := false, route := .returned
        home := some (if b then .admin else .user (.initial username)) } username data :=
      ⟨rfl, hw.user _ hroute, rfl⟩
    refine ⟨.of_not_get fun _ ↦ RouteState.noConfusion, ?_, ?_⟩
    · intro hadmin
      cases b with
      | true => exact ⟨username, data, hread, hb⟩
      | false => cases hadmin
    · intro menu hmenu
      cases b with
      | true => cases hmenu
      | false =>
          cases hmenu
          exact ⟨username, data, hread, Screen.of_initial, [], .refl⟩
  · rw [heq]
    exact ⟨.of_not_get fun _ ↦ RouteState.noConfusion,
      .of_home_none (hw.home _ hroute)⟩

end InitializerState

namespace Device

variable {s t : Device} {e : Event} {es : List Event} {i j : Nat} {page : Page}
  {p : InitializerState} {currentUser : Option String} {reply : Reply}

/-- The state of the page's call of `route()`. -/
def route? (s : Device) (i : Nat) : Option RouteState :=
  match s.pages[i]? with
  | some (.initializer p) => some p.route
  | _ => none

/-- If the read of `route()` leads to a home page, the account that is signed in
is the one that `route()` was called for. -/
def SameAccount (s : Device) : Event → Prop
  | .routeReply i (.ok (some data)) =>
    s.Mounted i → (data.field "isAdmin").asBool.isOk → ∀ username ∈ s.currentUser,
      s.route? i = some (.get username)
  | _ => True

instance (s : Device) : DecidablePred (SameAccount s) := fun e ↦ by
  unfold SameAccount
  split <;> infer_instance

/-- Every page that waits for its read has nothing to show, and every home page
belongs to its own account. -/
def Sessions (s : Device) : Prop :=
  ∀ (i : Nat) (p : InitializerState), s.pages[i]? = some (.initializer p) → p.Waits ∧ p.Session

theorem sessions_launch : (launch currentUser).Sessions := by
  intro i p hp
  obtain rfl : p = .initState currentUser := by
    simpa using List.mem_singleton.mp (List.mem_of_getElem? hp)
  exact ⟨InitializerState.Waits.of_initState, .of_home_none rfl⟩

/-- What an origin makes of a page keeps its session. -/
theorem Origin.session (h : Origin s e j page) (hs : s.Sessions) (hg : SameAccount s e) :
    ∀ p, page = .initializer p → p.Waits ∧ p.Session := by
  induction h with
  | same h =>
      rintro p rfl
      exact hs _ _ h
  | authenticate =>
      intro p hp
      cases hp
  | initState =>
      rintro p ⟨⟩
      exact ⟨InitializerState.Waits.of_initState, .of_home_none rfl⟩
  | @frame p _ hroute ih =>
      rintro p' ⟨⟩
      obtain ⟨-, hsession⟩ := ih p rfl
      exact ⟨.of_not_get fun _ ↦ RouteState.noConfusion, hsession.admin, hsession.menu⟩
  | @resume p phone reply he hp hroute hm =>
      rintro p' ⟨⟩
      refine InitializerState.session_resume (hs _ _ hp).1 hroute ?_
      rintro data rfl hok username hu
      subst he
      have hsame := hg hm hok username hu
      simp only [route?, hp, hroute, Option.some.injEq, RouteState.get.injEq] at hsame
      exact hsame.symm
  | @lost p hm hp =>
      rintro p' ⟨⟩
      obtain ⟨-, hsession⟩ := hs _ _ hp
      exact ⟨.of_not_get fun _ ↦ RouteState.noConfusion, hsession.admin, hsession.menu⟩
  | @menu p menu menu' menuEvent _ hhome hstep ih =>
      rintro p' ⟨⟩
      obtain ⟨hwaits, hsession⟩ := ih p rfl
      refine ⟨.of_not_get fun phone hp ↦ ?_, fun hadmin ↦ ?_, fun menu'' hmenu ↦ ?_⟩
      · rw [hwaits.home phone hp] at hhome
        cases hhome
      · cases hadmin
      · cases hmenu
        obtain ⟨phone, data, hread, hof, es, hrun⟩ := hsession.menu menu hhome
        exact ⟨phone, data, hread, Screen.of_step hof hstep, _, hrun.snoc hstep⟩

theorem sameAccount_of (h : ∀ data username b, reply = .ok (some data) → s.Mounted i →
    s.currentUser = some username → data.field "isAdmin" = .bool b →
    s.route? i = some (.get username)) : SameAccount s (.routeReply i reply) := by
  rcases reply with err | _ | data
  · trivial
  · trivial
  · intro hm hok username hu
    obtain ⟨b, hb⟩ := Scalar.isOk_asBool_iff.mp hok
    exact h data username b rfl hm hu hb

/-- If it is another account, the home page does not belong to it. -/
theorem not_session_of_not_sameAccount (hs : s.Sessions) (h : Step s (.routeReply i reply) t)
    (hg : ¬ SameAccount s (.routeReply i reply)) :
    ∃ p, t.pages[i]? = some (.initializer p) ∧ ¬ p.Session := by
  by_contra hall
  refine hg (sameAccount_of fun data username b hr hm hu hb ↦ ?_)
  obtain ⟨p, phone, hp, hroute, hpage⟩ := page_of_routeReply h hm
  have hsession : (p.resume phone s.currentUser reply).Session :=
    not_not.mp fun hn ↦ hall ⟨_, hpage, hn⟩
  rw [hr, hu, InitializerState.resume_ok hb ((hs i p hp).1.isAdmin phone hroute)] at hsession
  obtain ⟨phone', data', hdata, -, hsigned⟩ := hsession.hasRead rfl
  obtain ⟨rfl, -⟩ : phone = phone' ∧ data = data' := by simpa using hdata
  obtain rfl : username = phone := by simpa using hsigned
  simp [route?, hp, hroute]

theorem sessions_step (hs : s.Sessions) (hg : SameAccount s e) (h : Step s e t) : t.Sessions :=
  fun i p hp ↦ (pages_step h i _ hp).session hs hg p rfl

/-- In every run in which each read of `route()` that leads to a home page
completes with the account still signed in that it was called for, every home
page belongs to that account. -/
theorem session_run (h : Run (Guarded SameAccount Step) (launch currentUser) es t)
    (hp : t.pages[i]? = some (.initializer p)) : p.Session :=
  (h.invariant (P := Sessions) sessions_launch
    (fun hs hR ↦ sessions_step hs hR.1 hR.2) i p hp).2

/-- A sign-in on an Authenticate page, up to the page it pushes. -/
def signsIn (i task call : Nat) (phone : String) : List Event :=
  [.verify i task phone, .codeSent task, .confirm i call, .reply call (.credential (.ok true)),
    .reply call (.document (walletReply 50))]

/-- The taps that read the wallet, on the Menu screen of a page. -/
def paysOn (i : Nat) : List Event :=
  [.menu i (.snapshot (some (singleMenu "tea" 10 true))), .menu i .pay]

/-- One account after another on the same device. -/
def twoAccounts : List Event :=
  .frame 0 :: signsIn 1 0 1 "x" ++ .routeReply 2 (walletReply 50) :: paysOn 2 ++
    [.signOut 2 2, .signOutReply 2 none] ++
    signsIn 3 3 4 "y" ++ .routeReply 4 (walletReply 50) :: paysOn 4

theorem session_twoAccounts : ∃ p, ((exec (restrict SameAccount step) (launch none)
    twoAccounts).get (by decide)).pages[4]? = some (.initializer p) ∧ p.Session := by
  have hrun : Run (Guarded SameAccount Step) (launch none) twoAccounts _ :=
    run_guarded_exec_get (by decide)
  exact ⟨_, rfl, session_run (i := 4) hrun rfl⟩

/-- The code of `x` is also verified on its own, and the sign-in call of that
completes long after: `x` has signed out and `y` has signed in. -/
def lateSignIn : List Event :=
  [.frame 0, .verify 1 0 "x", .codeSent 0, .confirm 1 1, .verificationCompleted 0 2,
    .reply 1 (.credential (.ok true)), .reply 1 (.document (walletReply 50)),
    .routeReply 2 (walletReply 50), .signOut 2 3, .signOutReply 3 none] ++
    signsIn 3 4 5 "y" ++
    [.reply 2 (.credential (.ok true)), .routeReply 4 (walletReply 50)] ++ paysOn 4

/-- The Menu screen of `y` then reads the wallet of `x`. -/
theorem not_session : ¬ ∀ (currentUser : Option String) (es : List Event) (t : Device) (i : Nat)
    (p : InitializerState), Run Step (launch currentUser) es t →
      t.pages[i]? = some (.initializer p) → p.Session := by
  intro h
  have hsession := h none lateSignIn ((exec step (launch none) lateSignIn).get (by decide)) 4 _
    (run_exec_get (by decide)) rfl
  obtain ⟨phone, data, ⟨-, huser, -⟩, hof, -⟩ := hsession.menu _ rfl
  have hx : "x" = phone := hof.reads "x" List.mem_cons_self
  have hy : "y" = phone := Option.some.inj huser
  exact absurd (hx.trans hy.symm) (by decide)

end Device

end App

end CollegeCanteens
