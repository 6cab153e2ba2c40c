import CollegeCanteens.App.Disposed
import CollegeCanteens.App.Session

/-!
# Where the home pages come from

What a step makes of the home page of an InitializerWidget (`home_from`), and where
the accounts are from whose documents it and the sign-in calls read (`route_from`,
`reads_from`).  `Origin` says less about an event and more about a page; here it is
the event that counts, since a home page opens when a read completes and the one who
sees to it that reads complete with what is stored is the server.
-/

namespace CollegeCanteens.App

open Transition Menu SignIn

namespace Page

/-- The fields of an InitializerWidget. -/
def initializer? : Page → Option InitializerState
  | .initializer p => some p
  | .authenticate _ => none

end Page

/-- The Menu screen that the home page is. -/
def Home.menu? : Home → Option Screen
  | .admin => none
  | .user menu => some menu

namespace Device

variable {s s' t : Device} {e : Event} {es : List Event} {i j id call : Nat} {page : Page}
  {p : InitializerState} {phone : String} {currentUser : Option String} {home : Home}
  {menu : Screen} {f : AuthenticateState → AuthenticateState}
  {g : InitializerState → InitializerState}

/-- The fields of the InitializerWidget of a page. -/
def initializer? (s : Device) (i : Nat) : Option InitializerState :=
  s.pages[i]?.bind Page.initializer?

/-- The home page that the InitializerWidget of a page shows. -/
def home? (s : Device) (i : Nat) : Option Home := (s.initializer? i).bind (·.home)

theorem initializer?_eq_some_iff :
    s.initializer? i = some p ↔ s.pages[i]? = some (.initializer p) := by
  unfold initializer?
  cases hp : s.pages[i]? with
  | none => simp
  | some page => cases page <;> simp [Page.initializer?]

theorem home?_of_initializer? (h : s.initializer? i = some p) : s.home? i = p.home := by
  rw [home?, h, Option.bind_some]

theorem menu?_eq_some_iff : s.menu? i = some menu ↔ s.home? i = some (.user menu) := by
  unfold menu? home? initializer?
  cases hp : s.pages[i]? with
  | none => simp
  | some page =>
      cases page with
      | authenticate p => simp [Page.initializer?]
      | initializer p =>
          cases hhome : p.home with
          | none => simp [Page.initializer?, hhome]
          | some home => cases home <;> simp [Page.initializer?, hhome]

theorem home?_launch : (launch currentUser).home? i = none := by cases i <;> rfl

theorem route?_eq : s.route? i = (s.initializer? i).map (·.route) := by
  unfold route? initializer?
  cases hp : s.pages[i]? with
  | none => rfl
  | some page => cases page <;> rfl

/-! ## The operations -/

theorem initializer?_modify :
    (s.modify j (.mapInitializer g)).initializer? i =
      if j = i then (s.initializer? i).map g else s.initializer? i := by
  rw [initializer?, getElem?_modify]
  split
  · rw [initializer?]
    cases s.pages[i]? with
    | none => rfl
    | some page => cases page <;> rfl
  · rfl

@[simp] theorem initializer?_setState :
    (s.setState j f).initializer? i = s.initializer? i := by
  unfold setState
  split
  · rw [initializer?, getElem?_modify, initializer?]
    split
    · cases s.pages[i]? with
      | none => rfl
      | some page => cases page <;> rfl
    · rfl
  · rfl

theorem initializer?_push :
    (s.push page).initializer? i =
      if i = s.pages.length then page.initializer? else s.initializer? i := by
  change ((s.pages ++ [page])[i]?).bind _ = _
  rcases lt_trichotomy i s.pages.length with hlt | rfl | hgt
  · rw [List.getElem?_append_left hlt, if_neg hlt.ne, initializer?]
  · simp
  · rw [if_neg hgt.ne', initializer?, List.getElem?_eq_none hgt.le, List.getElem?_eq_none]
    simpa using Nat.succ_le_of_lt hgt

/-- A new page shows no home page. -/
theorem home?_push (hp : ∀ p, page = .initializer p → p.home = none) :
    (s.push page).home? i = s.home? i := by
  rw [home?, initializer?_push]
  split
  · have hnone : s.initializer? i = none := by simp [initializer?, *]
    rw [home?, hnone]
    cases page with
    | authenticate p => rfl
    | initializer p => exact hp p rfl
  · rfl

theorem route?_modify (hg : ∀ p, (g p).route = p.route) :
    (s.modify j (.mapInitializer g)).route? i = s.route? i := by
  rw [route?_eq, route?_eq, initializer?_modify]
  split
  · cases s.initializer? i with
    | none => rfl
    | some p => exact congrArg some (hg p)
  · rfl

@[simp] theorem route?_setState : (s.setState j f).route? i = s.route? i := by
  rw [route?_eq, route?_eq, initializer?_setState]

theorem route?_push : (s.push page).route? i =
    if i = s.pages.length then page.initializer?.map (·.route) else s.route? i := by
  rw [route?_eq, route?_eq, initializer?_push]
  split <;> rfl

@[simp] theorem route?_dismiss : (s.dismiss j).route? i = s.route? i := by
  refine route?_modify fun p ↦ ?_
  unfold InitializerState.mapMenu
  split <;> rfl

@[simp] theorem route?_pop : s.pop.route? i = s.route? i := by
  unfold pop
  split
  · rfl
  · exact route?_dismiss
  · rfl

/-- A step of the Menu screen of a page. -/
theorem home?_mapMenu {f : Screen → Screen} (h : s.home? j = some (.user menu)) :
    (s.modify j (.mapInitializer (.mapMenu f))).home? =
      Function.update s.home? j (some (.user (f menu))) := by
  obtain ⟨p, hp, hhome⟩ := Option.bind_eq_some_iff.mp h
  funext i
  rw [home?, initializer?_modify]
  rcases eq_or_ne j i with rfl | hne
  · rw [if_pos rfl, hp, Function.update_self, Option.map_some, Option.bind_some,
      InitializerState.mapMenu, hhome]
  · rw [if_neg hne, Function.update_of_ne hne.symm, home?]

theorem home?_mapMenu_of_not {f : Screen → Screen} (h : ∀ menu, s.home? j ≠ some (.user menu)) :
    (s.modify j (.mapInitializer (.mapMenu f))).home? = s.home? := by
  funext i
  rw [home?, initializer?_modify]
  rcases eq_or_ne j i with rfl | hne
  · cases hp : s.initializer? j with
    | none => simp [home?, hp]
    | some p =>
        have hhome : s.home? j = p.home := home?_of_initializer? hp
        rw [if_pos rfl, Option.map_some, Option.bind_some, hhome, InitializerState.mapMenu]
        split
        · rename_i menu hmenu
          exact absurd (hhome.trans hmenu) (h menu)
        · rfl
  · rw [if_neg hne, home?]

/-- What a step may have made of the home pages: of all of them, of none, or of one. -/
inductive HomesFrom (s : Device) (e : Event) : (Nat → Option Home) → Prop
  | /-- The app has been launched again. -/
    gone {currentUser : Option String} : e = .restart currentUser → HomesFrom s e fun _ ↦ none
  | same : HomesFrom s e s.home?
  | /-- The read of `route()` has completed. -/
    opened {i : Nat} {phone username : String} {data : Fields} {b : Bool} :
      e = .routeReply i (.ok (some data)) → s.route? i = some (.get phone) →
      s.currentUser = some username → data.field "isAdmin" = .bool b → s.home? i = none →
      HomesFrom s e
        (Function.update s.home? i (some (if b then .admin else .user (.initial username))))
  | /-- A dialog of a Menu screen has been dismissed. -/
    dismissed {i : Nat} {menu menu' : Screen} : s.home? i = some (.user menu) →
      Screen.Step menu .dismiss menu' →
      HomesFrom s e (Function.update s.home? i (some (.user menu')))
  | /-- It is a Menu screen that the event is about. -/
    event {i : Nat} {menu menu' : Screen} {menuEvent : Menu.Event} : e = .menu i menuEvent →
      s.home? i = some (.user menu) → Screen.Step menu menuEvent menu' →
      HomesFrom s e (Function.update s.home? i (some (.user menu')))

namespace HomesFrom

theorem of_eq (hs : s'.home? = s.home?) : HomesFrom s e s'.home? := hs ▸ .same

theorem of_dismiss (hs : s'.home? = s.home?) : HomesFrom s e (s'.dismiss j).home? := by
  unfold Device.dismiss
  by_cases h : ∃ menu, s'.home? j = some (.user menu)
  · obtain ⟨menu, hmenu⟩ := h
    rw [home?_mapMenu hmenu, hs]
    rw [hs] at hmenu
    cases hstep : menu.step .dismiss with
    | none => rw [Option.getD_none, ← hmenu, Function.update_eq_self]; exact .same
    | some menu' => exact .dismissed hmenu hstep
  · rw [home?_mapMenu_of_not (not_exists.mp h)]
    exact .of_eq hs

theorem of_pop (hs : s'.home? = s.home?) : HomesFrom s e s'.pop.home? := by
  unfold Device.pop
  split
  · exact .of_eq hs
  · exact .of_dismiss hs
  · exact .of_eq hs

theorem of_replace (hs : s'.home? = s.home?) (hp : ∀ p, page = .initializer p → p.home = none) :
    HomesFrom s e (s'.replace page).home? := by
  have hpush : (s'.replace page).home? = s'.pop.home? := funext fun i ↦ home?_push hp
  exact hpush ▸ .of_pop hs

end HomesFrom

/-- What a step may have made of the home page of the page `i`. -/
inductive HomeFrom (s : Device) (e : Event) (i : Nat) : Home → Prop
  | same {home : Home} : s.home? i = some home → HomeFrom s e i home
  | opened {phone username : String} {data : Fields} {b : Bool} :
      e = .routeReply i (.ok (some data)) → s.route? i = some (.get phone) →
      s.currentUser = some username → data.field "isAdmin" = .bool b →
      HomeFrom s e i (if b then .admin else .user (.initial username))
  | dismissed {menu menu' : Screen} : s.home? i = some (.user menu) →
      Screen.Step menu .dismiss menu' → HomeFrom s e i (.user menu')
  | event {menu menu' : Screen} {menuEvent : Menu.Event} : e = .menu i menuEvent →
      s.home? i = some (.user menu) → Screen.Step menu menuEvent menu' →
      HomeFrom s e i (.user menu')

theorem HomesFrom.at {homes : Nat → Option Home} (h : HomesFrom s e homes)
    (hi : homes i = some home) : HomeFrom s e i home := by
  cases h with
  | gone => cases hi
  | same => exact .same hi
  | opened he hroute hu hb =>
      rw [Function.update_apply] at hi
      split at hi
      · subst ‹i = _›
        cases hi
        exact .opened he hroute hu hb
      · exact .same hi
  | dismissed hmenu hdismiss =>
      rw [Function.update_apply] at hi
      split at hi
      · subst ‹i = _›
        cases hi
        exact .dismissed hmenu hdismiss
      · exact .same hi
  | event he hmenu hevent =>
      rw [Function.update_apply] at hi
      split at hi
      · subst ‹i = _›
        cases hi
        exact .event he hmenu hevent
      · exact .same hi

/-! ## While a read is waited for -/

/-- Every page that waits for its read waits for the document of its account, and
shows nothing. -/
def Waiting (s : Device) : Prop :=
  ∀ (i : Nat) (p : InitializerState), s.pages[i]? = some (.initializer p) → p.Waits

theorem waiting_launch : (launch currentUser).Waiting :=
  fun i p hp ↦ (sessions_launch i p hp).1

theorem route_resume {reply : Reply} (phone' : String) :
    (p.resume phone currentUser reply).route ≠ .get phone' := by
  rcases p.resume_cases phone currentUser reply with
      ⟨data, username, b, rfl, rfl, hb⟩ | ⟨usrdata, userData, signedIn, heq⟩
  · simp only [InitializerState.resume, InitializerState.routeSetState_bool hb]
    exact RouteState.noConfusion
  · rw [heq]
    exact RouteState.noConfusion

theorem Origin.waits (h : Origin s e j page) (hs : s.Waiting) :
    ∀ p, page = .initializer p → p.Waits := by
  induction h with
  | same h =>
      rintro p rfl
      exact hs _ _ h
  | authenticate =>
      intro p hp
      cases hp
  | initState =>
      rintro p ⟨⟩
      exact InitializerState.Waits.of_initState
  | frame | lost =>
      rintro p ⟨⟩
      exact .of_not_get fun _ ↦ RouteState.noConfusion
  | resume =>
      rintro p ⟨⟩
      exact .of_not_get route_resume
  | menu _ hhome _ ih =>
      rintro p ⟨⟩
      have hwaits := ih _ rfl
      refine .of_not_get fun phone hp ↦ ?_
      rw [hwaits.home phone hp] at hhome
      cases hhome

theorem waiting_step (hs : s.Waiting) (h : Step s e t) : t.Waiting :=
  fun i _ hp ↦ (pages_step h i _ hp).waits hs _ rfl

theorem waiting_run (h : Run Step (launch currentUser) es t) : t.Waiting :=
  h.invariant waiting_launch waiting_step

/-! ## What a step does -/

theorem Ran.home?_eq (h : Ran s e t) : t.home? i = s.home? i := by
  induction h with
  | refl | account => rfl
  | frame =>
      rw [home?, initializer?_modify]
      split
      · rw [home?]
        cases s.initializer? i <;> rfl
      · rfl
  | setState _ _ _ ih =>
      rw [home?, initializer?_setState]
      exact ih
  | setTask _ _ _ _ ih | endTask _ _ ih => exact ih

/-- The read of `route()` brings the home page of the account. -/
theorem homes_read {reply : Reply} (hs : s.Waiting) (hp : s.pages[i]? = some (.initializer p))
    (hroute : p.route = .get phone) (he : e = .routeReply i reply) :
    HomesFrom s e (s.modify i (.mapInitializer fun p ↦
      if s.Mounted i then p.resume phone s.currentUser reply
      else { p with route := .failed })).home? := by
  have hinit := initializer?_eq_some_iff.mpr hp
  have hnone : s.home? i = none :=
    (home?_of_initializer? hinit).trans ((hs i p hp).home phone hroute)
  have hhome : (s.modify i (.mapInitializer fun p ↦
      if s.Mounted i then p.resume phone s.currentUser reply
      else { p with route := .failed })).home? = Function.update s.home? i
        (if s.Mounted i then p.resume phone s.currentUser reply
          else { p with route := .failed }).home := by
    funext j
    rw [home?, initializer?_modify]
    rcases eq_or_ne i j with rfl | hne
    · rw [if_pos rfl, hinit, Function.update_self, Option.map_some, Option.bind_some]
    · rw [if_neg hne, Function.update_of_ne hne.symm, home?]
  rw [hhome]
  split
  · rcases p.resume_cases phone s.currentUser reply with
        ⟨data, username, b, rfl, hu, hb⟩ | ⟨usrdata, userData, signedIn, heq⟩
    · have hget : s.route? i = some (.get phone) := by
        rw [route?_eq, hinit, Option.map_some, hroute]
      rw [hu, InitializerState.resume_ok hb ((hs i p hp).isAdmin phone hroute)]
      exact .opened he hget hu hb hnone
    · rw [heq, ← home?_of_initializer? hinit, Function.update_eq_self]
      exact .same
  · rw [← home?_of_initializer? hinit, Function.update_eq_self]
    exact .same

/-- Where the home pages come from in a step. -/
theorem homes_step (hs : s.Waiting) (h : Step s e t) : HomesFrom s e t.home? := by
  cases effect_step h with
  | @launch currentUser he =>
      have hnone : (launch currentUser).home? = fun _ ↦ none := funext fun i ↦ home?_launch
      exact hnone ▸ .gone he
  | ran _ hran => exact .of_eq (funext fun i ↦ hran.home?_eq)
  | read he hp hroute => exact homes_read hs hp hroute he
  | @menu i menuEvent p menu menu' stack he hp hhome hmenu =>
      have huser := (home?_of_initializer? (initializer?_eq_some_iff.mpr hp)).trans hhome
      change HomesFrom s e (s.modify i (.mapInitializer (.mapMenu fun _ ↦ menu'))).home?
      rw [home?_mapMenu huser]
      exact .event he huser hmenu
  | pick => exact .same
  | replace _ hran => exact .of_replace (funext fun i ↦ hran.home?_eq) (by rintro p ⟨⟩)
  | pushed _ _ hran =>
      refine .of_replace (funext fun i ↦ hran.home?_eq) ?_
      rintro p ⟨⟩
      rfl
  | back => exact .of_pop rfl

/-- Where a home page comes from in a step. -/
theorem home_from (hs : s.Waiting) (h : Step s e t) (ht : t.home? i = some home) :
    HomeFrom s e i home := (homes_step hs h).at ht

/-! ## The Menu screens -/

theorem menu?_of_eq (h : t.home? = s.home?) : t.menu? = s.menu? := by
  funext j
  refine Option.ext fun menu ↦ ?_
  rw [menu?_eq_some_iff, h, menu?_eq_some_iff]

theorem menu?_of_update (h : t.home? = Function.update s.home? i (some home)) :
    t.menu? = Function.update s.menu? i home.menu? := by
  funext j
  refine Option.ext fun menu ↦ ?_
  rw [menu?_eq_some_iff, h, Function.update_apply, Function.update_apply]
  split
  · cases home <;> simp [Home.menu?]
  · exact menu?_eq_some_iff.symm

theorem menu?_of_home?_none (h : s.home? i = none) : s.menu? i = none :=
  Option.eq_none_iff_forall_ne_some.mpr fun menu hmenu ↦ by
    rw [menu?_eq_some_iff, h] at hmenu
    cases hmenu

theorem menu?_launch : (launch currentUser).menu? = fun _ ↦ none :=
  funext fun _ ↦ menu?_of_home?_none home?_launch

/-- What happens on a Menu screen leaves the others as they are. -/
theorem menus_event {menuEvent : Menu.Event} (h : Step s (.menu i menuEvent) t) :
    ∃ menu menu', s.menu? i = some menu ∧ Screen.Step menu menuEvent menu' ∧
      t.menu? = Function.update s.menu? i (some menu') := by
  obtain ⟨-, -, p, menu, menu', hp, hhome, hstep, s', rfl, ht⟩ := step_menu h
  have huser : s.home? i = some (.user menu) :=
    (home?_of_initializer? (initializer?_eq_some_iff.mpr hp)).trans hhome
  have hhomes : t.home? = Function.update s.home? i (some (.user menu')) := by
    rw [← home?_mapMenu (f := fun _ ↦ menu') huser]
    rcases ht with rfl | ⟨-, rfl⟩ <;> rfl
  exact ⟨menu, menu', menu?_eq_some_iff.mpr huser, hstep, menu?_of_update hhomes⟩

/-- Anything else but a launch opens one Menu screen at most, or dismisses a dialog
of one. -/
theorem menus_step (hs : s.Waiting) (h : Step s e t)
    (hlaunch : ∀ currentUser, e ≠ .restart currentUser)
    (hmenu : ∀ i menuEvent, e ≠ .menu i menuEvent) : t.menu? = s.menu? ∨
      (∃ i username, s.menu? i = none ∧
        t.menu? = Function.update s.menu? i (some (.initial username))) ∨
      ∃ i menu menu', s.menu? i = some menu ∧ Screen.Step menu .dismiss menu' ∧
        t.menu? = Function.update s.menu? i (some menu') := by
  have hfrom := homes_step hs h
  generalize hhomes : t.home? = homes at hfrom
  cases hfrom with
  | gone he => exact absurd he (hlaunch _)
  | event he => exact absurd he (hmenu _ _)
  | same => exact .inl (menu?_of_eq hhomes)
  | @opened i phone username data b _ _ _ _ hnone =>
      have hmenus := menu?_of_update hhomes
      have hi := menu?_of_home?_none hnone
      cases b with
      | true => exact .inl (hmenus.trans (Function.update_eq_self_iff.mpr hi.symm))
      | false => exact .inr (.inl ⟨i, username, hi, hmenus⟩)
  | dismissed huser hdismiss =>
      exact .inr (.inr ⟨_, _, _, menu?_eq_some_iff.mpr huser, hdismiss, menu?_of_update hhomes⟩)

/-- Where the Menu screens come from in a step. -/
theorem menu_from (hs : s.Waiting) (h : Step s e t) (ht : t.menu? i = some menu) :
    s.menu? i = some menu ∨ (∃ username, menu = .initial username) ∨
      ∃ menu₀ menuEvent, s.menu? i = some menu₀ ∧ Screen.Step menu₀ menuEvent menu ∧
        (menuEvent = .dismiss ∨ e = .menu i menuEvent) := by
  generalize hhome : Home.user menu = home
  have hfrom : HomeFrom s e i home := home_from hs h (hhome ▸ menu?_eq_some_iff.mp ht)
  cases hfrom with
  | same hsame => exact .inl (menu?_eq_some_iff.mpr (hhome ▸ hsame))
  | @opened phone username data b =>
      cases b with
      | true => cases hhome
      | false =>
          cases hhome
          exact .inr (.inl ⟨username, rfl⟩)
  | dismissed hmenu hdismiss =>
      cases hhome
      exact .inr (.inr ⟨_, _, menu?_eq_some_iff.mpr hmenu, hdismiss, .inl rfl⟩)
  | event he hmenu hevent =>
      cases hhome
      exact .inr (.inr ⟨_, _, menu?_eq_some_iff.mpr hmenu, hevent, .inr he⟩)

/-! ## What a page reads -/

theorem currentUser_of_initState
    (h : (InitializerState.initState currentUser).route = .get phone) :
    currentUser = some phone := by
  cases currentUser <;> cases h
  rfl

theorem currentUser_of_launch (h : (launch currentUser).route? i = some (.get phone)) :
    currentUser = some phone := by
  cases i with
  | zero => exact currentUser_of_initState (Option.some.inj h)
  | succ i => cases h

theorem Ran.route?_of (h : Ran s e t) (ht : t.route? i = some (.get phone)) :
    s.route? i = some (.get phone) := by
  induction h with
  | refl | account => exact ht
  | frame =>
      rw [route?_eq, initializer?_modify] at ht
      split at ht
      · cases hp : s.initializer? i <;> rw [hp] at ht <;> cases ht
      · exact route?_eq.trans ht
  | setState _ _ _ ih => exact ih (route?_setState.symm.trans ht)
  | setTask _ _ _ _ ih | endTask _ _ ih => exact ih ht

/-- A page that waits for the document of an account has done so before, or has
just been opened for it. -/
theorem route_from (h : Step s e t) (ht : t.route? i = some (.get phone)) :
    s.route? i = some (.get phone) ∨ t.currentUser = some phone := by
  cases effect_step h with
  | launch => exact .inr (currentUser_of_launch ht)
  | ran _ hran => exact .inl (hran.route?_of ht)
  | read =>
      rw [route?_eq, initializer?_modify] at ht
      split at ht
      · cases hp : s.initializer? i with
        | none =>
            rw [hp] at ht
            cases ht
        | some p =>
            rw [hp, Option.map_some, Option.map_some] at ht
            split at ht
            · exact absurd (Option.some.inj ht) (route_resume phone)
            · cases ht
      · exact .inl (route?_eq.trans ht)
  | @menu j _ _ _ menu' =>
      have hmodify : (s.modify j (.mapInitializer (.mapMenu fun _ ↦ menu'))).route? i =
          some (.get phone) := ht
      refine .inl ?_
      rwa [route?_modify] at hmodify
      intro p
      unfold InitializerState.mapMenu
      split <;> rfl
  | pick => exact .inl ht
  | replace _ hran =>
      rw [replace, route?_push, route?_pop] at ht
      split at ht
      · cases ht
      · exact .inl (hran.route?_of ht)
  | @pushed s' j call _ _ hran =>
      change (s'.pop.push _).route? i = some (.get phone) at ht
      rw [route?_push, route?_pop] at ht
      split at ht
      · exact .inr (pop_currentUser.trans (currentUser_of_initState (Option.some.inj ht)))
      · exact .inl (hran.route?_of ht)
  | back => exact .inl (route?_pop.symm.trans ht)

/-! ## What a sign-in call reads -/

section Calls

variable {task : Task}

/-- The phone number whose document a sign-in call reads, if it is one that waits
for a document. -/
def reads? (s : Device) (call : Nat) : Option String := (s.tasks.get? call).bind Task.reads?

theorem reads?_of_tasks (h : t.tasks = s.tasks) : t.reads? call = s.reads? call := by
  rw [reads?, h, reads?]

@[simp] theorem reads?_setState : (s.setState j f).reads? call = s.reads? call :=
  reads?_of_tasks setState_tasks

@[simp] theorem reads?_pop : s.pop.reads? call = s.reads? call := reads?_of_tasks pop_tasks

@[simp] theorem reads?_replace : (s.replace page).reads? call = s.reads? call :=
  reads?_of_tasks replace_tasks

theorem reads?_setTask :
    (s.setTask id task).reads? call = if call = id then task.reads? else s.reads? call := by
  change ((s.tasks.set id task).get? call).bind _ = _
  rw [OrderedMap.get?_set]
  split <;> rfl

theorem of_reads?_setTask (htask : task.reads? = none)
    (h : (s.setTask id task).reads? call = some phone) : s.reads? call = some phone := by
  rw [reads?_setTask] at h
  split at h
  · cases htask.symm.trans h
  · exact h

theorem of_reads?_endTask (h : (s.endTask id).reads? call = some phone) :
    s.reads? call = some phone := by
  change ((s.tasks.remove id).get? call).bind _ = _ at h
  rw [OrderedMap.get?_remove] at h
  split at h
  · cases h
  · exact h

theorem Ran.reads?_of (h : Ran s e t) (ht : t.reads? call = some phone) :
    s.reads? call = some phone ∨ t.currentUser = some phone := by
  induction h with
  | refl | frame | account => exact .inl ht
  | setState _ _ _ ih =>
      rw [setState_currentUser]
      exact ih (reads?_setState.symm.trans ht)
  | setTask _ _ _ hreads ih =>
      rw [reads?_setTask] at ht
      split at ht
      · exact .inr (hreads phone ht)
      · exact ih ht
  | endTask _ _ ih => exact ih (of_reads?_endTask ht)

/-- A sign-in call that reads the document of a phone number has done so before,
or the number is that of the account just signed in. -/
theorem reads_from (h : Step s e t) (ht : t.reads? call = some phone) :
    s.reads? call = some phone ∨ t.currentUser = some phone := by
  cases effect_step h with
  | launch => cases ht
  | ran _ hran => exact hran.reads?_of ht
  | read | menu | pick => exact .inl ht
  | replace _ hran =>
      refine (hran.reads?_of (reads?_replace.symm.trans ht)).imp_right fun huser ↦ ?_
      exact pop_currentUser.trans huser
  | pushed _ _ hran =>
      have hreads := reads?_replace.symm.trans (of_reads?_setTask rfl ht)
      refine (hran.reads?_of hreads).imp_right fun huser ↦ ?_
      exact pop_currentUser.trans huser
  | back => exact .inl (reads?_pop.symm.trans ht)

end Calls

end Device

end CollegeCanteens.App
