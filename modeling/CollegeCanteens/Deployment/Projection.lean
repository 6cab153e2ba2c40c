import CollegeCanteens.Canteen.Lifecycle
import CollegeCanteens.Deployment.Components
import Mathlib.Data.Fintype.EquivFin
import Mathlib.Logic.Equiv.List

/-!
# The canteen in a deployment

`Canteen.System` knows no devices: its Menu screens are there from the start, its
sign-in calls start at any time, and its reads are answered by the server.  Every run
of a deployment is nevertheless one of the canteen, in which the same happens to the
order store (`projects_run`), so that what is true of the canteen whatever happens is
true of a deployment (`has_run`, `served_iff_checked`).

A Menu screen of the canteen is numbered by the user and the page that open it
(`screenNumber`).  A sign-in of the canteen runs from its start to its `set` when that
of the deployment sends one (`exists_set`).  What a device finds without the server,
which may be old, the canteen finds between two writes of somebody else
(`exists_between`).
-/

namespace CollegeCanteens

open Transition Menu SignIn

namespace Canteen.System

variable {c : System} {n call : Nat} {users : OrderedMap String Fields} {doc : Option Fields}
  {user user' ordId : String} {now : Int} {screen : Screen}

/-! ## What the canteen can do -/

/-- Another writer can set a document for one event and then put the old one back. -/
theorem exists_between {d : System} {e : Event} (user : String) (doc : Option Fields)
    (h : Step { c with users := doc.elim (c.users.remove user) (c.users.set user) } e d)
    (hd : d.users = doc.elim (c.users.remove user) (c.users.set user)) :
    ∃ fs users, Run Step c fs { d with users := users } ∧
      fs.filterMap storeEvent = [e].filterMap storeEvent ∧ users.Same c.users := by
  refine ⟨[.otherWrite user doc, e, .otherWrite user (c.users.get? user)],
    (c.users.get? user).elim (d.users.remove user) (d.users.set user),
    .head rfl (.head h (.single rfl)), ?_, fun user' ↦ ?_⟩
  · simp [storeEvent, List.filterMap_cons]
  · rw [OrderedMap.get?_elim, hd, OrderedMap.get?_elim]
    split
    · rw [‹user' = user›]
    · rfl

/-- What happens on a Menu screen but the completion of a read can happen. -/
theorem step_of_screen {screenEvent : Menu.Event} (hget : ¬ IsGet screenEvent)
    (h : Screen.Step (c.screens n) screenEvent screen) : Step c (.screen n screenEvent)
      { c with screens := Function.update c.screens n screen } := by
  have hscreen : (c.screens n).step screenEvent = some screen := h
  have horders : screen.orders = (c.screens n).orders := by
    rcases Screen.orders_step h with heq | ⟨_, _, _, _, rfl, -⟩
    · exact heq
    · exact absurd trivial hget
  simp only [Fires, step, if_neg hget, onScreen, hscreen, Option.map_some, put, horders,
    List.drop_length, Store.send, List.map_nil, List.append_nil]

/-- The read of a Pay call can find anything. -/
theorem exists_answer (hread : call ∈ (c.screens n).reading) (hreply : (n, call) ∉ c.replies)
    (r : Reply) : ∃ fs users,
      Run Step c fs { c with users := users, replies := c.replies.set (n, call) r } ∧
      fs.filterMap storeEvent = [] ∧ users.Same c.users := by
  cases r with
  | error err =>
      refine ⟨[.serve n call (some err)], c.users, .single ?_, rfl, .refl _⟩
      simp [Fires, step, hread, hreply, answer]
  | ok doc =>
      refine exists_between (e := .serve n call none)
        (d := { c with
          users := doc.elim (c.users.remove (c.screens n).username)
            (c.users.set (c.screens n).username)
          replies := c.replies.set (n, call) (.ok doc) }) (c.screens n).username doc ?_ rfl
      simp [Fires, step, hread, hreply, answer, OrderedMap.get?_elim]

/-- The read of a Pay call can find anything, and the call goes on. -/
theorem exists_resume {r : Reply} (hreply : c.replies = ∅) (hnew : ordId ∉ c.issued)
    (h : Screen.Step (c.screens n) (.get call r ordId now) screen) :
    ∃ fs users, Run Step c fs
      { c with
        toStore := (c.issue ordId).send (screen.orders.drop (c.screens n).orders.length)
        users := users, screens := Function.update c.screens n screen } ∧
      fs.filterMap storeEvent = [.issue ordId] ∧ users.Same c.users := by
  have hread : call ∈ (c.screens n).reading := (Screen.step_get h).1
  obtain ⟨fs, users, hfs, hseen, hsame⟩ :=
    exists_answer hread (hreply ▸ OrderedMap.notMem_empty) r
  refine ⟨fs ++ [.resume n call ordId now], users, hfs.snoc ?_, by simp [hseen, storeEvent], hsame⟩
  have hempty : (c.replies.set (n, call) r).remove (n, call) = c.replies := by
    rw [hreply]
    exact OrderedMap.eq_empty_iff.mpr fun k ↦ by simp
  have hscreen : (c.screens n).step (.get call r ordId now) = some screen := h
  simp only [Fires, step, OrderedMap.get?_set_self, hnew, if_false, onScreen, hempty, hscreen,
    Option.map_some]
  rfl

/-- What happens to the order store but the giving out of ids can happen. -/
theorem exists_store {e : StoreEvent} {store : Store} (hnot : ∀ id, e ≠ .issue id)
    (h : Store.Step c.toStore e store) :
    ∃ e', Step c e' { c with toStore := store } ∧ storeEvent e' = some e := by
  cases h with
  | issue | send => exact absurd rfl (hnot _)
  | @land n store hland => exact ⟨.land n, by simp [Fires, step, hland], rfl⟩
  | list => exact ⟨.list, rfl, rfl⟩
  | @check admin id store hcheck => exact ⟨.check admin id, by simp [Fires, step, hcheck], rfl⟩

/-- A sign-in call can come to set the document of any phone number. -/
theorem exists_set (phone : String) : ∃ fs users signIns call,
    Run Step c fs { c with users := users, signIns := signIns } ∧
      fs.filterMap storeEvent = [] ∧ users.Same c.users ∧ call ∉ c.signIns ∧
      ∀ call', signIns.get? call' =
        if call' = call then some ⟨.set phone, none⟩ else c.signIns.get? call' := by
  obtain ⟨call, hcall⟩ := Infinite.exists_notMem_finset c.signIns.keys.toFinset
  have hnew : call ∉ c.signIns := fun h ↦ hcall (List.mem_toFinset.mpr h)
  let asks := (c.signIns.set call ⟨.signInWithCredential, none⟩).set call ⟨.get phone, none⟩
  have hstart : Run Step c [.signIn call, .authenticate call (.ok true) (some phone)]
      { c with signIns := asks } := by
    refine exec_eq_some_iff.mp ?_
    simp [exec, step, hnew, afterSignInWithCredential, advance, asks, pure, Except.pure, bind,
      Except.bind]
  obtain ⟨fs, users, hfs, hseen, hsame⟩ := exists_between (c := { c with signIns := asks })
    (e := .serveSignIn call none)
    (d := { c with
      users := c.users.remove phone, signIns := asks.set call ⟨.get phone, some (.ok none)⟩ })
    phone none (by simp [Fires, step, asks, answer]) rfl
  refine ⟨_, users, (asks.set call ⟨.get phone, some (.ok none)⟩).set call ⟨.set phone, none⟩, call,
    (hstart.trans hfs).snoc (e := .resumeSignIn call) ?_, ?_, hsame, hnew, fun call' ↦ ?_⟩
  · simp [Fires, step, afterGet, advance, pure, Except.pure, bind, Except.bind]
  · rw [List.filterMap_append, List.filterMap_append, hseen]
    rfl
  · simp only [asks, OrderedMap.get?_set]
    split <;> rfl

end Canteen.System

namespace Deployment

open App Canteen

/-! ## The numbers of the Menu screens -/

/-- The number of the Menu screen that the page `i` of a launch of the app opens for a
user. -/
def screenNumber (user : String) (d launch i : Nat) : Nat :=
  Encodable.encode (user.toList.map Char.toNat, d, launch, i)

/-- The user that the Menu screen of a number is opened for. -/
def screenUser (n : Nat) : String :=
  match (Encodable.decode n : Option (List Nat × Nat × Nat × Nat)) with
  | some (chars, _) => String.ofList (chars.map Char.ofNat)
  | none => ""

@[simp] theorem screenUser_screenNumber {user : String} {d launch i : Nat} :
    screenUser (screenNumber user d launch i) = user := by
  simp [screenUser, screenNumber, Function.comp_def]

/-- The number says which page it is. -/
theorem page_of_screenNumber {user user' : String} {d d' launch launch' i i' : Nat}
    (h : screenNumber user d launch i = screenNumber user' d' launch' i') :
    d = d' ∧ launch = launch' ∧ i = i' := by
  have hpage := (Prod.mk.inj (Encodable.encode_injective h)).2
  simpa using hpage

/-- What the Menu screens of the canteen have to do with those of the devices: each of
these is one of them, and those that a page can still open are unused. -/
structure Shows (menus : Nat → Nat → Option Screen) (launches : Nat → Nat)
    (screens : Nat → Screen) : Prop where
  menu : ∀ d i menu, menus d i = some menu →
    screens (screenNumber menu.username d (launches d) i) = menu
  unopened : ∀ user d launch i, launches d ≤ launch → (launch = launches d → menus d i = none) →
    screens (screenNumber user d launch i) = .initial user

namespace Shows

variable {menus : Nat → Nat → Option Screen} {launches : Nat → Nat} {screens : Nat → Screen}
  {d d' i j : Nat} {user : String} {menu menu' : Screen}

theorem initial : Shows (fun _ _ ↦ none) (fun _ ↦ 0) fun n ↦ .initial (screenUser n) := by
  constructor
  · rintro d i menu ⟨⟩
  · intro user d launch i _ _
    rw [screenUser_screenNumber]

/-- The app is launched again. -/
theorem launch (h : Shows menus launches screens) : Shows (Function.update menus d fun _ ↦ none)
    (Function.update launches d (launches d + 1)) screens := by
  constructor
  · intro d' j menu hmenu
    rcases eq_or_ne d' d with rfl | hd
    · rw [Function.update_self] at hmenu
      cases hmenu
    · rw [Function.update_of_ne hd] at hmenu ⊢
      exact h.menu d' j menu hmenu
  · intro user d' l j hle hnone
    rcases eq_or_ne d' d with rfl | hd
    · rw [Function.update_self] at hle
      exact h.unopened user d' l j (by omega) fun hl ↦ absurd hle (by omega)
    · rw [Function.update_of_ne hd] at hle
      rw [Function.update_of_ne hd, Function.update_of_ne hd] at hnone
      exact h.unopened user d' l j hle hnone

theorem update_update {a : Option Screen} :
    Function.update menus d (Function.update (menus d) i a) d' j =
      if d' = d ∧ j = i then a else menus d' j := by
  rcases eq_or_ne d' d with rfl | hd
  · simp [Function.update_apply]
  · simp [hd]

/-- A page that still has no Menu screen had none before, and is another one. -/
theorem of_update_eq_none
    (h : Function.update menus d (Function.update (menus d) i (some menu)) d' j = none) :
    ¬ (d' = d ∧ j = i) ∧ menus d' j = none := by
  rw [update_update] at h
  split at h
  · cases h
  · exact ⟨‹_›, h⟩

/-- A page opens its Menu screen. -/
theorem opened (h : Shows menus launches screens) (hi : menus d i = none) :
    Shows (Function.update menus d (Function.update (menus d) i (some (.initial user))))
      launches screens := by
  constructor
  · intro d' j menu hmenu
    rw [update_update] at hmenu
    split at hmenu
    · obtain ⟨rfl, rfl⟩ := ‹d' = d ∧ j = i›
      cases hmenu
      exact h.unopened user d' _ j le_rfl fun _ ↦ hi
    · exact h.menu d' j menu hmenu
  · intro user' d' l j hle hnone
    exact h.unopened user' d' l j hle fun hl ↦ (of_update_eq_none (hnone hl)).2

/-- A Menu screen makes a step. -/
theorem moved (h : Shows menus launches screens) (hi : menus d i = some menu)
    (hname : menu'.username = menu.username) :
    Shows (Function.update menus d (Function.update (menus d) i (some menu'))) launches
      (Function.update screens (screenNumber menu.username d (launches d) i) menu') := by
  constructor
  · intro d' j menu₁ hmenu
    rw [update_update] at hmenu
    split at hmenu
    · obtain ⟨rfl, rfl⟩ := ‹d' = d ∧ j = i›
      cases hmenu
      rw [hname, Function.update_self]
    · next hne =>
        rw [Function.update_of_ne, h.menu d' j menu₁ hmenu]
        intro heq
        obtain ⟨hd, -, hj⟩ := page_of_screenNumber heq
        exact hne ⟨hd, hj⟩
  · intro user d' l j hle hnone
    rw [Function.update_of_ne]
    · exact h.unopened user d' l j hle fun hl ↦ (of_update_eq_none (hnone hl)).2
    · intro heq
      obtain ⟨rfl, hl, hj⟩ := page_of_screenNumber heq
      exact (of_update_eq_none (hnone hl)).1 ⟨rfl, hj⟩

end Shows

namespace System

/-- The deployment `s` is seen as the canteen `c`. -/
structure Projects (s : System) (c : Canteen.System) : Prop where
  store : c.toStore = s.store
  users : c.users.Same s.users.current
  replies : c.replies = ∅
  waiting : ∀ d, (s.devices d).Waiting
  shows : Shows (fun d ↦ (s.devices d).menu?) s.launches c.screens
  /-- Each `set` on its way is that of a sign-in call. -/
  signIns : ∃ calls : List (Nat × UserWrite), calls.map Prod.snd = s.userWrites ∧
    (calls.map Prod.fst).Nodup ∧
    ∀ call ∈ calls, c.signIns.get? call.1 = some ⟨.set call.2.phone, none⟩

variable {s t : System} {c c' : Canteen.System} {e : Event} {es : List Event} {d i : Nat}
  {device : Device} {e' : App.Event} {accounts : Nat → Option String}
  {users : OrderedMap String Fields} {menu : MenuMap} {screen : Screen} {id : String}
  {order : OrderDoc}

theorem launches_put_of_restart (h : e'.IsRestart) :
    (s.put d e' device).launches = Function.update s.launches d (s.launches d + 1) := if_pos h

theorem launches_put_eq (s : System) (d : Nat) (device : Device) (h : ¬ e'.IsRestart) :
    (s.put d e' device).launches = s.launches := if_neg h

namespace Projects

theorem initial : Projects (initial accounts users menu)
    (Canteen.System.initial users screenUser) where
  store := rfl
  users := .refl _
  replies := rfl
  waiting _ := Device.waiting_launch
  shows := by
    have hnone : (fun d ↦ (Device.launch (accounts d)).menu?) = fun _ _ ↦ none :=
      funext fun d ↦ Device.menu?_launch
    exact hnone ▸ Shows.initial
  signIns := ⟨[], rfl, .nil, by simp⟩

/-- A device has moved, and the Menu screens with it. -/
theorem moved {menus : Nat → Option Screen} {launches : Nat → Nat} (h : Projects s c)
    (hstep : Device.Step (s.devices d) e' device) (hmenus : device.menu? = menus)
    (hlaunches : (s.put d e' device).launches = launches)
    (hstore : c'.toStore = sendOrders s.store (s.devices d) e') (husers : c'.users.Same c.users)
    (hreplies : c'.replies = c.replies) (hsignIns : c'.signIns = c.signIns)
    (hshows : Shows (Function.update (fun d ↦ (s.devices d).menu?) d menus) launches c'.screens) :
    Projects { s.put d e' device with userWrites := s.userWrites } c' where
  store := hstore
  users := husers.trans h.users
  replies := hreplies.trans h.replies
  waiting d' := by
    change (Function.update s.devices d device d').Waiting
    rw [Function.update_apply]
    split
    · exact Device.waiting_step (h.waiting d) hstep
    · exact h.waiting d'
  shows := by
    have hdevices : (fun d' ↦ (Function.update s.devices d device d').menu?) =
        Function.update (fun d ↦ (s.devices d).menu?) d menus := by
      funext d'
      rw [Function.update_apply, Function.update_apply]
      split
      · exact hmenus
      · rfl
    change Shows (fun d' ↦ (Function.update s.devices d device d').menu?) _ _
    rw [hdevices, hlaunches]
    exact hshows
  signIns := hsignIns ▸ h.signIns

theorem onLaunch {currentUser : Option String} (h : Projects s c)
    (hstep : Device.Step (s.devices d) (.restart currentUser) device) :
    Projects { s.put d (.restart currentUser) device with userWrites := s.userWrites } c := by
  obtain ⟨-, rfl⟩ := Device.step_restart hstep
  have hrestart : (App.Event.restart currentUser).IsRestart := trivial
  exact h.moved hstep Device.menu?_launch (launches_put_of_restart hrestart) h.store (.refl _)
    rfl rfl h.shows.launch

theorem onMenu {menuEvent : Menu.Event} (h : Projects s c)
    (hgenuine : s.Genuine d (.menu i menuEvent))
    (hstep : Device.Step (s.devices d) (.menu i menuEvent) device) :
    ∃ fs c', Run Canteen.System.Step c fs c' ∧ fs.filterMap Canteen.System.storeEvent =
        ((App.Event.menu i menuEvent).ordId?.map StoreEvent.issue).toList ∧
      Projects { s.put d (.menu i menuEvent) device with userWrites := s.userWrites } c' := by
  obtain ⟨menu, menu', hmenu, hmenuStep, hmenus⟩ := Device.menus_event hstep
  have hscreen := h.shows.menu d i menu hmenu
  have hshows := h.shows.moved hmenu (Screen.username_step hmenuStep)
  have hrestart : ¬ (App.Event.menu i menuEvent).IsRestart := not_false
  have hlaunches := s.launches_put_eq d device hrestart
  by_cases hget : IsGet menuEvent
  · cases menuEvent with
    | get call r ordId now =>
        have hnew : ordId ∉ c.issued := h.store ▸ hgenuine.ordId ordId rfl
        obtain ⟨fs, users, hfs, hseen, hsame⟩ :=
          Canteen.System.exists_resume h.replies hnew (hscreen.symm ▸ hmenuStep)
        refine ⟨fs, _, hfs, hseen, h.moved hstep hmenus hlaunches ?_ hsame rfl rfl hshows⟩
        have horders : (s.devices d).newOrders (.menu i (.get call r ordId now)) =
            menu'.orders.drop menu.orders.length := by
          rw [Device.newOrders, hmenu, (Screen.step_get hmenuStep).2]
        change (c.issue ordId).send _ = (s.store.issue ordId).send _
        rw [horders, hscreen, h.store]
    | _ => exact hget.elim
  · have hnone : (App.Event.menu i menuEvent).ordId? = none := by
      cases menuEvent with
      | get => exact absurd trivial hget
      | _ => rfl
    have hstore : c.toStore = sendOrders s.store (s.devices d) (.menu i menuEvent) := by
      rw [sendOrders, hnone]
      exact h.store
    have hrun := Canteen.System.step_of_screen hget (hscreen.symm ▸ hmenuStep)
    refine ⟨_, _, .single hrun, by rw [hnone]; rfl, ?_⟩
    exact h.moved hstep hmenus hlaunches hstore (.refl _) rfl rfl hshows

/-- Any other event of a device. -/
theorem onOther (h : Projects s c) (hstep : Device.Step (s.devices d) e' device)
    (hlaunch : ∀ currentUser, e' ≠ .restart currentUser)
    (hmenu : ∀ i menuEvent, e' ≠ .menu i menuEvent) :
    ∃ fs c', Run Canteen.System.Step c fs c' ∧ fs.filterMap Canteen.System.storeEvent =
        (e'.ordId?.map StoreEvent.issue).toList ∧
      Projects { s.put d e' device with userWrites := s.userWrites } c' := by
  have hrestart : ¬ e'.IsRestart := by
    cases e' with
    | restart currentUser => exact absurd rfl (hlaunch currentUser)
    | _ => exact not_false
  have hlaunches := s.launches_put_eq d device hrestart
  have hnone : e'.ordId? = none := by
    cases e' with
    | menu i menuEvent => exact absurd rfl (hmenu i menuEvent)
    | _ => rfl
  have hstore : c.toStore = sendOrders s.store (s.devices d) e' := by
    rw [sendOrders, hnone]
    exact h.store
  rw [hnone]
  rcases Device.menus_step (h.waiting d) hstep hlaunch hmenu with
      hmenus | ⟨i, username, hi, hmenus⟩ | ⟨i, menu, menu', hmenu, hdismiss, hmenus⟩
  · refine ⟨[], c, .refl, rfl, h.moved hstep hmenus hlaunches hstore (.refl _) rfl rfl ?_⟩
    rw [Function.update_eq_self d fun d ↦ (s.devices d).menu?]
    exact h.shows
  · exact ⟨[], c, .refl, rfl,
      h.moved hstep hmenus hlaunches hstore (.refl _) rfl rfl (h.shows.opened hi)⟩
  · have hscreen := h.shows.menu d i menu hmenu
    have hshows := h.shows.moved hmenu (Screen.username_step hdismiss)
    have hget : ¬ IsGet .dismiss := not_false
    have hrun := Canteen.System.step_of_screen hget (hscreen.symm ▸ hdismiss)
    exact ⟨_, _, .single hrun, rfl, h.moved hstep hmenus hlaunches hstore (.refl _) rfl rfl hshows⟩

/-- What happens on a device, but for the `set` of a sign-in that it sends. -/
theorem onDevice (h : Projects s c) (hgenuine : s.Genuine d e')
    (hstep : Device.Step (s.devices d) e' device) : ∃ fs c', Run Canteen.System.Step c fs c' ∧
      fs.filterMap Canteen.System.storeEvent = (e'.ordId?.map StoreEvent.issue).toList ∧
      Projects { s.put d e' device with userWrites := s.userWrites } c' := by
  cases e' with
  | restart currentUser => exact ⟨[], c, .refl, rfl, h.onLaunch hstep⟩
  | menu i menuEvent => exact h.onMenu hgenuine hstep
  | _ => exact h.onOther hstep (by rintro _ ⟨⟩) (by rintro _ _ ⟨⟩)

/-- A device sends the `set` of a sign-in. -/
theorem setUser (h : Projects s c) (write : UserWrite) : ∃ fs c', Run Canteen.System.Step c fs c' ∧
    fs.filterMap Canteen.System.storeEvent = [] ∧
    Projects { s with userWrites := s.userWrites ++ [write] } c' := by
  obtain ⟨calls, hcalls, hnodup, hset⟩ := h.signIns
  obtain ⟨fs, users, signIns, call, hrun, hseen, hsame, hnew, hget⟩ :=
    Canteen.System.exists_set (c := c) write.phone
  have hne : ∀ call' ∈ calls, call'.1 ≠ call := by
    rintro call' hcall rfl
    exact hnew (OrderedMap.mem_of_get? (hset call' hcall))
  refine ⟨fs, _, hrun, hseen, h.store, hsame.trans h.users, h.replies, h.waiting, h.shows,
    calls ++ [(call, write)], ?_, ?_, ?_⟩
  · rw [List.map_append, hcalls]
    rfl
  · rw [List.map_append]
    refine List.nodup_append.mpr ⟨hnodup, List.nodup_singleton _, fun n hn n' hn' ↦ ?_⟩
    obtain ⟨call', hcall, rfl⟩ := List.mem_map.mp hn
    rw [List.mem_singleton.mp hn']
    exact hne call' hcall
  · intro call' hcall
    rcases List.mem_append.mp hcall with hcall | hcall
    · exact (hget call'.1).trans ((if_neg (hne call' hcall)).trans (hset call' hcall))
    · obtain rfl := List.mem_singleton.mp hcall
      exact (hget call).trans (if_pos rfl)

/-- The `set` of a sign-in lands. -/
theorem landUser {n : Nat} {write : UserWrite} (h : Projects s c)
    (hwrite : s.userWrites[n]? = some write) : ∃ call c',
      Canteen.System.Step c (.landSignIn call none) c' ∧
      Projects { s with
        users := s.users.commit (s.users.current.set write.phone newUser)
        userWrites := s.userWrites.eraseIdx n } c' := by
  obtain ⟨calls, hcalls, hnodup, hset⟩ := h.signIns
  rw [← hcalls, List.getElem?_map] at hwrite
  obtain ⟨⟨call, write'⟩, hcall, rfl⟩ := Option.map_eq_some_iff.mp hwrite
  obtain ⟨hn, heq⟩ := List.getElem?_eq_some_iff.mp hcall
  have hperm := List.getElem_cons_eraseIdx_perm hn
  have hnotMem : call ∉ (calls.eraseIdx n).map Prod.fst := by
    have hnodup' := (hperm.map Prod.fst).nodup_iff.mpr hnodup
    rw [List.map_cons, heq] at hnodup'
    exact (List.nodup_cons.mp hnodup').1
  have hget := hset _ (List.mem_of_getElem? hcall)
  refine ⟨call, { c with
    users := c.users.set write'.phone newUser
    signIns := c.signIns.set call ⟨.pushReplacementNamed, none⟩ }, ?_, h.store, ?_, h.replies,
    h.waiting, h.shows, calls.eraseIdx n, ?_, ?_, fun call' hcall' ↦ ?_⟩
  · simp only [Fires, Canteen.System.step, hget]
    rfl
  · rw [Register.current_commit]
    exact h.users.set
  · rw [← List.eraseIdx_map, hcalls]
  · exact hnodup.sublist ((List.eraseIdx_sublist calls n).map Prod.fst)
  · have hne : call'.1 ≠ call := fun hcall ↦ hnotMem (hcall ▸ List.mem_map_of_mem hcall')
    change (c.signIns.set call _).get? call'.1 = _
    rw [OrderedMap.get?_set_of_ne hne]
    exact hset call' (List.mem_of_mem_eraseIdx hcall')

end Projects

/-- What happens to the deployment can happen to the canteen. -/
theorem projects_step (h : Projects s c) (hR : Step s e t) : ∃ fs c',
    Run Canteen.System.Step c fs c' ∧
      fs.filterMap Canteen.System.storeEvent = e.store?.toList ∧ Projects t c' := by
  cases effect_step hR with
  | @device d e' device he hgenuine hstep =>
      subst he
      obtain ⟨fs, c₁, hfs, hseen, h₁⟩ := h.onDevice hgenuine hstep
      cases hset : (s.devices d).setUser e' with
      | none =>
          refine ⟨fs, c₁, hfs, hseen, ?_⟩
          have hput : s.put d e' device = { s.put d e' device with
              userWrites := s.userWrites } := by
            simp [put, hset]
          exact hput ▸ h₁
      | some set =>
          obtain ⟨fs', c₂, hfs', hseen', h₂⟩ := h₁.setUser ⟨d, s.launches d, set.1, set.2⟩
          refine ⟨fs ++ fs', c₂, hfs.trans hfs', ?_, ?_⟩
          · rw [List.filterMap_append, hseen, hseen', List.append_nil]
            rfl
          · have hput : s.put d e' device = { s.put d e' device with
                userWrites := s.userWrites ++ [⟨d, s.launches d, set.1, set.2⟩] } := by
              simp [put, hset]
            exact hput ▸ h₂
  | @store e' store hnot he hstep =>
      have hnew : ∀ id, e' ≠ .issue id := by
        rintro id rfl
        cases e with
        | device d e' => exact hnot d e' rfl
        | _ => cases he
      obtain ⟨e'', hc, hseen⟩ := Canteen.System.exists_store hnew (h.store.symm ▸ hstep)
      refine ⟨[e''], _, .single hc, by simp [he, hseen], rfl, h.users, h.replies, h.waiting,
        h.shows, h.signIns⟩
  | canteen he =>
      refine ⟨[], c, .refl, ?_, h.store, h.users, h.replies, h.waiting, h.shows, h.signIns⟩
      cases e with
      | device | list | check | landOrder => cases he
      | _ => rfl
  | @landUser n write he hwrite =>
      subst he
      obtain ⟨call, c', hc, hc'⟩ := h.landUser hwrite
      exact ⟨_, c', .single hc, rfl, hc'⟩
  | @otherUser user doc he =>
      subst he
      refine ⟨[.otherWrite user doc], _, .single rfl, rfl, h.store, fun user' ↦ ?_, h.replies,
        h.waiting, h.shows, h.signIns⟩
      rw [Register.current_commit]
      change (doc.elim (c.users.remove user) (c.users.set user)).get? user' = _
      rw [OrderedMap.get?_elim, OrderedMap.get?_elim, h.users user']

/-- A run of the deployment is one of the canteen, in which the same happens to the
order store. -/
theorem projects_run (h : Run Step (initial accounts users menu) es t) : ∃ fs c,
    Run Canteen.System.Step (Canteen.System.initial users screenUser) fs c ∧
      fs.filterMap Canteen.System.storeEvent = es.filterMap Event.store? ∧ Projects t c :=
  h.exists_simulation Projects Event.store? Canteen.System.storeEvent projects_step .initial

/-- Every order that a Menu screen has written is on its way or there. -/
theorem has_run (h : Run Step (initial accounts users menu) es t)
    (hmenu : (t.devices d).menu? i = some screen) (ho : (id, order) ∈ screen.orders) :
    t.store.Has id order := by
  obtain ⟨fs, c, hc, -, hproj⟩ := projects_run h
  rw [← hproj.store]
  exact Canteen.System.has_run hc ((hproj.shows.menu d i screen hmenu).symm ▸ ho)

/-- Once all writes have landed, the served orders are those that were checked on some
device. -/
theorem served_iff_checked (h : Run Step (initial accounts users menu) es t)
    (hw : t.store.writes = []) : t.store.Served id ↔ ∃ d i, .check d i id ∈ es := by
  obtain ⟨fs, c, hc, hseen, hproj⟩ := projects_run h
  rw [← hproj.store] at hw ⊢
  rw [Canteen.System.served_iff_checked hc hw]
  simp only [← Canteen.System.check_mem_filterMap, hseen, check_mem_filterMap]

end System

end Deployment

end CollegeCanteens
