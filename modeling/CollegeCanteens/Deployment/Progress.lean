import CollegeCanteens.Deployment.Menus
import CollegeCanteens.Library.Leads
import CollegeCanteens.Menu.Conservation
import Mathlib.Data.Fintype.EquivFin

/-!
# What can always be done

Whatever has happened, a device whose account has a proper document can be brought
to its home page by launching the app again.  An admin can then serve every order
that has been sent (`can_serve`), and a user can order whatever is available and
paid for by the wallet (`can_order`): there is no state from which the deployment
cannot go on.  Nobody else is needed for it: all that happens happens on the device
(`Event.Own`), but that what has been sent lands.
-/

namespace CollegeCanteens

open Transition Menu Basket SignIn

namespace Menu

variable {table : String → Int64} {menu : MenuMap} {s : MenuState} {m : Multiset String}
  {key : String}

/-- Only what is in a menu has a price. -/
theorem mem_of_price {p : Int64} (h : price menu key = .int p) : key ∈ menu := by
  by_contra hnot
  rw [price, OrderedMap.notMem_iff.mp hnot] at h
  cases h

/-- The quantities of the cart are the counts of the basket. -/
theorem Refines.quantity_eq (h : Refines table s m) : quantity s.cart key = m.count key := by
  cases hk : s.cart.get? key with
  | none =>
      have hcount : ¬ 1 ≤ m.count key := fun hm ↦
        OrderedMap.notMem_iff.mpr hk ((h.mem_iff key).mpr hm)
      simp only [quantity, hk]
      simp
      omega
  | some entry => rw [quantity_of_get? hk, (h.entry key entry hk).1]

end Menu

namespace App.Device

variable {s t : Device} {i : Nat} {menu menu' : Screen} {e : Menu.Event} {phone : String}
  {doc : Fields} {b : Bool}

/-- The home page of an account. -/
def homeOf (phone : String) (isAdmin : Bool) : Home :=
  if isAdmin then .admin else .user (.initial phone)

/-- A new InitializerWidget leads to the home page of the account that is signed in, if
its document is read and is proper. -/
theorem opens (hmounted : s.Mounted i) (huser : s.currentUser = some phone)
    (hpage : s.initializer? i = some (.initState (some phone)))
    (hdoc : doc.field "isAdmin" = .bool b) :
    ∃ t, Step s (.routeReply i (.ok (some doc))) t ∧ t.stack = s.stack ∧
      t.currentUser = s.currentUser ∧ t.home? i = some (homeOf phone b) := by
  refine ⟨s.modify i (.mapInitializer fun p ↦
    if s.Mounted i then p.resume phone s.currentUser (.ok (some doc))
    else { p with route := .failed }), ?_, rfl, rfl, ?_⟩
  · simp only [Fires, step, initializer?_eq_some_iff.mp hpage]
    rfl
  · rw [home?, initializer?_modify, if_pos rfl, hpage, Option.map_some, Option.bind_some,
      if_pos hmounted, huser, InitializerState.resume_ok hdoc rfl]
    rfl

/-- What can happen on a Menu screen can happen on the device, if its page is on top. -/
theorem step_of_menu (hstack : s.stack = [.page i]) (hmenu : s.menu? i = some menu)
    (hnot : ¬ IsDismiss e) (h : Screen.Step menu e menu') :
    ∃ t, Step s (.menu i e) t ∧ t.menu? i = some menu' ∧
      (menu'.dialogs = menu.dialogs → t.stack = s.stack) := by
  have hhome : s.home? i = some (.user menu) := menu?_eq_some_iff.mp hmenu
  obtain ⟨p, hp, hpage⟩ := Option.bind_eq_some_iff.mp hhome
  have hguard : ¬ (IsDismiss e ∨ e.IsTap ∧ s.stack.head? ≠ some (.page i)) := by
    rintro (hdismiss | ⟨-, hne⟩)
    · exact hnot hdismiss
    · exact hne (by rw [hstack]; rfl)
  have hmodify : (s.modify i (.mapInitializer (.mapMenu fun _ ↦ menu'))).menu? i = some menu' := by
    rw [menu?_eq_some_iff, home?, initializer?_modify, if_pos rfl, hp]
    simp [InitializerState.mapMenu, hpage]
  have hstep : menu.step e = some menu' := h
  simp only [Fires, step, if_neg hguard, initializer?_eq_some_iff.mp hp, hpage, hstep,
    Option.map_some]
  split
  · next hopen =>
      refine ⟨_, rfl, hmodify, fun hsame ↦ ?_⟩
      rw [hsame] at hopen
      exact absurd hopen.2 (Nat.lt_irrefl _)
  · exact ⟨_, rfl, hmodify, fun _ ↦ rfl⟩

end App.Device

namespace Canteen.Store

variable {s t : Store} {es : List StoreEvent} {id : String} {order : OrderDoc}

/-- An order that has been sent is not lost. -/
theorem has_run (hs : s.Tracked) (h : Run Step s es t) (hd : s.Has id order) : t.Has id order := by
  refine (h.invariant (P := fun t ↦ t.Tracked ∧ t.Has id order) ⟨hs, hd⟩ ?_).2
  rintro a e b ⟨ha, hd⟩ hR
  exact ⟨tracked_step ha hR, has_step ha hR hd⟩

/-- An order that has been checked stays so. -/
theorem marked_mono (hs : s.Tracked) (h : Run Step s es t) (hm : s.Marked id) : t.Marked id := by
  refine (h.invariant (P := fun t ↦ t.Tracked ∧ t.Marked id) ⟨hs, hm⟩ ?_).2
  rintro a e b ⟨ha, hm⟩ hR
  exact ⟨tracked_step ha hR, (marked_step ha hR).mpr (.inl hm)⟩

theorem Has.arrived (h : s.Has id order) (hw : s.writes.length = 0) :
    ∃ doc, s.orders.get? id = some doc ∧ Follows order doc := by
  refine h.resolve_left fun hset ↦ ?_
  rw [List.length_eq_zero_iff.mp hw] at hset
  cases hset

/-- An order that is not there yet can land, and is not served then. -/
theorem Has.lands (hs : s.Tracked) (h : s.Has id order) :
    id ∈ s.orders ∨ ∃ n t, s.land n = some t ∧ id ∈ t.orders ∧ ¬ t.Served id := by
  rcases h with hset | ⟨doc, hget, -⟩
  · obtain ⟨n, hn⟩ := List.mem_iff_getElem?.mp hset
    have hfalse := (hs.set id order hset).2.2.2
    refine .inr ⟨n, { s with orders := s.orders.set id order, writes := s.writes.eraseIdx n }, ?_,
      OrderedMap.mem_set.mpr (.inl rfl), fun hnow ↦ ?_⟩
    · rw [land, hn]
      rfl
    · obtain ⟨doc, hdoc, htrue, -⟩ := served_iff.mp hnow
      obtain rfl : order = doc := Option.some.inj (OrderedMap.get?_set_self.symm.trans hdoc)
      rw [hfalse] at htrue
      cases htrue
  · exact .inl (OrderedMap.mem_of_get? hget)

theorem Marked.served (h : s.Marked id) (hw : s.writes.length = 0) : s.Served id := by
  refine h.resolve_right fun hupdate ↦ ?_
  rw [List.length_eq_zero_iff.mp hw] at hupdate
  cases hupdate

end Canteen.Store

namespace Deployment

/-- The event happens on the device, or something that has been sent lands. -/
def Event.Own (d : Nat) : Event → Prop
  | .device d' _ | .list d' _ | .check d' _ _ | .deliver d' _ _ | .toggle d' _ _ _ => d' = d
  | .landUser _ | .landOrder _ | .landMenu _ => True
  | .otherUser _ _ | .setPrice _ _ | .addItem _ _ => False

namespace System

open App Canteen ChangeMenu

variable {accounts : Nat → Option String} {users : OrderedMap String Fields} {menu : MenuMap}
  {es : List Event} {s t : System} {d : Nat} {id phone key : String} {doc : Fields} {b : Bool}
  {order : OrderDoc} {device : Device} {e : App.Event}

/-- What happens while nobody but the device does anything. -/
abbrev Alone (d : Nat) : System → Event → System → Prop := Guarded (fun _ e ↦ e.Own d) Step

/-- Nothing but the devices has changed, and the writes to `Users`. -/
structure Unmoved (s t : System) : Prop where
  users : t.users = s.users
  store : t.store = s.store
  canteen : t.canteen = s.canteen

theorem Unmoved.trans {u : System} (h : Unmoved s t) (h' : Unmoved t u) : Unmoved s u :=
  ⟨h'.users.trans h.users, h'.store.trans h.store, h'.canteen.trans h.canteen⟩

@[simp] theorem devices_put : (s.put d e device).devices d = device := Function.update_self ..

theorem unmoved_put (hordId : e.ordId? = none) : Unmoved s (s.put d e device) := by
  refine ⟨rfl, ?_, rfl⟩
  simp only [put, sendOrders, hordId]

/-- An event brings to the device what it can find, gives no id out and acknowledges no
write. -/
theorem genuine_of (hanswer : ∀ answer ∈ (s.devices d).answered e, s.Finds d answer.1 answer.2)
    (hsnapshot : ∀ menu ∈ e.snapshot?, s.Offers d menu) (hordId : e.ordId? = none)
    (hwritten : e.written? = none) : s.Genuine d e := by
  constructor
  · exact hanswer
  · exact hsnapshot
  · rw [hordId]
    rintro id ⟨⟩
  · rw [hwritten]
    rintro call ⟨⟩

/-- A read finds what is stored now. -/
theorem genuine_read
    (hanswer : (s.devices d).answered e = some (phone, s.users.current.get? phone))
    (hsnapshot : e.snapshot? = none) (hordId : e.ordId? = none) (hwritten : e.written? = none) :
    s.Genuine d e := by
  refine genuine_of ?_ ?_ hordId hwritten
  · rw [hanswer]
    rintro answer ⟨⟩
    exact .inl ⟨s.users.current, s.users.current_mem, rfl⟩
  · rw [hsnapshot]
    rintro menu ⟨⟩

theorem step_put (hgenuine : s.Genuine d e) (h : Device.Step (s.devices d) e device) :
    Alone d s (.device d e) (s.put d e device) := by
  refine ⟨rfl, ?_⟩
  simp only [Fires, step, if_pos hgenuine]
  rw [h, Option.map_some]

/-- The app is launched anew on a device, with the account that is signed in. -/
theorem relaunched (s : System) (d : Nat) :
    ∃ t, Alone d s (.device d (.restart (s.devices d).currentUser)) t ∧
      t.devices d = Device.launch (s.devices d).currentUser ∧
        t.launches d = s.launches d + 1 ∧ t.userWrites = s.userWrites ∧ Unmoved s t := by
  have hgenuine : s.Genuine d (.restart (s.devices d).currentUser) := by
    constructor <;> rintro _ ⟨⟩
  have hdevice : Device.Step (s.devices d) (.restart (s.devices d).currentUser)
      (Device.launch (s.devices d).currentUser) := if_pos (.inl rfl)
  refine ⟨_, step_put hgenuine hdevice, devices_put, ?_, List.append_nil _, unmoved_put rfl⟩
  exact Function.update_self ..

/-! ## The home page -/

/-- On the device, the home page is all there is. -/
def AtHome (s : System) (d : Nat) (home : Home) : Prop :=
  (s.devices d).stack = [.page 0] ∧ (s.devices d).home? 0 = some home

/-- The app can be launched again, and shows the home page of the account. -/
theorem leads_home (huser : (s.devices d).currentUser = some phone)
    (hdoc : s.users.current.get? phone = some doc) (hadmin : doc.field "isAdmin" = .bool b) :
    Leads (Alone d) s fun t ↦ AtHome t d (Device.homeOf phone b) ∧ Unmoved s t := by
  obtain ⟨a, hlaunch, hdevice, -, -, ha⟩ := relaunched s d
  rw [huser] at hdevice
  obtain ⟨device, hroute, hstack, -, hhome⟩ :=
    Device.opens (s := Device.launch (some phone)) (i := 0) List.mem_cons_self rfl rfl hadmin
  rw [← hdevice] at hroute
  have hanswer : (a.devices d).answered (.routeReply 0 (.ok (some doc))) =
      some (phone, a.users.current.get? phone) := by
    rw [hdevice, ha.users, hdoc]
    rfl
  have hread := step_put (genuine_read hanswer rfl rfl rfl) hroute
  refine .step hlaunch (.single hread ⟨⟨?_, ?_⟩, ha.trans (unmoved_put rfl)⟩)
  · rw [devices_put, hstack]
    rfl
  · rw [devices_put, hhome]

/-! ## The orders -/

/-- All writes to `Orders` can land. -/
theorem leads_landed (s : System) (d : Nat) : Leads (Alone d) s fun t ↦
    t = { s with store := t.store } ∧ t.store.writes.length = 0 := by
  refine Leads.descend (fun t : System ↦ t.store.writes.length) rfl fun {a} ha hne ↦ ?_
  obtain ⟨write, hwrite⟩ : ∃ write, a.store.writes[0]? = some write :=
    ⟨_, List.getElem?_eq_getElem (Nat.pos_of_ne_zero hne)⟩
  have hland : Alone d a (.landOrder 0) { a with store := { a.store with
      orders := write.land a.store.orders, writes := a.store.writes.eraseIdx 0 } } := by
    refine ⟨trivial, ?_⟩
    simp only [Fires, step, Store.land, hwrite, Option.map_some]
  refine ⟨_, _, hland, ?_, ?_⟩
  · rw [ha]
  · rw [List.length_eraseIdx_of_lt (Nat.pos_of_ne_zero hne)]
    omega

/-- An order that has been sent can land, if it has not yet. -/
theorem leads_arrived (hs : s.store.Tracked) (hid : s.store.Has id order)
    (hserved : ¬ s.store.Served id) : Leads (Alone d) s fun t ↦
      t = { s with store := t.store } ∧ id ∈ t.store.orders ∧ ¬ t.store.Served id := by
  rcases hid.lands hs with hmem | ⟨n, store, hland, hmem, hnot⟩
  · exact .here ⟨rfl, hmem, hserved⟩
  · have hstep : Alone d s (.landOrder n) { s with store := store } := by
      refine ⟨trivial, ?_⟩
      simp only [Fires, step, hland, Option.map_some]
    exact .single hstep ⟨rfl, hmem, hnot⟩

theorem tracked_run (h : Run Step (initial accounts users menu) es s) : s.store.Tracked :=
  Store.tracked_run (store_run h)

/-- An admin who is at home can check an order that is there, as long as it is not
served. -/
theorem leads_checks (hs : s.store.Tracked) (hhome : AtHome s d .admin)
    (hid : id ∈ s.store.orders) (hserved : ¬ s.store.Served id) :
    Leads (Alone d) s fun a ↦ ∃ t, Alone d a (.check d 0 id) t ∧ t.store.Marked id := by
  have hmounted : (s.devices d).Mounted 0 := by
    rw [Device.Mounted, hhome.1]
    exact List.mem_cons_self
  have hshows : (s.devices d).ShowsAdmin 0 := ⟨hmounted, .admin, hhome.2, trivial⟩
  have hlist : Alone d s (.list d 0) { s with store := s.store.list } := ⟨rfl, if_pos hshows⟩
  have hlisted : id ∈ s.store.list.listed :=
    List.mem_append_right _ ((Store.pending_iff hs).mpr ⟨hid, hserved⟩)
  have hcheck : s.store.list.check id = some
      { s.store.list with writes := s.store.writes ++ [.update id] } := if_pos hlisted
  have htap : Alone d { s with store := s.store.list } (.check d 0 id)
      { s with store := { s.store.list with writes := s.store.writes ++ [.update id] } } := by
    refine ⟨rfl, ?_⟩
    have htaps : TapsAdmin { s with store := s.store.list } d 0 := ⟨by rw [hhome.1]; rfl, hshows⟩
    simp only [Fires, step, if_pos htaps, hcheck, Option.map_some]
  exact .single hlist ⟨_, htap, .inr (List.mem_append_right _ List.mem_cons_self)⟩

/-- Every order that has been sent is served, or can be served by every admin who is
signed in: on the device of the admin alone some events lead to it, among them a
check tap on the order. -/
theorem can_serve (h : Run Step (initial accounts users menu) es s) (hid : s.store.Has id order)
    (huser : (s.devices d).currentUser = some phone)
    (hdoc : s.users.current.get? phone = some doc) (hadmin : doc.field "isAdmin" = .bool true) :
    s.store.Served id ∨
      ∃ fs t i, Run (Alone d) s fs t ∧ .check d i id ∈ fs ∧ t.store.Served id := by
  refine or_iff_not_imp_left.mpr fun hserved ↦ ?_
  have hchecks : Leads (Alone d) s fun a ↦ ∃ t, Alone d a (.check d 0 id) t ∧
      t.store.Marked id := by
    refine (leads_arrived (tracked_run h) hid hserved).bind ?_
    rintro fs a ha ⟨hsame, hmem, hnot⟩
    have hhome : Leads (Alone d) a fun t ↦ AtHome t d (Device.homeOf phone true) ∧
        Unmoved a t := by
      have huser' : (a.devices d).currentUser = some phone := by rwa [hsame]
      have hdoc' : a.users.current.get? phone = some doc := by rwa [hsame]
      exact leads_home huser' hdoc' hadmin
    refine hhome.bind ?_
    rintro gs c hc ⟨hat, hunmoved⟩
    refine leads_checks (tracked_run ((h.trans ha.of_guarded).trans hc.of_guarded)) hat ?_ ?_
    · rwa [hunmoved.store]
    · rwa [hunmoved.store]
  obtain ⟨fs, a, ha, c, hcheck, hmarked⟩ := hchecks
  have hc : Run (Alone d) s (fs ++ [.check d 0 id]) c := ha.snoc hcheck
  obtain ⟨gs, t, ht, -, hnone⟩ := leads_landed c d
  refine ⟨_, t, 0, hc.trans ht, by simp, ?_⟩
  have htracked : c.store.Tracked := tracked_run (h.trans hc.of_guarded)
  exact (Store.marked_mono htracked (store_run ht.of_guarded) hmarked).served hnone

/-- `teaServed` until the order has arrived. -/
def teaOrdered : List Event := teaServed.take 11

/-- The state after `teaOrdered`. -/
def afterTeaOrdered : System :=
  (exec step (initial twoAccounts twoUsers tea) teaOrdered).get (by decide)

theorem run_teaOrdered : Run Step (initial twoAccounts twoUsers tea) teaOrdered afterTeaOrdered :=
  run_exec_get (by decide)

theorem has_teaOrdered :
    afterTeaOrdered.store.Has "order" (orderDoc "u" 10 ((∅ : Cart).set "tea" ⟨1, 10, 10⟩) 7) :=
  .inr ⟨_, by decide, .refl _⟩

theorem can_serve_teaOrdered : afterTeaOrdered.store.Served "order" ∨ ∃ fs t i,
    Run (Alone 1) afterTeaOrdered fs t ∧ .check 1 i "order" ∈ fs ∧ t.store.Served "order" :=
  have huser : (afterTeaOrdered.devices 1).currentUser = some "a" := by decide
  have hdoc : afterTeaOrdered.users.current.get? "a" =
      some (newUser.set "isAdmin" (.bool true)) := by decide
  can_serve run_teaOrdered has_teaOrdered huser hdoc (by decide)

/-! ## The Menu screens -/

/-- On the device a Menu screen of the user is on top, with the items `shown` on it
and the basket `m` in its cart. -/
def Shops (s : System) (d : Nat) (phone : String) (shown : MenuMap) (table : String → Int64)
    (m : Multiset String) : Prop :=
  (s.devices d).stack = [.page 0] ∧ ∃ screen, (s.devices d).menu? 0 = some screen ∧
    screen.username = phone ∧ screen.menu = some shown ∧ screen.dialogs = [] ∧
    Refines table screen.toMenuState m

variable {shown : MenuMap} {table : String → Int64} {m : Multiset String} {screen screen' : Screen}
  {e' : Menu.Event}

/-- What can happen on the Menu screen can happen, if it brings nothing but a Menu
and opens no dialog. -/
theorem step_of_menu (hstack : (s.devices d).stack = [.page 0])
    (hmenu : (s.devices d).menu? 0 = some screen) (hscreen : Screen.Step screen e' screen')
    (hdialogs : screen'.dialogs = screen.dialogs)
    (he : (∃ data, e' = .snapshot data ∧ ∀ menu ∈ data, s.Offers d menu) ∨ e'.IsTap) :
    ∃ t, Alone d s (.device d (.menu 0 e')) t ∧ (t.devices d).stack = [.page 0] ∧
      (t.devices d).menu? 0 = some screen' ∧ Unmoved s t := by
  obtain ⟨hnot, hanswer, hoffers, hordId⟩ : ¬ IsDismiss e' ∧
      (s.devices d).answered (.menu 0 e') = none ∧
        (∀ menu ∈ App.Event.snapshot? (.menu 0 e'), s.Offers d menu) ∧
          App.Event.ordId? (.menu 0 e') = none := by
    rcases he with ⟨data, rfl, hoffers⟩ | htap
    · exact ⟨not_false, rfl, hoffers, rfl⟩
    · cases e' with
      | add | remove | pay =>
          refine ⟨not_false, rfl, ?_, rfl⟩
          rintro menu ⟨⟩
      | snapshot | get | dismiss => cases htap
  obtain ⟨device, hstep, hmenu', hsame⟩ := Device.step_of_menu hstack hmenu hnot hscreen
  have hgenuine : s.Genuine d (.menu 0 e') := by
    refine genuine_of ?_ hoffers hordId rfl
    rw [hanswer]
    rintro answer ⟨⟩
  refine ⟨_, step_put hgenuine hstep, ?_, ?_, unmoved_put hordId⟩
  · rw [devices_put, hsame hdialogs, hstack]
  · rw [devices_put, hmenu']

/-- The Menu of the server is one that it has had. -/
theorem server_mem (h : Run Step (initial accounts users menu) es s) :
    s.canteen.server ∈ s.canteen.history := by
  refine h.invariant (P := fun s ↦ s.canteen.server ∈ s.canteen.history) List.mem_cons_self ?_
  intro a e b ha hR
  rcases canteen_step hR with ⟨e', -, hstep⟩ | ⟨-, heq⟩
  · rcases ChangeMenu.System.server_step hstep with
      ⟨hserver, hhistory⟩ | ⟨menu', hserver, hhistory, -⟩
    · rwa [hserver, hhistory]
    · rw [hserver, hhistory]
      exact List.mem_append_right _ List.mem_cons_self
  · rwa [heq]

/-- A user who is at home can be shown the available items of the server. -/
theorem leads_shown (table : String → Int64) (hhome : AtHome s d (.user (.initial phone)))
    (hserver : s.canteen.server ∈ s.canteen.history)
    (hshown : availableItems s.canteen.server = .ok shown) :
    Leads (Alone d) s fun t ↦ Shops t d phone shown table 0 ∧ Unmoved s t := by
  have hoffers : s.Offers d s.canteen.server := .inl hserver
  have hreceives : ∀ menu ∈ some s.canteen.server, s.Offers d menu :=
    fun menu hmenu ↦ Option.mem_some.mp hmenu ▸ hoffers
  have hstep : Screen.Step (.initial phone) (.snapshot (some s.canteen.server)) _ := rfl
  obtain ⟨t, ht, hstack, hmenu, hunmoved⟩ := step_of_menu hhome.1
    (Device.menu?_eq_some_iff.mpr hhome.2) hstep rfl (.inl ⟨_, rfl, hreceives⟩)
  refine .single ht ⟨⟨hstack, _, hmenu, rfl, ?_, rfl, .initial⟩, hunmoved⟩
  change Screen.shownMenu (some s.canteen.server) = some shown
  simp [Screen.shownMenu, hshown, Except.toOption]

/-- Every basket of items that are shown at an int price can be put into the cart. -/
theorem leads_filled (hs : Shops s d phone shown table 0)
    (hm : ∀ key ∈ m, price shown key = .int (table key)) :
    Leads (Alone d) s fun t ↦ Shops t d phone shown table m ∧ Unmoved s t := by
  induction m using Multiset.induction_on with
  | empty => exact .here ⟨hs, rfl, rfl, rfl⟩
  | cons key m ih =>
      have hfilled := ih fun key' hkey' ↦ hm key' (Multiset.mem_cons_of_mem hkey')
      refine hfilled.bind ?_
      rintro fs a - ⟨⟨hstack, screen, hmenu, huser, hshown, hdialogs, hrefines⟩, hunmoved⟩
      have hprice : price shown key = .int (table key) := hm key (Multiset.mem_cons_self key m)
      have hrows : screen.rows = shown := by rw [Screen.rows, hshown]; rfl
      have hadd : Screen.Step screen (.add key) (screen.tap (addOnPressed screen.rows key)) :=
        if_pos (hrows ▸ mem_of_price hprice)
      obtain ⟨t, ht, hstack', hmenu', hunmoved'⟩ :=
        step_of_menu hstack hmenu hadd rfl (.inr trivial)
      refine .single ht
        ⟨⟨hstack', _, hmenu', huser, hshown, hdialogs, ?_⟩, hunmoved.trans hunmoved'⟩
      change Refines table ((addOnPressed screen.rows key).exec screen.toMenuState).2 _
      rw [hrows, addOnPressed_exec_int hprice]
      exact hrefines.add rfl

/-- A basket can be paid for if the Balance of the user covers it. -/
theorem leads_paid (hs : Shops s d phone shown table m)
    (hdoc : s.users.current.get? phone = some doc) {balance : Int64}
    (hbalance : doc.field "Balance" = .int balance) (h0 : bill table m ≠ 0)
    (hle : bill table m ≤ balance) (hid : id ∉ s.store.issued) :
    Leads (Alone d) s fun t ↦ ∃ cart now,
      t.store.Has id (orderDoc phone (bill table m) cart now) ∧
        ∀ key, quantity cart key = m.count key := by
  obtain ⟨hstack, screen, hmenu, rfl, hshown, hdialogs, hrefines⟩ := hs
  let paying : Screen := { screen with
    calls := screen.calls + 1, reading := screen.reading ++ [screen.calls]
    reads := screen.reads ++ [screen.username] }
  have hpay : Screen.Step screen .pay paying := if_pos (by rw [hshown]; rfl)
  obtain ⟨a, ha, hstack', hmenu', hunmoved⟩ := step_of_menu hstack hmenu hpay rfl (.inr trivial)
  let read : Menu.Event := .get screen.calls (.ok (some doc)) id 0
  have hcovered : paying.Covered (.ok (some doc)) := by
    refine ⟨doc, balance, rfl, hbalance, ?_, ?_⟩
    · exact hrefines.subtotal ▸ h0
    · exact hrefines.subtotal ▸ hle
  have hread : Screen.Step paying read (paying.resumePay screen.calls (.ok (some doc)) id 0) :=
    Screen.get_of_mem (List.mem_append_right _ List.mem_cons_self)
  obtain ⟨device, hdevice, -⟩ := Device.step_of_menu hstack' hmenu' (e := read) not_false hread
  have hgenuine : a.Genuine d (.menu 0 read) := by
    constructor
    · intro answer hanswer
      simp only [Device.answered, read, hmenu', Option.map_some, Option.mem_some] at hanswer
      subst hanswer
      exact .inl ⟨a.users.current, a.users.current_mem, hunmoved.users ▸ hdoc⟩
    · rintro menu ⟨⟩
    · rintro id' ⟨⟩
      rw [hunmoved.store]
      exact hid
    · rintro call ⟨⟩
  have hstep : Alone d a (.device d (.menu 0 read)) (a.put d (.menu 0 read) device) :=
    step_put hgenuine hdevice
  have hnew : (a.devices d).newOrders (.menu 0 read) =
      [(id, orderDoc screen.username screen.subtotal screen.cart 0)] := by
    simp only [Device.newOrders, read, hmenu', Screen.resumePay_of_covered hcovered]
    simp [paying]
  refine .step ha (.single hstep ⟨screen.cart, 0, .inl ?_, fun key ↦ hrefines.quantity_eq⟩)
  change _ ∈ a.store.writes ++ ((a.devices d).newOrders (.menu 0 read)).map _
  rw [hnew, ← hrefines.subtotal]
  exact List.mem_append_right _ List.mem_cons_self

/-- Whatever is available at an int price, and together costs no more than the
wallet holds, can be ordered by every user who is signed in, on the device of the
user alone. -/
theorem can_order (h : Run Step (initial accounts users menu) es s)
    (huser : (s.devices d).currentUser = some phone)
    (hdoc : s.users.current.get? phone = some doc) (hadmin : doc.field "isAdmin" = .bool false)
    {balance : Int64} (hbalance : doc.field "Balance" = .int balance)
    (hshown : availableItems s.canteen.server = .ok shown)
    (hm : ∀ key ∈ m, price shown key = .int (table key))
    (h0 : bill table m ≠ 0) (hle : bill table m ≤ balance) :
    Leads (Alone d) s fun t ↦ ∃ id order, id ∉ s.store.issued ∧
      t.store.orders.get? id = some order ∧ order.user = some (.scalar (.string phone)) ∧
      order.price = some (bill table m) ∧ ∀ key, quantity order.items key = m.count key := by
  obtain ⟨id, hid⟩ := Infinite.exists_notMem_finset s.store.issued.toFinset
  rw [List.mem_toFinset] at hid
  refine (leads_home huser hdoc hadmin).bind ?_
  rintro es₁ a ha ⟨hhome, hsa⟩
  have hserver : a.canteen.server ∈ a.canteen.history := server_mem (h.trans ha.of_guarded)
  rw [← hsa.canteen] at hshown
  refine (leads_shown table hhome hserver hshown).bind ?_
  rintro es₂ b hb ⟨hempty, hab⟩
  refine (leads_filled hempty hm).bind ?_
  rintro es₃ c hc ⟨hfull, hbc⟩
  have hsc : Unmoved s c := (hsa.trans hab).trans hbc
  refine (leads_paid hfull (hsc.users ▸ hdoc) hbalance h0 hle (hsc.store ▸ hid)).bind ?_
  rintro es₄ e he ⟨cart, now, hhas, hcart⟩
  refine (leads_landed e d).bind ?_
  rintro es₅ t ht ⟨-, hnone⟩
  have htracked : e.store.Tracked :=
    tracked_run (h.trans (((ha.trans hb).trans hc).trans he).of_guarded)
  obtain ⟨order, hget, hf⟩ :=
    (Store.has_run htracked (store_run ht.of_guarded) hhas).arrived hnone
  refine .here ⟨id, order, hid, hget, ?_, ?_, ?_⟩
  · rw [hf.user_eq, OrderDoc.user_orderDoc]
  · rw [hf.price_eq, OrderDoc.price_orderDoc]
  · rw [hf.items_eq, OrderDoc.items_orderDoc]
    exact hcart

/-- Two teas, of which the wallet of the user covers five. -/
theorem can_order_twoTeas : Leads (Alone 0) (initial twoAccounts twoUsers tea) fun t ↦
    ∃ id order, id ∉ (initial twoAccounts twoUsers tea).store.issued ∧
      t.store.orders.get? id = some order ∧ order.user = some (.scalar (.string "u")) ∧
      order.price = some (bill teaTable ("tea" ::ₘ "tea" ::ₘ 0)) ∧
      ∀ key, quantity order.items key = ("tea" ::ₘ "tea" ::ₘ 0 : Multiset String).count key :=
  have hbill : bill teaTable ("tea" ::ₘ "tea" ::ₘ 0) = 20 := by
    rw [bill_cons, bill_cons, bill_zero]
    rfl
  can_order .refl rfl rfl rfl rfl rfl (by decide) (by rw [hbill]; decide)
    (by rw [hbill]; decide)

end System

end Deployment

end CollegeCanteens
