import CollegeCanteens.App.Numbers
import CollegeCanteens.Deployment.Origins

/-!
# Where the orders come from

An order that has reached the collection was sent by a Pay call, on the device of
someone who was signed in there, with the cart and the subtotal that were on the
screen at one moment and that a Balance covered which a read had found
(`order_bought`).  Whether the device was online, whether the app was killed
afterwards and what has become of the order since makes no difference.  The user is
the account that the device had at the start, or one whose phone number has been
verified on it (`buyer_entered`).
-/

namespace CollegeCanteens.Deployment.System

open Transition App Canteen Menu SignIn

variable {accounts : Nat → Option String} {users : OrderedMap String Fields} {menu : MenuMap}
  {es : List Event} {t : System} {id : String} {order doc : OrderDoc}

/-- The read of a Pay call on the device `d` has completed with the id of the order,
in a state in which its Menu screen held what is ordered and a Balance could be read
that covers the price. -/
def Backed (accounts : Nat → Option String) (users : OrderedMap String Fields) (menu : MenuMap)
    (es : List Event) (id : String) (order : OrderDoc) : Prop :=
  ∃ d pre a i call r now, pre ++ [.device d (.menu i (.get call r id now))] <+: es ∧
    Run Step (initial accounts users menu) pre a ∧ ∃ screen, (a.devices d).menu? i = some screen ∧
    order = orderDoc screen.username screen.subtotal screen.cart now ∧
    ∃ data b, a.Finds d screen.username (some data) ∧ data.field "Balance" = .int b ∧
      screen.subtotal ≠ 0 ∧ screen.subtotal ≤ b

theorem Backed.extend {es' : List Event} (h : Backed accounts users menu es id order)
    (hes : es <+: es') : Backed accounts users menu es' id order := by
  obtain ⟨d, pre, a, i, call, r, now, hpre, hrest⟩ := h
  exact ⟨d, pre, a, i, call, r, now, hpre.trans hes, hrest⟩

/-- An order that is on its way has been backed. -/
theorem set_run (h : Run Step (initial accounts users menu) es t)
    (ht : .set id order ∈ t.store.writes) : Backed accounts users menu es id order := by
  induction h with
  | refl => cases ht
  | @snoc es a e b ha hR ih =>
      rcases sent_step hR ht with
        hset | ⟨d, i, call, r, now, screen, rfl, hgenuine, hscreen, hc, rfl⟩
      · exact (ih hset).extend (List.prefix_append es [e])
      · obtain ⟨data, balance, rfl, hbalance, h0, hle⟩ := hc
        have hfinds : a.Finds d screen.username (some data) :=
          hgenuine.answer (screen.username, some data) (by simp [Device.answered, hscreen])
        exact ⟨d, es, a, i, call, .ok (some data), now, List.prefix_rfl, ha, screen, hscreen, rfl,
          data, balance, hfinds, hbalance, h0, hle⟩

/-- An order that is there has been backed, and has changed since in whether it is
served at most. -/
theorem order_run (h : Run Step (initial accounts users menu) es t)
    (ht : t.store.orders.get? id = some doc) :
    ∃ order, Store.Follows order doc ∧ Backed accounts users menu es id order := by
  induction h generalizing doc with
  | refl => cases ht
  | @snoc es a e b ha hR ih =>
      have hprefix : es <+: es ++ [e] := List.prefix_append es [e]
      have hold : (∃ doc', a.store.orders.get? id = some doc' ∧ Store.Follows doc' doc) ∨
          .set id doc ∈ a.store.writes := by
        rcases store_step hR with ⟨e', -, hstep⟩ | ⟨-, heq⟩
        · exact Store.origin_step hstep ht
        · exact .inl ⟨doc, heq ▸ ht, .refl doc⟩
      rcases hold with ⟨doc', hdoc', hf⟩ | hset
      · obtain ⟨order, hf', hbacked⟩ := ih hdoc'
        exact ⟨order, hf'.trans hf, hbacked.extend hprefix⟩
      · exact ⟨doc, .refl doc, (set_run ha hset).extend hprefix⟩

/-- The order is one of a user who was signed in on some device, where at one
moment a Menu screen of theirs held its items and its price, which is not zero, and
a read found a Balance of theirs that covers it. -/
def Bought (accounts : Nat → Option String) (users : OrderedMap String Fields) (menu : MenuMap)
    (es : List Event) (doc : OrderDoc) : Prop :=
  ∃ d user p b, doc.user = some (.scalar (.string user)) ∧ doc.price = some p ∧ p ≠ 0 ∧ p ≤ b ∧
    Visited Step (initial accounts users menu) es (fun s ↦
      (∃ i screen, (s.devices d).menu? i = some screen ∧ screen.username = user ∧
        screen.cart = doc.items ∧ screen.subtotal = p) ∧
      ∃ data, s.Finds d user (some data) ∧ data.field "Balance" = .int b) ∧
    Visited Step (initial accounts users menu) es fun s ↦
      (s.devices d).currentUser = some user

/-- Every order has been bought by a user who was signed in. -/
theorem order_bought (h : Run Step (initial accounts users menu) es t)
    (ht : t.store.orders.get? id = some doc) : Bought accounts users menu es doc := by
  obtain ⟨order, hf, d, pre, a, i, call, r, now, hsent, ha, screen, hscreen, rfl, data, b, hfinds,
    hb, h0, hle⟩ := order_run h ht
  have hpre : pre <+: es := (List.prefix_append pre _).trans hsent
  have hitems : screen.cart = doc.items := by rw [hf.items_eq, OrderDoc.items_orderDoc]
  refine ⟨d, screen.username, screen.subtotal, b, ?_, ?_, h0, hle, ?_, ?_⟩
  · rw [hf.user_eq, OrderDoc.user_orderDoc]
  · rw [hf.price_eq, OrderDoc.price_orderDoc]
  · exact ⟨pre, a, hpre, ha, ⟨i, screen, hscreen, rfl, hitems, rfl⟩, data, hfinds, hb⟩
  · exact (menu_run ha hscreen).extend hpre

/-- The row that the lists show of what is in the cart of a Menu screen. -/
def rowOf (screen : Screen) : Row :=
  ⟨.scalar (.string screen.username), .scalar (.int screen.subtotal),
    screen.cart.entries.map fun e ↦ (e.1, e.2.quantity)⟩

/-- Both lists can show every order, and show what was on a Menu screen at one
moment. -/
theorem rows_run (h : Run Step (initial accounts users menu) es t)
    (ht : t.store.orders.get? id = some doc) :
    ∃ row, pendingRow doc = .ok row ∧ servedRow doc = .ok row ∧
      ∃ d, Visited Step (initial accounts users menu) es fun s ↦
        ∃ i screen, (s.devices d).menu? i = some screen ∧ rowOf screen = row := by
  obtain ⟨order, hf, d, pre, a, i, call, r, now, hsent, ha, screen, hscreen, rfl, -⟩ :=
    order_run h ht
  have hpre : pre <+: es := (List.prefix_append pre _).trans hsent
  obtain ⟨hpending, hserved⟩ := rows_orderDoc hf.1
  exact ⟨rowOf screen, hpending, hserved, d, pre, a, hpre, ha, i, screen, hscreen, rfl⟩

/-- The user was signed in on the device at the start, or has had the phone number
verified on it. -/
def Entered (accounts : Nat → Option String) (es : List Event) (d : Nat) (user : String) : Prop :=
  accounts d = some user ∨ ∃ i task, .device d (.verify i task user) ∈ es

/-- Who has been signed in on a device. -/
theorem entered_of_visited {user : String} {d : Nat}
    (h : Visited Step (initial accounts users menu) es fun s ↦
      (s.devices d).currentUser = some user) :
    Entered accounts es d user := by
  obtain ⟨pre, a, hpre, ha, hsigned⟩ := h
  rcases Device.currentUser_run (device_run ha d) hsigned with hlaunch | ⟨i, task, hmem⟩
  · exact .inl hlaunch
  · obtain ⟨e, he, hdevice⟩ := List.mem_filterMap.mp hmem
    refine .inr ⟨i, task, hpre.subset ?_⟩
    cases e with
    | device d' e' =>
        simp only [Event.device?] at hdevice
        split at hdevice
        · cases hdevice
          subst ‹d' = d›
          exact he
        · cases hdevice
    | list | check | deliver | toggle | landUser | landOrder | landMenu | otherUser | setPrice |
        addItem => cases hdevice

/-! ## The device of an order -/

/-- The event gives the id out. -/
def Gives (id : String) (e : App.Event) : Prop := e.ordId? = some id

theorem issued_of_gives {d : Nat} {e : App.Event} (h : Run Step (initial accounts users menu) es t)
    (he : .device d e ∈ es) (hid : Gives id e) : id ∈ t.store.issued := by
  refine Store.issued_run (store_run h) (List.mem_filterMap.mpr ⟨.device d e, he, ?_⟩)
  rw [Event.store?, hid, Option.map_some]

/-- An id is given out on one device. -/
theorem gives_unique {d d' : Nat} {e e' : App.Event}
    (h : Run Step (initial accounts users menu) es t) (he : .device d e ∈ es)
    (he' : .device d' e' ∈ es) (hid : Gives id e) (hid' : Gives id e') : d = d' := by
  induction h with
  | refl => cases he
  | @snoc es a e₀ b ha hR ih =>
      -- an event that comes last finds no id that an earlier one has given out
      have hlast {d d' : Nat} {e e' : App.Event} (hold : .device d e ∈ es)
          (hid : Gives id e) (hid' : Gives id e') : e₀ ≠ .device d' e' := by
        rintro rfl
        obtain ⟨e₁, he₁, hgenuine, -⟩ | ⟨hnone, -⟩ := device_step hR d'
        · obtain rfl : e' = e₁ := by simpa [Event.device?] using he₁
          exact hgenuine.ordId id hid' (issued_of_gives ha hold hid)
        · simp [Event.device?] at hnone
      rcases List.mem_append.mp he with hold | hnew
      · rcases List.mem_append.mp he' with hold' | hnew'
        · exact ih hold hold'
        · exact absurd (List.mem_singleton.mp hnew').symm (hlast hold hid hid')
      · rcases List.mem_append.mp he' with hold' | hnew'
        · exact absurd (List.mem_singleton.mp hnew).symm (hlast hold' hid' hid)
        · have heq := (List.mem_singleton.mp hnew).trans (List.mem_singleton.mp hnew').symm
          cases heq
          rfl

/-- The order was sent from the device: when the events `pre` had happened a Menu
screen of the user held its items and its price there, and the read of a Pay call of
this screen completed with the id of the order, which no other device was given. -/
def SentFrom (accounts : Nat → Option String) (users : OrderedMap String Fields) (menu : MenuMap)
    (es pre : List Event) (id : String) (doc : OrderDoc) (d : Nat) (user : String) : Prop :=
  (∃ a i call r now screen, pre ++ [.device d (.menu i (.get call r id now))] <+: es ∧
    Run Step (initial accounts users menu) pre a ∧ (a.devices d).menu? i = some screen ∧
    screen.username = user ∧ screen.cart = doc.items ∧ doc.price = some screen.subtotal) ∧
  ∀ d' e, .device d' e ∈ es → Gives id e → d' = d

/-- Nobody orders as somebody whose phone number was not entered, before, on the
device that the order comes from. -/
theorem buyer_entered (h : Run Step (initial accounts users menu) es t)
    (ht : t.store.orders.get? id = some doc) :
    ∃ d user pre, doc.user = some (.scalar (.string user)) ∧
      SentFrom accounts users menu es pre id doc d user ∧ Entered accounts pre d user := by
  obtain ⟨order, hf, d, pre, a, i, call, r, now, hpre, ha, screen, hscreen, rfl, -⟩ :=
    order_run h ht
  refine ⟨d, screen.username, pre, ?_,
    ⟨⟨a, i, call, r, now, screen, hpre, ha, hscreen, rfl, ?_, ?_⟩, fun d' e he hid ↦ ?_⟩,
    entered_of_visited (menu_run ha hscreen)⟩
  · rw [hf.user_eq, OrderDoc.user_orderDoc]
  · rw [hf.items_eq, OrderDoc.items_orderDoc]
  · rw [hf.price_eq, OrderDoc.price_orderDoc]
  · exact gives_unique h he (hpre.subset (List.mem_append_right _ List.mem_cons_self)) hid rfl

/-- Two devices, of a user and of an admin. -/
def twoAccounts (d : Nat) : Option String := if d = 0 then some "u" else some "a"

/-- The documents of the two. -/
def twoUsers : OrderedMap String Fields :=
  ((∅ : OrderedMap String Fields).set "u" (newUser.set "Balance" (.int 50))).set "a"
    (newUser.set "isAdmin" (.bool true))

/-- The menu at the start. -/
def tea : MenuMap := singleMenu "tea" 10 true

/-- The admin hides the tea, a milk is added, and the user, who has been shown
neither, orders a tea, which is then served. -/
def teaServed : List Event :=
  [.device 0 (.routeReply 0 (.ok (twoUsers.get? "u"))),
    .device 1 (.routeReply 0 (.ok (twoUsers.get? "a"))), .deliver 1 0 0,
    .toggle 1 0 .visibility "tea", .landMenu 1, .addItem "milk" ((∅ : Fields).set "Price" (.int 5)),
    .device 0 (.menu 0 (.snapshot (some tea))), .device 0 (.menu 0 (.add "tea")),
    .device 0 (.menu 0 .pay), .device 0 (.menu 0 (.get 0 (.ok (twoUsers.get? "u")) "order" 7)),
    .landOrder 0, .list 1 0, .check 1 0 "order", .landOrder 0]

/-- The state after `teaServed`. -/
def afterTeaServed : System :=
  (exec step (initial twoAccounts twoUsers tea) teaServed).get (by decide)

/-- The order of the tea. -/
def teaOrder : OrderDoc := checkUpdate (orderDoc "u" 10 ((∅ : Cart).set "tea" ⟨1, 10, 10⟩) 7)

theorem run_teaServed : Run Step (initial twoAccounts twoUsers tea) teaServed afterTeaServed :=
  run_exec_get (by decide)

theorem get?_teaServed : afterTeaServed.store.orders.get? "order" = some teaOrder := by decide

theorem order_bought_teaServed : Bought twoAccounts twoUsers tea teaServed teaOrder :=
  order_bought run_teaServed get?_teaServed

theorem rows_run_teaServed : ∃ row, pendingRow teaOrder = .ok row ∧ servedRow teaOrder = .ok row ∧
    ∃ d, Visited Step (initial twoAccounts twoUsers tea) teaServed fun s ↦
      ∃ i screen, (s.devices d).menu? i = some screen ∧ rowOf screen = row :=
  rows_run run_teaServed get?_teaServed

theorem buyer_entered_teaServed : ∃ d user pre, teaOrder.user = some (.scalar (.string user)) ∧
    SentFrom twoAccounts twoUsers tea teaServed pre "order" teaOrder d user ∧
      Entered twoAccounts pre d user :=
  buyer_entered run_teaServed get?_teaServed

end CollegeCanteens.Deployment.System
