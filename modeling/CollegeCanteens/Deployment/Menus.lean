import CollegeCanteens.ChangeMenu.Items
import CollegeCanteens.Deployment.Orders
import CollegeCanteens.Menu.Availability
import CollegeCanteens.Menu.Refinement

/-!
# The Menu of the server and the carts on the devices

A Menu screen is shown what the server has had, however old, or what its own device
is sending, so that a property of all these Menus passes to every screen
(`menus_run`), and from the screen to the orders that were sent from it.

With one price for each item, every bill is right: the price of an order is what
its items cost (`billed_run`).  And whatever the prices, an order has no item that
was not available in some Menu (`available_run`).
-/

namespace CollegeCanteens

open Transition Menu Basket FixedWidth

namespace Menu

/-- What the basket costs is the sum over the entries of the cart. -/
theorem Refines.cost_eq_sum {table : String → Int64} {s : MenuState} {m : Multiset String}
    (h : Refines table s m) :
    cost table m = s.cart.sum fun key entry ↦ entry.quantity * (table key).toInt := by
  have hkeys : m.toFinset = s.cart.keys.toFinset := by
    ext k
    rw [Multiset.mem_toFinset, List.mem_toFinset, OrderedMap.mem_keys, h.mem_iff,
      Multiset.one_le_count_iff_mem]
  calc cost table m = ∑ k ∈ s.cart.keys.toFinset, m.count k * (table k).toInt := by
        rw [cost, charge, hkeys]
    _ = (s.cart.keys.map fun k ↦ m.count k * (table k).toInt).sum :=
        List.sum_toFinset _ s.cart.nodup
    _ = (s.cart.entries.map fun e ↦ e.2.quantity * (table e.1).toInt).sum := by
        rw [OrderedMap.keys, List.map_map]
        refine congrArg List.sum (List.map_congr_left fun e he ↦ ?_)
        rw [(h.entry e.1 e.2 (OrderedMap.get?_eq_some_iff.mpr he)).1]
        rfl

end Menu

namespace Deployment

open App Canteen ChangeMenu

/-- What another writer does to the Menu. -/
def Event.edit? : Event → Option ChangeMenu.Event
  | .setPrice key price => some (.setPrice key price)
  | .addItem key item => some (.addItem key item)
  | _ => none

namespace System

variable {accounts : Nat → Option String} {users : OrderedMap String Fields} {menu : MenuMap}
  {es : List Event} {s t : System} {e : Event} {d i : Nat} {screen : Screen} {id : String}
  {doc : OrderDoc} {q : String → Fields → Prop} {table : String → Int64}

/-! ## From the server to the screens -/

/-- What other writers do to the Menu is an edit of it. -/
theorem keeps_of_canteen? {e' : ChangeMenu.Event} (he : ∀ edit ∈ e.edit?, edit.Keeps q)
    (h : s.canteen? e = some e') : e'.Keeps q := by
  cases e with
  | setPrice | addItem => cases h; exact he _ rfl
  | deliver | toggle | landMenu => cases h; trivial
  | device | list | check | landUser | landOrder | otherUser => cases h

/-- A property of items that does not depend on their availability holds of every
item, if it does at first and of what other writers do. -/
theorem kept_run (ht : Toggles q) (h : Run Step (initial accounts users menu) es t)
    (hmenu : menu.All q) (hes : ∀ e ∈ es, ∀ edit ∈ e.edit?, edit.Keeps q) : t.canteen.Kept q := by
  induction h with
  | refl => exact ChangeMenu.System.kept_initial hmenu
  | @snoc es a e b _ hR ih =>
      have ha := ih fun e' he' ↦ hes e' (List.mem_append_left _ he')
      rcases canteen_step hR with ⟨e', he', hstep⟩ | ⟨-, heq⟩
      · exact ChangeMenu.System.kept_step ht ha (keeps_of_canteen? (hes e (by simp)) he') hstep
      · exact heq ▸ ha

/-- The Menu is one that the server has had, or one on its way there. -/
def Known (s : System) (menu : MenuMap) : Prop :=
  menu ∈ s.canteen.history ∨ ∃ write ∈ s.canteen.pending, write.menu = menu

theorem Known.of_offers (h : s.Offers d menu) : s.Known menu :=
  h.imp_right fun ⟨write, hw, _, heq⟩ ↦ ⟨write, hw, heq⟩

theorem known_step (h : Step s e t) (hs : s.Known menu) : t.Known menu := by
  rcases canteen_step h with ⟨e', -, hstep⟩ | ⟨-, heq⟩
  · rcases hs with hm | ⟨write, hw, rfl⟩
    · exact .inl (ChangeMenu.System.history_mono hstep hm)
    · rcases ChangeMenu.System.pending_mono hstep hw with hw | hm
      · exact .inr ⟨write, hw, rfl⟩
      · exact .inl hm
  · rwa [Known, heq]

/-- What a Menu screen has at first, and keeps if it is shown Menus with `Q`, every
Menu screen has if every Menu that is known has `Q`. -/
theorem menus_run {P : Screen → Prop} {Q : MenuMap → Prop}
    (hinit : ∀ username, P (.initial username))
    (hstep : ∀ {a e b}, P a → (∀ menu, e = .snapshot (some menu) → Q menu) →
      Screen.Step a e b → P b)
    (h : Run Step (initial accounts users menu) es t) (hQ : ∀ menu, t.Known menu → Q menu)
    (ht : (t.devices d).menu? i = some screen) : P screen := by
  induction h generalizing i screen with
  | refl => cases i <;> cases ht
  | @snoc es a e b ha hR ih =>
      have hold {menu₀ : Screen} (hmenu : (a.devices d).menu? i = some menu₀) : P menu₀ :=
        ih (fun menu hm ↦ hQ menu (known_step hR hm)) hmenu
      rcases device_step hR d with ⟨e', -, hgenuine, hdevice⟩ | ⟨-, heq⟩
      · rcases Device.menu_from (waiting_run ha) hdevice ht with hsame | ⟨username, rfl⟩ |
            ⟨menu₀, menuEvent, hmenu, hevent, he⟩
        · exact hold hsame
        · exact hinit username
        · refine hstep (hold hmenu) (fun menu hmenu ↦ ?_) hevent
          subst hmenu
          rcases he with he | rfl
          · cases he
          · exact hQ menu (known_step hR (.of_offers (hgenuine.snapshot menu rfl)))
      · exact hold (heq ▸ ht)

/-- Behind an order that is there is a Menu screen that held its items at its
price. -/
theorem items_run (h : Run Step (initial accounts users menu) es t)
    (ht : t.store.orders.get? id = some doc) : ∃ pre a d i screen,
      pre <+: es ∧ Run Step (initial accounts users menu) pre a ∧
      (a.devices d).menu? i = some screen ∧ doc.items = screen.cart ∧
      doc.price = some screen.subtotal := by
  obtain ⟨order, hf, d, pre, a, i, call, r, now, hsent, ha, screen, hscreen, rfl, -⟩ :=
    order_run h ht
  have hpre : pre <+: es := (List.prefix_append pre _).trans hsent
  refine ⟨pre, a, d, i, screen, hpre, ha, hscreen, ?_, ?_⟩
  · rw [hf.items_eq, OrderDoc.items_orderDoc]
  · rw [hf.price_eq, OrderDoc.price_orderDoc]

/-! ## Bills -/

/-- Another writer uses the prices of the table. -/
def PricedBy (table : String → Int64) (e : Event) : Prop :=
  ∀ edit ∈ e.edit?, match edit with
    | .setPrice key price => price = .int (table key)
    | .addItem key item => item.field "Price" = .int (table key)
    | _ => True

theorem keeps_of_pricedBy (he : PricedBy table e) : ∀ edit ∈ e.edit?,
    edit.Keeps fun key item ↦ item.field "Price" = .int (table key) := by
  intro edit hedit
  have h := he edit hedit
  cases edit with
  | setPrice key price =>
      obtain rfl := h
      intro item hitem
      simp [Fields.field]
  | addItem key item => exact h
  | deliver | tap | land => trivial

theorem toggles_price : Toggles fun key item ↦ item.field "Price" = .int (table key) := by
  intro key item b h
  simpa [Fields.field, OrderedMap.get?_set] using h

/-- If each item has one price, in the first Menu and in what other writers do,
then every order is charged with what its items cost, as a sum of 64-bit ints,
whichever Menus the screens were shown and whatever has been hidden, shown and
lost. -/
theorem billed_run (h : Run Step (initial accounts users menu) es t)
    (hmenu : menu.All fun key item ↦ item.field "Price" = .int (table key))
    (hes : ∀ e ∈ es, PricedBy table e) (ht : t.store.orders.get? id = some doc) :
    let total := doc.items.sum fun key entry ↦ entry.quantity * (table key).toInt
    doc.price = some (.ofInt total) ∧ (Fits total → ∀ p ∈ doc.price, p.toInt = total) ∧
      doc.items.All fun key entry ↦ 1 ≤ entry.quantity ∧ entry.price = table key := by
  obtain ⟨pre, a, d, i, screen, hpre, ha, hscreen, hitems, hprice⟩ := items_run h ht
  have hkept := kept_run toggles_price ha hmenu fun e he ↦
    keeps_of_pricedBy (hes e (hpre.subset he))
  have hscreens : screen.RowsPriced table ∧ ∃ m, Refines table screen.toMenuState m := by
    refine menus_run (P := fun screen ↦ screen.RowsPriced table ∧
      ∃ m, Refines table screen.toMenuState m) (fun username ↦ ⟨OrderedMap.all_empty, 0, .initial⟩)
      ?_ ha (Q := fun menu ↦ menu.All fun key item ↦ item.field "Price" = .int (table key)) ?_
      hscreen
    · rintro b e c ⟨hrows, m, hm⟩ hsnapshot hstep
      have hpriced : e.PricedBy table := by
        cases e with
        | snapshot data =>
            cases data with
            | none => trivial
            | some menu => exact hsnapshot menu rfl
        | add | remove | pay | get | dismiss => trivial
      exact ⟨Screen.rowsPriced_step hrows hpriced hstep, _, Screen.refines_step hrows hm hstep⟩
    · rintro menu (hm | ⟨write, hw, rfl⟩)
      · exact hkept.history menu hm
      · exact hkept.pending write hw
  obtain ⟨-, m, hm⟩ := hscreens
  have hbill : doc.price = some (.ofInt (doc.items.sum fun key entry ↦
      entry.quantity * (table key).toInt)) := by
    rw [hprice, hm.subtotal, bill, hm.cost_eq_sum, hitems]
  refine ⟨hbill, fun hfits p hp ↦ ?_, fun k entry hentry ↦ ?_⟩
  · rw [hbill] at hp
    obtain rfl := Option.some.inj hp
    exact toInt_ofInt_iff.mpr hfits
  rw [hitems] at hentry
  obtain ⟨hquantity, hprice⟩ := hm.entry k entry hentry
  have hcount := (hm.mem_iff k).mp (OrderedMap.mem_of_get? hentry)
  exact ⟨by omega, hprice⟩

/-- The price of a tea, and of everything else. -/
def teaTable (key : String) : Int64 := if key = "tea" then 10 else 5

theorem pricedBy_teaServed : ∀ e ∈ teaServed, PricedBy teaTable e := by
  simp [teaServed, PricedBy, Event.edit?, Fields.field, teaTable]

theorem billed_run_teaServed :
    let total := teaOrder.items.sum fun key entry ↦ entry.quantity * (teaTable key).toInt
    teaOrder.price = some (.ofInt total) ∧ (Fits total → ∀ p ∈ teaOrder.price, p.toInt = total) ∧
      teaOrder.items.All fun key entry ↦ 1 ≤ entry.quantity ∧ entry.price = teaTable key :=
  billed_run run_teaServed (by decide) pricedBy_teaServed get?_teaServed

/-! ## Availability -/

/-- The item is available in some Menu that is known. -/
def Offered (s : System) (key : String) : Prop :=
  ∃ menu, s.Known menu ∧ ∃ item, menu.get? key = some item ∧ isAvailable item

/-- A Menu screen shows and holds what is offered. -/
theorem offered_run (h : Run Step (initial accounts users menu) es t)
    (ht : (t.devices d).menu? i = some screen) :
    screen.rows.All (fun key _ ↦ t.Offered key) ∧ ∀ key ∈ screen.cart, t.Offered key := by
  refine menus_run (P := fun screen ↦ screen.rows.All (fun key _ ↦ t.Offered key) ∧
    ∀ key ∈ screen.cart, t.Offered key) (Q := t.Known)
    (fun username ↦ ⟨OrderedMap.all_empty, fun _ hkey ↦ absurd hkey OrderedMap.notMem_empty⟩)
    ?_ h (fun _ ↦ id) ht
  rintro a e b ⟨hrows, hcart⟩ hsnapshot hstep
  constructor
  · rcases Screen.rows_step hstep with heq | ⟨data, rfl, heq⟩ <;> rw [heq]
    · exact hrows
    · intro key item hitem
      obtain ⟨menu, rfl, hmenu, havailable⟩ := Screen.get?_shownMenu hitem
      exact ⟨menu, hsnapshot menu rfl, item, hmenu, havailable⟩
  · intro key hkey
    by_cases hold : key ∈ a.cart
    · exact hcart key hold
    · obtain ⟨-, hrow, -⟩ := Screen.add_of_enters hstep hold hkey
      obtain ⟨item, hitem⟩ := OrderedMap.mem_iff.mp hrow
      exact hrows key item hitem

/-- Whatever has been shown to whom, each item of an order was offered when the cart
that was ordered was on a screen. -/
theorem available_run (h : Run Step (initial accounts users menu) es t)
    (ht : t.store.orders.get? id = some doc) :
    Visited Step (initial accounts users menu) es fun s ↦
      (∃ d i screen, (s.devices d).menu? i = some screen ∧ screen.cart = doc.items) ∧
        ∀ key ∈ doc.items, s.Offered key := by
  obtain ⟨pre, a, d, i, screen, hpre, ha, hscreen, hitems, -⟩ := items_run h ht
  refine ⟨pre, a, hpre, ha, ⟨d, i, screen, hscreen, hitems.symm⟩, ?_⟩
  rw [hitems]
  exact (offered_run ha hscreen).2

theorem available_run_teaServed :
    Visited Step (initial twoAccounts twoUsers tea) teaServed fun s ↦
      (∃ d i screen, (s.devices d).menu? i = some screen ∧ screen.cart = teaOrder.items) ∧
        ∀ key ∈ teaOrder.items, s.Offered key :=
  available_run run_teaServed get?_teaServed

end System

end Deployment

end CollegeCanteens
