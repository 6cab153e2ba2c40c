import CollegeCanteens.Firestore

/-!
# The cart and the add and remove buttons

The state of a Menu screen, the filter of `_MenuState.build` and the two
buttons of a row, as `lib/screens/UserHomePage/menu.dart` has them.  A handler
runs in `Handler`, whose exceptions keep the changes made before them, so that
the order in which a branch assigns and casts is part of the model.

`AddTap` and `RemoveTap` list the ways a tap can go, with one equation for each;
`addOnPressed_tap` and `removeOnPressed_tap` say that there are no others.
-/

namespace CollegeCanteens.Menu

/-- An entry of the cart: a map with the keys `quantity`, `price` and
`total_price`.  A unit takes a tap, of which there are never 2^63, so that `quantity`
is left unbounded; what is computed from prices is of 64 bits. -/
structure CartEntry where
  quantity : Int
  price : Int64
  totalPrice : Int64
deriving DecidableEq, Repr

/-- The cart, from the names of the items. -/
abbrev Cart := OrderedMap String CartEntry

/-- The field `Menu` of the canteen's document: from the names of the items to
their maps. -/
abbrev MenuMap := OrderedMap String Fields

/-- The fields of `_MenuState`. -/
structure MenuState where
  cart : Cart
  subtotal : Int64

/-- The state of a fresh screen. -/
def MenuState.initial : MenuState := { cart := ∅, subtotal := 0 }

/-! ## The menu shown -/

/-- `menu[key]['Price']`. -/
def price (menu : MenuMap) (key : String) : Scalar :=
  ((menu.get? key).map fun item ↦ item.field "Price").getD .null

theorem price_of_get? {menu : MenuMap} {key : String} {item : Fields}
    (h : menu.get? key = some item) : price menu key = item.field "Price" := by
  simp [price, h]

/-- One round of the loop of `_MenuState.build` that keeps the available items.
It throws if the item's `isAvailable` is not a bool. -/
def keepAvailable (submenu : MenuMap) (item : String × Fields) : Except DartError MenuMap := do
  if ← (item.2.field "isAvailable").asBool then
    return submenu.set item.1 item.2
  else
    return submenu

/-- The filtered menu of a snapshot. -/
def availableItems (menu : MenuMap) : Except DartError MenuMap := menu.entries.foldlM keepAvailable ∅

/-- The condition on which an item is kept. -/
def isAvailable (item : Fields) : Bool := item.field "isAvailable" = .bool true

theorem keepAvailable_eq {submenu submenu' : MenuMap} {item : String × Fields}
    (h : keepAvailable submenu item = .ok submenu') :
    submenu' = if isAvailable item.2 then submenu.set item.1 item.2 else submenu := by
  obtain ⟨b, hb, h⟩ := bind_eq_ok.mp h
  rw [Scalar.asBool_eq_ok_iff] at hb
  cases b with
  | true => exact (Except.ok.inj h).symm.trans (if_pos (by simp [isAvailable, hb])).symm
  | false => exact (Except.ok.inj h).symm.trans (if_neg (by simp [isAvailable, hb])).symm

theorem foldlM_keepAvailable {items : List (String × Fields)} {acc submenu : MenuMap}
    (h : items.foldlM keepAvailable acc = .ok submenu) :
    submenu = (items.filter fun item ↦ isAvailable item.2).foldl
      (fun submenu item ↦ submenu.set item.1 item.2) acc := by
  induction items generalizing acc with
  | nil => exact (Except.ok.inj h).symm
  | cons item items ih =>
      rw [List.foldlM_cons] at h
      obtain ⟨acc', hround, hrest⟩ := bind_eq_ok.mp h
      obtain rfl := keepAvailable_eq hround
      rw [ih hrest, List.filter_cons]
      by_cases hav : isAvailable item.2 <;> simp [hav]

/-- The filtered menu holds the available items of the snapshot, in its order. -/
theorem availableItems_eq {menu submenu : MenuMap} (h : availableItems menu = .ok submenu) :
    submenu = menu.filter fun item ↦ isAvailable item.2 := by
  rw [foldlM_keepAvailable h]
  exact OrderedMap.ext_entries (OrderedMap.entries_foldl_set (menu.filter _).nodup)

/-! ## The buttons -/

/-- The add button of the row of `key`. -/
def addOnPressed (menu : MenuMap) (key : String) : Handler MenuState Unit := do
  match (← get).cart.get? key with
  | none =>
    let unitPrice ← (price menu key).asInt
    let totalPrice ← (price menu key).asInt
    modify fun s ↦ { s with cart := s.cart.set key ⟨1, unitPrice, totalPrice⟩ }
  | some entry =>
    let unitPrice ← (price menu key).asInt
    let totalPrice ← (price menu key).mulAsInt (.ofInt (entry.quantity + 1))
    modify fun s ↦ { s with cart := s.cart.set key ⟨entry.quantity + 1, unitPrice, totalPrice⟩ }
  let unitPrice ← (price menu key).asInt
  modify fun s ↦ { s with subtotal := s.subtotal + unitPrice }

/-- The remove button of the row of `key`. -/
def removeOnPressed (menu : MenuMap) (key : String) : Handler MenuState Unit := do
  match (← get).cart.get? key with
  | none => return
  | some entry =>
    if entry.quantity = 0 then
      return
    if entry.quantity = 1 then
      -- here alone the cart is assigned before the price is cast
      modify fun s ↦ { s with cart := s.cart.remove key }
      let unitPrice ← (price menu key).asInt
      modify fun s ↦ { s with subtotal := s.subtotal - unitPrice }
      return
    let unitPrice ← (price menu key).asInt
    let totalPrice ← (price menu key).mulAsInt (.ofInt (entry.quantity + 1))
    modify fun s ↦ { s with cart := s.cart.set key ⟨entry.quantity - 1, unitPrice, totalPrice⟩ }
    let unitPrice ← (price menu key).asInt
    modify fun s ↦ { s with subtotal := s.subtotal - unitPrice }

/-! ## What a tap does

Each button has one equation for every way a tap can go. -/

/-- The entry an add tap assigns at price `p`. -/
def CartEntry.added (p : Int64) : Option CartEntry → CartEntry
  | none => ⟨1, p, p⟩
  | some entry => ⟨entry.quantity + 1, p, .ofInt (entry.quantity + 1) * p⟩

section

variable {menu : MenuMap} {key : String} {s : MenuState} {entry : CartEntry} {p : Int64}

/-- An add tap at an int price adds a unit and the price. -/
theorem addOnPressed_exec_int (hp : price menu key = .int p) :
    (addOnPressed menu key).exec s = (.ok (),
      { cart := s.cart.set key (.added p (s.cart.get? key)), subtotal := s.subtotal + p }) := by
  cases hk : s.cart.get? key with
  | none => simp [addOnPressed, hk, hp, Scalar.asInt, CartEntry.added]
  | some entry => simp [addOnPressed, hk, hp, Scalar.asInt, Scalar.mulAsInt, CartEntry.added]

/-- An add tap at any other price throws before it assigns. -/
theorem addOnPressed_exec_of_not_int (hp : ∀ p, price menu key ≠ .int p) :
    (addOnPressed menu key).exec s = (.error .typeError, s) := by
  cases hk : s.cart.get? key <;> simp [addOnPressed, hk, Scalar.asInt_of_not_int hp]

/-- A remove tap on an item that is not in the cart does nothing. -/
theorem removeOnPressed_exec_none (hk : s.cart.get? key = none) :
    (removeOnPressed menu key).exec s = (.ok (), s) := by
  simp [removeOnPressed, hk]

theorem removeOnPressed_exec_zero (hk : s.cart.get? key = some entry) (h0 : entry.quantity = 0) :
    (removeOnPressed menu key).exec s = (.ok (), s) := by
  simp [removeOnPressed, hk, h0]

/-- A remove tap on the last unit removes the entry and then takes off the
price. -/
theorem removeOnPressed_exec_last (hp : price menu key = .int p)
    (hk : s.cart.get? key = some entry) (h1 : entry.quantity = 1) :
    (removeOnPressed menu key).exec s =
      (.ok (), { cart := s.cart.remove key, subtotal := s.subtotal - p }) := by
  simp [removeOnPressed, hk, hp, h1, Scalar.asInt]

/-- If the price is not an int, the last unit is gone before the cast throws. -/
theorem removeOnPressed_exec_last_of_not_int (hp : ∀ p, price menu key ≠ .int p)
    (hk : s.cart.get? key = some entry) (h1 : entry.quantity = 1) :
    (removeOnPressed menu key).exec s =
      (.error .typeError, { s with cart := s.cart.remove key }) := by
  simp [removeOnPressed, hk, h1, Scalar.asInt_of_not_int hp]

/-- A remove tap on one of several units rebuilds the entry at the price shown. -/
theorem removeOnPressed_exec_many (hp : price menu key = .int p)
    (hk : s.cart.get? key = some entry) (h0 : entry.quantity ≠ 0) (h1 : entry.quantity ≠ 1) :
    (removeOnPressed menu key).exec s = (.ok (),
      { cart := s.cart.set key ⟨entry.quantity - 1, p, .ofInt (entry.quantity + 1) * p⟩,
        subtotal := s.subtotal - p }) := by
  simp [removeOnPressed, hk, hp, h0, h1, Scalar.asInt, Scalar.mulAsInt]

theorem removeOnPressed_exec_many_of_not_int (hp : ∀ p, price menu key ≠ .int p)
    (hk : s.cart.get? key = some entry) (h0 : entry.quantity ≠ 0) (h1 : entry.quantity ≠ 1) :
    (removeOnPressed menu key).exec s = (.error .typeError, s) := by
  simp [removeOnPressed, hk, h0, h1, Scalar.asInt_of_not_int hp]

/-- The ways an add tap can go: its outcome, and the state it leaves. -/
inductive AddTap (menu : MenuMap) (key : String) (s : MenuState) :
    Except DartError Unit → MenuState → Prop
  | int {p : Int64} : price menu key = .int p → AddTap menu key s (.ok ())
      { cart := s.cart.set key (.added p (s.cart.get? key)), subtotal := s.subtotal + p }
  | uncast : (∀ p, price menu key ≠ .int p) → AddTap menu key s (.error .typeError) s

/-- The ways a remove tap can go. -/
inductive RemoveTap (menu : MenuMap) (key : String) (s : MenuState) :
    Except DartError Unit → MenuState → Prop
  | none : s.cart.get? key = none → RemoveTap menu key s (.ok ()) s
  | zero {entry : CartEntry} : s.cart.get? key = some entry → entry.quantity = 0 →
      RemoveTap menu key s (.ok ()) s
  | last {entry : CartEntry} {p : Int64} : s.cart.get? key = some entry → entry.quantity = 1 →
      price menu key = .int p →
      RemoveTap menu key s (.ok ()) { cart := s.cart.remove key, subtotal := s.subtotal - p }
  | lastUncast {entry : CartEntry} : s.cart.get? key = some entry → entry.quantity = 1 →
      (∀ p, price menu key ≠ .int p) →
      RemoveTap menu key s (.error .typeError) { s with cart := s.cart.remove key }
  | many {entry : CartEntry} {p : Int64} : s.cart.get? key = some entry → entry.quantity ≠ 0 →
      entry.quantity ≠ 1 → price menu key = .int p → RemoveTap menu key s (.ok ())
      { cart := s.cart.set key ⟨entry.quantity - 1, p, .ofInt (entry.quantity + 1) * p⟩,
        subtotal := s.subtotal - p }
  | manyUncast {entry : CartEntry} : s.cart.get? key = some entry → entry.quantity ≠ 0 →
      entry.quantity ≠ 1 → (∀ p, price menu key ≠ .int p) →
      RemoveTap menu key s (.error .typeError) s

theorem addOnPressed_tap (menu : MenuMap) (key : String) (s : MenuState) :
    ∃ r s', (addOnPressed menu key).exec s = (r, s') ∧ AddTap menu key s r s' := by
  by_cases hp : ∃ p, price menu key = .int p
  · obtain ⟨p, hp⟩ := hp
    exact ⟨_, _, addOnPressed_exec_int hp, .int hp⟩
  · rw [not_exists] at hp
    exact ⟨_, _, addOnPressed_exec_of_not_int hp, .uncast hp⟩

theorem removeOnPressed_tap (menu : MenuMap) (key : String) (s : MenuState) :
    ∃ r s', (removeOnPressed menu key).exec s = (r, s') ∧ RemoveTap menu key s r s' := by
  cases hk : s.cart.get? key with
  | none => exact ⟨_, _, removeOnPressed_exec_none hk, .none hk⟩
  | some entry =>
      by_cases h0 : entry.quantity = 0
      · exact ⟨_, _, removeOnPressed_exec_zero hk h0, .zero hk h0⟩
      by_cases hp : ∃ p, price menu key = .int p
      · obtain ⟨p, hp⟩ := hp
        by_cases h1 : entry.quantity = 1
        · exact ⟨_, _, removeOnPressed_exec_last hp hk h1, .last hk h1 hp⟩
        · exact ⟨_, _, removeOnPressed_exec_many hp hk h0 h1, .many hk h0 h1 hp⟩
      · rw [not_exists] at hp
        by_cases h1 : entry.quantity = 1
        · exact ⟨_, _, removeOnPressed_exec_last_of_not_int hp hk h1, .lastUncast hk h1 hp⟩
        · exact ⟨_, _, removeOnPressed_exec_many_of_not_int hp hk h0 h1, .manyUncast hk h0 h1 hp⟩

/-- A remove tap puts nothing into the cart. -/
theorem RemoveTap.mem_of_mem {r : Except DartError Unit} {s' : MenuState} {k : String}
    (htap : RemoveTap menu key s r s') (h : k ∈ s'.cart) : k ∈ s.cart := by
  cases htap with
  | none | zero | manyUncast => exact h
  | last | lastUncast => exact (OrderedMap.mem_remove.mp h).2
  | many hk =>
      rcases OrderedMap.mem_set.mp h with rfl | hm
      · exact OrderedMap.mem_of_get? hk
      · exact hm

end

end CollegeCanteens.Menu
