import CollegeCanteens.Library.FixedWidth
import CollegeCanteens.Menu.Screen
import Mathlib.Algebra.Order.BigOperators.Group.List
import Mathlib.Tactic.Linarith

/-!
# The subtotal and the price of the cart

`_MenuState.subtotal` is kept by the taps, each of which adds or takes off the
price it sees, while an entry of the cart has one price for all its units, that
of the last tap on it.  The two agree for as long as every tap on an item in the
cart sees the price its entry has and every price added still fits beside the
subtotal (`Screen.PriceKept`), and a tap that does otherwise separates them at
once (`Screen.priceKept_iff_priced`).

The menus are those in which every item has a price (`Event.PricesNonneg`); the
prices may change at every snapshot.
-/

namespace CollegeCanteens.Menu

open Transition FixedWidth

/-- The price of a cart: quantity times price, over its entries. -/
def worth (cart : Cart) : Int := cart.sum fun _ entry ↦ entry.quantity * entry.price.toInt

/-- An entry has a unit at least, and its price is not negative. -/
def CartEntry.Charged (entry : CartEntry) : Prop := 1 ≤ entry.quantity ∧ 0 ≤ entry.price

namespace Screen

/-- The subtotal is the price of the cart, and so is, of its items, the price of
every order written. -/
def Priced (s : Screen) : Prop :=
  s.subtotal.toInt = worth s.cart ∧
    ∀ order ∈ s.orders, ∃ p, order.2.price = some p ∧ p.toInt = worth order.2.items

/-- A tap on an item in the cart sees the price its entry has, and an add tap a
price that fits beside the subtotal. -/
def PriceKept (s : Screen) : Event → Prop
  | .add key => (∀ entry ∈ s.cart.get? key, price s.rows key = .int entry.price) ∧
      ∀ p ∈ intValue (price s.rows key), Fits (s.subtotal.toInt + p.toInt)
  | .remove key => ∀ entry ∈ s.cart.get? key, price s.rows key = .int entry.price
  | _ => True

instance (s : Screen) (e : Event) : Decidable (PriceKept s e) :=
  match e with
  | .add key =>
    inferInstanceAs (Decidable ((∀ entry ∈ s.cart.get? key, price s.rows key = .int entry.price) ∧
      ∀ p ∈ intValue (price s.rows key), Fits (s.subtotal.toInt + p.toInt)))
  | .remove key =>
    inferInstanceAs (Decidable (∀ entry ∈ s.cart.get? key, price s.rows key = .int entry.price))
  | .snapshot _ | .pay | .get _ _ _ _ | .dismiss => .isTrue trivial

/-- Every item shown has a price, and every entry of the cart a unit and a price. -/
structure Charged (s : Screen) : Prop where
  rows : s.rows.All fun _ item ↦ isPrice (item.field "Price")
  cart : s.cart.All fun _ entry ↦ entry.Charged

end Screen

/-! ## What a tap does to the price of the cart -/

section

variable {cart : Cart} {key : String} {entry : CartEntry} {p total : Int64}

theorem worth_set_of_none (hk : cart.get? key = none) :
    worth (cart.set key entry) = worth cart + entry.quantity * entry.price.toInt :=
  OrderedMap.sum_set_of_none hk

theorem worth_set_of_some {old : CartEntry} (hk : cart.get? key = some old) :
    worth (cart.set key entry) + old.quantity * old.price.toInt =
      worth cart + entry.quantity * entry.price.toInt :=
  OrderedMap.sum_set_of_some hk

theorem worth_remove (hk : cart.get? key = some entry) :
    worth (cart.remove key) + entry.quantity * entry.price.toInt = worth cart :=
  OrderedMap.sum_remove_of_some hk

/-- A unit added at `p` adds `p` to the price of the cart, and what the other
units change by. -/
theorem worth_set_add (hk : cart.get? key = some entry) :
    worth (cart.set key ⟨entry.quantity + 1, p, total⟩) =
      worth cart + p.toInt + entry.quantity * (p.toInt - entry.price.toInt) := by
  have h : worth (cart.set key ⟨entry.quantity + 1, p, total⟩) +
      entry.quantity * entry.price.toInt = worth cart + (entry.quantity + 1) * p.toInt :=
    worth_set_of_some hk
  linarith

/-- So does a unit taken out. -/
theorem worth_set_sub (hk : cart.get? key = some entry) :
    worth (cart.set key ⟨entry.quantity - 1, p, total⟩) =
      worth cart - p.toInt + entry.quantity * (p.toInt - entry.price.toInt) := by
  have h : worth (cart.set key ⟨entry.quantity - 1, p, total⟩) +
      entry.quantity * entry.price.toInt = worth cart + (entry.quantity - 1) * p.toInt :=
    worth_set_of_some hk
  linarith

/-- A cart of charged entries has a price. -/
theorem worth_nonneg (h : cart.All fun _ entry ↦ entry.Charged) : 0 ≤ worth cart := by
  refine List.sum_nonneg ?_
  simp only [List.mem_map]
  rintro _ ⟨⟨key, entry⟩, he, rfl⟩
  obtain ⟨hq, hp⟩ := h key entry (OrderedMap.get?_eq_some_iff.mpr he)
  exact Int.mul_nonneg (zero_le_one.trans hq) (nonneg_iff.mp hp)

/-- The units of one item cost no more than the cart. -/
theorem le_worth (h : cart.All fun _ entry ↦ entry.Charged) (hk : cart.get? key = some entry) :
    entry.quantity * entry.price.toInt ≤ worth cart := by
  have hrest : 0 ≤ worth (cart.remove key) := worth_nonneg h.remove
  have hsum := worth_remove hk
  omega

end

/-! ## What a tap does to both -/

section

variable {s : MenuState} {key : String} {entry : CartEntry} {p : Int64}

/-- The part of `Screen.Priced` that is about the cart and the subtotal. -/
def MenuState.Priced (s : MenuState) : Prop := s.subtotal.toInt = worth s.cart

/-- A subtotal that prices a cart of charged entries is not negative. -/
theorem MenuState.Priced.nonneg (hs : s.Priced) (hcart : s.cart.All fun _ entry ↦ entry.Charged) :
    0 ≤ s.subtotal := by
  rw [nonneg_iff, hs]
  exact worth_nonneg hcart

/-- Where the subtotal prices the cart, it goes on to do so after an add tap
exactly if the price is that of the entry, if there is one, and fits beside the
subtotal. -/
theorem priced_add_iff (hs : s.Priced) (hcart : s.cart.All fun _ entry ↦ entry.Charged)
    (hp : 0 ≤ p) :
    MenuState.Priced ⟨s.cart.set key (.added p (s.cart.get? key)), s.subtotal + p⟩ ↔
      (∀ entry ∈ s.cart.get? key, p = entry.price) ∧ Fits (s.subtotal.toInt + p.toInt) := by
  have hsum := toInt_add (hs.nonneg hcart) hp
  rw [MenuState.Priced] at hs ⊢
  rw [hsum]
  cases hk : s.cart.get? key with
  | none =>
      simp only [CartEntry.added]
      rw [worth_set_of_none hk, hs]
      split <;> simp [*]
  | some entry =>
      have hle := le_worth hcart hk
      obtain ⟨hq, hentry⟩ := hcart key entry hk
      obtain ⟨-, hlt⟩ := fits_toInt s.subtotal
      rw [nonneg_iff] at hp hentry
      simp only [CartEntry.added, Option.mem_some_iff, forall_eq']
      rw [worth_set_add hk, ← hs]
      have hprice : p = entry.price ↔ entry.quantity * (p.toInt - entry.price.toInt) = 0 := by
        rw [mul_eq_zero, or_iff_right (by omega), sub_eq_zero, Int64.toInt_inj]
      rw [hprice]
      split
      · next hfits => rw [sub_zero, eq_comm, add_eq_left, and_iff_left hfits]
      · next hnot =>
          refine iff_of_false (fun h ↦ ?_) fun h ↦ hnot h.2
          -- the units in the cart would have to have cost more than any int
          have hwide : entry.quantity * entry.price.toInt =
              entry.quantity * p.toInt + 18446744073709551616 := by linarith
          have hpos : 0 ≤ entry.quantity * p.toInt := Int.mul_nonneg (by omega) hp
          omega

/-- After the last unit of an item is taken out, it does so exactly if the price is
that of the entry. -/
theorem priced_remove_last_iff (hs : s.Priced) (hcart : s.cart.All fun _ entry ↦ entry.Charged)
    (hp : 0 ≤ p) (hk : s.cart.get? key = some entry) (h1 : entry.quantity = 1) :
    MenuState.Priced ⟨s.cart.remove key, s.subtotal - p⟩ ↔ p = entry.price := by
  have hrest := worth_remove hk
  rw [h1, one_mul] at hrest
  rw [← Int64.toInt_inj]
  change (s.subtotal - p).toInt = worth (s.cart.remove key) ↔ _
  rw [toInt_sub (hs.nonneg hcart) hp, hs, ← hrest]
  omega

/-- So it is after one of several units. -/
theorem priced_remove_many_iff {total : Int64} (hs : s.Priced)
    (hcart : s.cart.All fun _ entry ↦ entry.Charged) (hp : 0 ≤ p)
    (hk : s.cart.get? key = some entry) :
    MenuState.Priced ⟨s.cart.set key ⟨entry.quantity - 1, p, total⟩, s.subtotal - p⟩ ↔
      p = entry.price := by
  have hq : 1 ≤ entry.quantity := (hcart key entry hk).1
  rw [MenuState.Priced, toInt_sub (hs.nonneg hcart) hp, hs, worth_set_sub hk, eq_comm,
    add_eq_left, mul_eq_zero, or_iff_right (by omega), sub_eq_zero, Int64.toInt_inj]

end

/-! ## Runs -/

namespace Screen

variable {s t : Screen} {e : Event} {key : String}

theorem Charged.price (hs : s.Charged) (hrow : key ∈ s.rows) :
    ∃ p, Menu.price s.rows key = .int p ∧ 0 ≤ p := by
  obtain ⟨item, hitem⟩ := OrderedMap.mem_iff.mp hrow
  have hprice : isPrice (item.field "Price") := hs.rows key item hitem
  rw [price_of_get? hitem]
  cases hf : item.field "Price" with
  | int p => exact ⟨p, rfl, by simpa [hf, isPrice] using hprice⟩
  | null | bool _ | double _ | string _ | timestamp _ => simp [hf, isPrice] at hprice

theorem charged_initial {username : String} : (initial username).Charged :=
  ⟨OrderedMap.all_empty, OrderedMap.all_empty⟩

theorem charged_step (hs : s.Charged) (hprices : e.PricesNonneg) (h : Step s e t) : t.Charged := by
  constructor
  · refine rows_all_step h hs.rows ?_
    rintro menu rfl
    exact OrderedMap.all_iff_entries.mpr hprices
  · obtain ⟨m, hm, hchange⟩ := change_step h
    rw [hm]
    cases hchange with
    | @add key _ _ hrow htap =>
        obtain ⟨p₀, hp₀, hnonneg⟩ := hs.price hrow
        cases htap with
        | @int p hp =>
            obtain rfl : p₀ = p := Scalar.int.inj (hp₀.symm.trans hp)
            refine hs.cart.set_iff.mpr ?_
            cases hk : s.cart.get? key with
            | none => exact ⟨le_rfl, hnonneg⟩
            | some entry => exact ⟨Int.le_add_one (hs.cart key entry hk).1, hnonneg⟩
        | uncast => exact hs.cart
    | @remove key _ _ hrow htap =>
        obtain ⟨p₀, hp₀, hnonneg⟩ := hs.price hrow
        cases htap with
        | none | zero | manyUncast => exact hs.cart
        | last | lastUncast => exact hs.cart.remove
        | @many entry p hk h0 h1 hp =>
            obtain rfl : p₀ = p := Scalar.int.inj (hp₀.symm.trans hp)
            have hq : 1 ≤ entry.quantity := (hs.cart key entry hk).1
            exact hs.cart.set_iff.mpr ⟨by simp only; omega, hnonneg⟩
    | reset => exact OrderedMap.all_empty
    | none => exact hs.cart

/-- From a screen whose subtotal is right, a step leads to such a one exactly if it
is a tap at a kept price, or no tap on a row. -/
theorem priceKept_iff_priced (hcharged : s.Charged) (hs : s.Priced) (h : Step s e t) :
    PriceKept s e ↔ t.Priced := by
  have hstate : s.toMenuState.Priced := hs.1
  have horders : ∀ order ∈ t.orders, ∃ p, order.2.price = some p ∧ p.toInt = worth order.2.items :=
    orders_all_step (fun order ↦ ∃ p, order.price = some p ∧ p.toInt = worth order.items) h hs.2
      fun r now _ ↦ ⟨s.subtotal, OrderDoc.price_orderDoc, by rw [OrderDoc.items_orderDoc, hs.1]⟩
  suffices PriceKept s e ↔ t.toMenuState.Priced from
    this.trans ⟨fun hpriced ↦ ⟨hpriced, horders⟩, And.left⟩
  obtain ⟨m, hm, hchange⟩ := change_step h
  rw [hm]
  cases hchange with
  | @add key _ _ hrow htap =>
      obtain ⟨p₀, hp₀, hnonneg⟩ := hcharged.price hrow
      cases htap with
      | @int p hp =>
          obtain rfl : p₀ = p := Scalar.int.inj (hp₀.symm.trans hp)
          rw [priced_add_iff hstate hcharged.cart hnonneg, PriceKept, hp]
          simp [intValue]
      | uncast hp => exact absurd hp₀ (hp p₀)
  | @remove key _ _ hrow htap =>
      obtain ⟨p₀, hp₀, hnonneg⟩ := hcharged.price hrow
      cases htap with
      | none hk => exact iff_of_true (fun entry he ↦ by rw [hk] at he; cases he) hstate
      | @zero entry hk h0 =>
          have hq : 1 ≤ entry.quantity := (hcharged.cart key entry hk).1
          omega
      | @last entry p hk h1 hp =>
          obtain rfl : p₀ = p := Scalar.int.inj (hp₀.symm.trans hp)
          rw [priced_remove_last_iff hstate hcharged.cart hnonneg hk h1, PriceKept, hk, hp]
          simp
      | @many entry p hk h0 h1 hp =>
          obtain rfl : p₀ = p := Scalar.int.inj (hp₀.symm.trans hp)
          rw [priced_remove_many_iff hstate hcharged.cart hnonneg hk, PriceKept, hk, hp]
          simp
      | lastUncast _ _ hp => exact absurd hp₀ (hp p₀)
      | manyUncast _ _ _ hp => exact absurd hp₀ (hp p₀)
  | reset => exact iff_of_true trivial Int64.toInt_zero
  | none hnot =>
      refine iff_of_true ?_ hstate
      cases e with
      | add | remove => exact absurd trivial hnot
      | snapshot | pay | get | dismiss => trivial

/-- With a price on every item, the subtotal prices the cart in every state of a
run, and every order its items, exactly if every tap of the run is one at a kept
price that fits. -/
theorem priced_run_iff {username : String} {es : List Event} :
    Run (Guarded PriceKept (Guarded (fun _ e ↦ e.PricesNonneg) Step)) (initial username) es s ↔
      Run (Guarded (fun _ e ↦ e.PricesNonneg) Step) (initial username) es s ∧
        ∀ pre a, pre <+: es →
          Run (Guarded (fun _ e ↦ e.PricesNonneg) Step) (initial username) pre a → a.Priced :=
  Run.guarded_iff And.right charged_initial ⟨rfl, by simp [initial]⟩
    (fun hI hR ↦ charged_step hI hR.1 hR.2) fun hI hP hR ↦ priceKept_iff_priced hI hP hR.2

/-- A tea, whose price rises to 20 once it is paid, and a second one after that. -/
def paidBeforeRise : List Event :=
  [.snapshot (some (singleMenu "tea" 10 true)), .add "tea", .add "tea", .pay,
    .get 0 (walletReply 50) "a" 0, .dismiss, .snapshot (some (singleMenu "tea" 20 true)),
    .add "tea"]

example : (exec (restrict PriceKept step) (initial "u") paidBeforeRise).isSome := by decide

/-- A tea at 10, and another one after its price has risen to 20: the subtotal
is 30, and the cart has two teas at 20. -/
def risesBetweenTaps : List Event :=
  [.snapshot (some (singleMenu "tea" 10 true)), .add "tea",
    .snapshot (some (singleMenu "tea" 20 true)), .add "tea"]

example : (exec (restrict PriceKept step) (initial "u") dearTeas).isNone := by decide

theorem not_priced_risesBetweenTaps : ¬ ∀ (username : String) (es : List Event) (s : Screen),
    (∀ e ∈ es, e.PricesNonneg) → Run Step (initial username) es s → s.Priced := by
  intro h
  have := (h "u" risesBetweenTaps _ (by decide) (run_exec_get (by decide))).1
  exact absurd this (by decide)

end Screen

end CollegeCanteens.Menu
