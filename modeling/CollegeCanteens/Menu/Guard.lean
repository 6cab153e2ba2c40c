import CollegeCanteens.Menu.Subtotal

/-!
# The guard of Pay

Pay asks whether the subtotal is zero where it means to ask whether the cart is
empty.  The two questions have one answer for as long as the subtotal is zero
for the empty cart and positive for every other one (`Screen.Exact`).  The
subtotal is a sum of the prices the taps found, one that wraps around, so that
this depends on what each tap finds: `Screen.Telling` says for each tap which
prices keep it, and `exact_run_iff` that no others do.

The menus are those in which every item has a price (`Event.PricesNonneg`); the
prices may change at every snapshot.
-/

namespace CollegeCanteens.Menu

open Transition FixedWidth

namespace Screen

/-- The subtotal tells the empty cart from every other one, Pay answers by it,
and no order is empty or has a negative price. -/
structure Exact (s : Screen) : Prop where
  nonneg : 0 ≤ s.subtotal
  zero_iff : s.subtotal = 0 ↔ s.cart = ∅
  /-- Whenever Pay gets as far as its first check, it answers that the cart is
  empty if and only if it is. -/
  cartEmpty_iff : ∀ username now user balance, user.field "Balance" = .int balance →
    (payAfterGet username s.toMenuState now (some user) = .ok .cartEmpty ↔ s.cart = ∅)
  orders : ∀ order ∈ s.orders, order.2.items ≠ ∅ ∧ ∃ p, order.2.price = some p ∧ 0 ≤ p

/-- An add tap finds a price that fits beside the subtotal, and on the empty cart
one other than zero.  A remove tap that leaves the cart empty finds the subtotal for
a price, and one that leaves a unit in it finds less than the subtotal. -/
def Telling (s : Screen) : Event → Prop
  | .add key => ∀ p ∈ intValue (price s.rows key),
      (s.cart = ∅ → p ≠ 0) ∧ Fits (s.subtotal.toInt + p.toInt)
  | .remove key => ∀ entry ∈ s.cart.get? key, ∀ p ∈ intValue (price s.rows key),
      if entry.quantity = 1 ∧ ∀ k ∈ s.cart.keys, k = key then p = s.subtotal else p < s.subtotal
  | _ => True

instance (s : Screen) (e : Event) : Decidable (Telling s e) :=
  match e with
  | .add key =>
    inferInstanceAs (Decidable (∀ p ∈ intValue (price s.rows key),
      (s.cart = ∅ → p ≠ 0) ∧ Fits (s.subtotal.toInt + p.toInt)))
  | .remove key =>
    inferInstanceAs (Decidable (∀ entry ∈ s.cart.get? key, ∀ p ∈ intValue (price s.rows key),
      if entry.quantity = 1 ∧ ∀ k ∈ s.cart.keys, k = key then p = s.subtotal else p < s.subtotal))
  | .snapshot _ | .pay | .get _ _ _ _ | .dismiss => .isTrue trivial

end Screen

/-! ## What a tap does to the guard -/

section

variable {s : MenuState} {key : String} {entry : CartEntry} {p : Int64}

theorem payAfterGet_eq_cartEmpty_iff {username : String} {now : Int} {user : Fields} {balance : Int64}
    (hb : user.field "Balance" = .int balance) :
    payAfterGet username s now (some user) = .ok .cartEmpty ↔ s.subtotal = 0 := by
  rw [payAfterGet_int hb]
  split
  · exact iff_of_true rfl ‹_›
  · refine iff_of_false (fun h ↦ ?_) ‹_›
    split at h <;> cases h

/-- The part of `Screen.Exact` that is about the cart and the subtotal. -/
def MenuState.Exact (s : MenuState) : Prop := 0 ≤ s.subtotal ∧ (s.subtotal = 0 ↔ s.cart = ∅)

theorem exact_initial : MenuState.initial.Exact := ⟨Int64.le_refl 0, iff_of_true rfl rfl⟩

theorem exact_add_iff (hs : s.Exact) (hp : 0 ≤ p) :
    MenuState.Exact ⟨s.cart.set key entry, s.subtotal + p⟩ ↔
      (s.cart = ∅ → p ≠ 0) ∧ Fits (s.subtotal.toInt + p.toInt) := by
  obtain ⟨hnonneg, hzero⟩ := hs
  simp only [MenuState.Exact, OrderedMap.set_ne_empty, iff_false, nonneg_add_iff hnonneg hp,
    ← hzero]
  rw [and_comm, and_congr_left_iff]
  intro hfits
  rw [nonneg_iff] at hnonneg hp
  rw [eq_zero_iff, toInt_add_iff.mpr hfits, eq_zero_iff, ne_eq, eq_zero_iff]
  omega

theorem exact_remove_iff {cart : Cart} (hs : 0 ≤ s.subtotal) (hp : 0 ≤ p) :
    MenuState.Exact ⟨cart, s.subtotal - p⟩ ↔
      if cart = ∅ then p = s.subtotal else p < s.subtotal := by
  simp only [MenuState.Exact]
  rw [nonneg_iff, eq_zero_iff, toInt_sub hs hp, Int64.lt_iff_toInt_lt, ← Int64.toInt_inj]
  split <;> simp only [*, iff_true, iff_false] <;> omega

end

namespace Screen

variable {s t : Screen} {e : Event} {key : String}

theorem exact_iff : s.Exact ↔ s.toMenuState.Exact ∧
    ∀ order ∈ s.orders, order.2.items ≠ ∅ ∧ ∃ p, order.2.price = some p ∧ 0 ≤ p := by
  constructor
  · exact fun h ↦ ⟨⟨h.nonneg, h.zero_iff⟩, h.orders⟩
  · rintro ⟨⟨hnonneg, hzero⟩, horders⟩
    refine ⟨hnonneg, hzero, fun username now user balance hb ↦ ?_, horders⟩
    exact (payAfterGet_eq_cartEmpty_iff hb).trans hzero

/-- From an exact screen, a step leads to an exact one exactly if it is a
telling one. -/
theorem telling_iff_exact (hcharged : s.Charged) (hs : s.Exact) (h : Step s e t) :
    Telling s e ↔ t.Exact := by
  have hstate : s.toMenuState.Exact := (exact_iff.mp hs).1
  have horders : ∀ order ∈ t.orders,
      order.2.items ≠ ∅ ∧ ∃ p, order.2.price = some p ∧ 0 ≤ p :=
    orders_all_step (fun order ↦ order.items ≠ ∅ ∧ ∃ p, order.price = some p ∧ 0 ≤ p) h hs.orders
      fun r now hc ↦ by
        obtain ⟨-, -, -, -, h0, -⟩ := hc
        rw [OrderDoc.items_orderDoc, OrderDoc.price_orderDoc]
        exact ⟨fun he ↦ h0 (hs.zero_iff.mpr he), _, rfl, hs.nonneg⟩
  suffices Telling s e ↔ t.toMenuState.Exact from
    this.trans ⟨fun hexact ↦ exact_iff.mpr ⟨hexact, horders⟩, fun hexact ↦ (exact_iff.mp hexact).1⟩
  obtain ⟨m, hm, hchange⟩ := change_step h
  rw [hm]
  cases hchange with
  | @add key _ _ hrow htap =>
      obtain ⟨p₀, hp₀, hnonneg⟩ := hcharged.price hrow
      cases htap with
      | @int p hp =>
          obtain rfl : p₀ = p := Scalar.int.inj (hp₀.symm.trans hp)
          rw [exact_add_iff hstate hnonneg, Telling, hp]
          simp [intValue]
      | uncast hp => exact absurd hp₀ (hp p₀)
  | @remove key _ _ hrow htap =>
      obtain ⟨p₀, hp₀, hnonneg⟩ := hcharged.price hrow
      cases htap with
      | none hk => exact iff_of_true (fun entry he ↦ by rw [hk] at he; cases he) hstate
      | @zero entry hk h0 =>
          have hq : 1 ≤ entry.quantity := (hcharged.cart key entry hk).1
          omega
      | @last entry p hk h1 hp =>
          obtain rfl : p₀ = p := Scalar.int.inj (hp₀.symm.trans hp)
          rw [exact_remove_iff hstate.1 hnonneg, Telling, hk, hp]
          simp [intValue, h1, OrderedMap.remove_eq_empty_iff]
      | @many entry p hk h0 h1 hp =>
          obtain rfl : p₀ = p := Scalar.int.inj (hp₀.symm.trans hp)
          rw [exact_remove_iff hstate.1 hnonneg, Telling, hk, hp]
          simp [intValue, h1]
      | lastUncast _ _ hp => exact absurd hp₀ (hp p₀)
      | manyUncast _ _ _ hp => exact absurd hp₀ (hp p₀)
  | reset => exact iff_of_true trivial exact_initial
  | none hnot =>
      refine iff_of_true ?_ hstate
      cases e with
      | add | remove => exact absurd trivial hnot
      | snapshot | pay | get | dismiss => trivial

/-- With a price on every item, the guard of Pay is exact in every state of a
run, and no order written in it empty or negative, exactly if every tap of the
run is a telling one. -/
theorem exact_run_iff {username : String} {es : List Event} :
    Run (Guarded Telling (Guarded (fun _ e ↦ e.PricesNonneg) Step)) (initial username) es s ↔
      Run (Guarded (fun _ e ↦ e.PricesNonneg) Step) (initial username) es s ∧
        ∀ pre a, pre <+: es →
          Run (Guarded (fun _ e ↦ e.PricesNonneg) Step) (initial username) pre a → a.Exact :=
  Run.guarded_iff And.right charged_initial
    (exact_iff.mpr ⟨exact_initial, by simp [initial]⟩)
    (fun hI hR ↦ charged_step hI hR.1 hR.2) fun hI hP hR ↦ telling_iff_exact hI hP hR.2

/-- A tea at 10 that is taken out at 20, and Pay: an order of nothing at the price
-10. -/
def paidForNothing : List Event :=
  [.snapshot (some (singleMenu "tea" 10 true)), .add "tea",
    .snapshot (some (singleMenu "tea" 20 true)), .remove "tea", .pay, .get 0 (walletReply 0) "a" 0]

/-- A tea that costs nothing. -/
def freeTea : List Event := [.snapshot (some (singleMenu "tea" 0 true)), .add "tea"]

example : (exec (restrict Telling step) (initial "u") paidForNothing).isNone := by decide

example : (exec (restrict Telling step) (initial "u") freeTea).isNone := by decide

example : (exec (restrict Telling step) (initial "u") dearTeas).isNone := by decide

/-- The guard lets an empty cart through after a price has risen, and takes a
cart with a free item for an empty one. -/
theorem not_exact_paidForNothing :
    (¬ ∀ (username : String) (es : List Event) (s : Screen),
      Run (Guarded (fun _ e ↦ e.PricesNonneg) Step) (initial username) es s →
        ∀ order ∈ s.orders, order.2.items ≠ ∅ ∧ ∃ p, order.2.price = some p ∧ 0 ≤ p) ∧
    ¬ ∀ (username : String) (es : List Event) (s : Screen),
      Run (Guarded (fun _ e ↦ e.PricesNonneg) Step) (initial username) es s →
        (s.subtotal = 0 ↔ s.cart = ∅) := by
  constructor
  · intro h
    have horder := h "u" paidForNothing _ (run_guarded_exec_get (by decide))
      ("a", orderDoc "u" (-10) ∅ 0) (by decide)
    exact horder.1 OrderDoc.items_orderDoc
  · intro h
    have hzero := h "u" freeTea _ (run_guarded_exec_get (by decide))
    exact absurd hzero (by decide)

end Screen

end CollegeCanteens.Menu
