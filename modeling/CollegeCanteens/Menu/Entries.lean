import CollegeCanteens.Library.FixedWidth
import CollegeCanteens.Menu.Screen
import Mathlib.Tactic.Ring

/-!
# Entries that add up

An entry of the cart keeps a total beside its quantity and its price, and the
three branches that build an entry compute it each on its own.  The one that
takes a unit out of several multiplies the price by the quantity before the tap
plus one, where the new quantity is the one before the tap less one: the entry it
makes does not add up at any price but zero, and the least int for two units, the
treble of which is that int again (`addsUp_remove_many_iff`).  The other two do, but
for a product that does not fit (`addsUp_added_iff`).

No build shows the totals, but the orders carry them.
-/

namespace CollegeCanteens.Menu

open Transition FixedWidth

/-- An entry has a unit at least, and its total is the price of its units. -/
def CartEntry.AddsUp (entry : CartEntry) : Prop :=
  1 ≤ entry.quantity ∧ entry.totalPrice.toInt = entry.quantity * entry.price.toInt

instance : DecidablePred CartEntry.AddsUp := fun entry ↦
  inferInstanceAs (Decidable (1 ≤ entry.quantity ∧
    entry.totalPrice.toInt = entry.quantity * entry.price.toInt))

namespace Screen

/-- Every entry of the cart and of every order written adds up. -/
def AddsUp (s : Screen) : Prop :=
  (s.cart.All fun _ entry ↦ entry.AddsUp) ∧
    ∀ order ∈ s.orders, order.2.items.All fun _ entry ↦ entry.AddsUp

instance (s : Screen) : Decidable s.AddsUp :=
  inferInstanceAs (Decidable ((s.cart.All fun _ entry ↦ entry.AddsUp) ∧
    ∀ order ∈ s.orders, order.2.items.All fun _ entry ↦ entry.AddsUp))

/-- The new total of an add tap fits.  A remove tap on an item of which the cart has
several units finds the price zero, or the least int if they are two. -/
def TotalKept (s : Screen) : Event → Prop
  | .add key => ∀ entry ∈ s.cart.get? key, ∀ p ∈ intValue (price s.rows key),
      Fits ((entry.quantity + 1) * p.toInt)
  | .remove key => ∀ entry ∈ s.cart.get? key, 2 ≤ entry.quantity →
      ∀ p ∈ intValue (price s.rows key), p = 0 ∨ p = Int64.minValue ∧ entry.quantity = 2
  | _ => True

instance (s : Screen) (e : Event) : Decidable (TotalKept s e) :=
  match e with
  | .add key =>
    inferInstanceAs (Decidable (∀ entry ∈ s.cart.get? key, ∀ p ∈ intValue (price s.rows key),
      Fits ((entry.quantity + 1) * p.toInt)))
  | .remove key => inferInstanceAs (Decidable (∀ entry ∈ s.cart.get? key, 2 ≤ entry.quantity →
      ∀ p ∈ intValue (price s.rows key), p = 0 ∨ p = Int64.minValue ∧ entry.quantity = 2))
  | .snapshot _ | .pay | .get _ _ _ _ | .dismiss => .isTrue trivial

end Screen

/-! ## The entries the taps build -/

section

variable {cart : Cart} {key : String} {entry : CartEntry} {p : Int64}

/-- An add tap makes an entry that adds up exactly if its total fits. -/
theorem addsUp_added_iff (h : cart.All fun _ entry ↦ entry.AddsUp) :
    (CartEntry.added p (cart.get? key)).AddsUp ↔
      ∀ entry ∈ cart.get? key, Fits ((entry.quantity + 1) * p.toInt) := by
  cases hk : cart.get? key with
  | none => exact iff_of_true ⟨le_rfl, (one_mul p.toInt).symm⟩ (fun _ he ↦ by cases he)
  | some entry =>
      have hq : 1 ≤ entry.quantity + 1 := Int.le_add_one (h key entry hk).1
      simp only [CartEntry.AddsUp, CartEntry.added, hq, true_and, Option.mem_some_iff, forall_eq']
      exact toInt_ofInt_mul_iff

/-- One of several units taken out leaves an entry that adds up only at the price
zero, or at the least int. -/
theorem addsUp_remove_many_iff (hq : 2 ≤ entry.quantity) :
    (⟨entry.quantity - 1, p, .ofInt (entry.quantity + 1) * p⟩ : CartEntry).AddsUp ↔
      p = 0 ∨ p = Int64.minValue ∧ entry.quantity = 2 := by
  have hdiff : (entry.quantity - 1) * p.toInt - (entry.quantity + 1) * p.toInt =
      -2 * p.toInt := by ring
  have hmin : p = Int64.minValue ↔ p.toInt = -9223372036854775808 := by
    rw [← Int64.toInt_inj, Int64.toInt_minValue]
    rfl
  simp only [CartEntry.AddsUp]
  rw [toInt_ofInt_mul_eq_iff, hdiff, eq_zero_iff, hmin]
  obtain ⟨hle, hlt⟩ := fits_toInt p
  constructor
  · rintro ⟨-, hfits, hdvd⟩
    by_cases h0 : p.toInt = 0
    · exact .inl h0
    · have hp : p.toInt = -9223372036854775808 := by omega
      rw [hp] at hfits
      exact .inr ⟨hp, by unfold Fits at hfits; omega⟩
  · rintro (h0 | ⟨hp, h2⟩)
    · rw [h0, mul_zero, mul_zero]
      exact ⟨by omega, by decide, dvd_zero _⟩
    · rw [hp, h2]
      exact ⟨by decide, by decide, by decide⟩

end

namespace Screen

variable {s t : Screen} {e : Event}

/-- From a screen where everything adds up, a step leads to such a one exactly
if it keeps the total of the entry it makes. -/
theorem totalKept_iff_addsUp (hs : s.AddsUp) (h : Step s e t) : TotalKept s e ↔ t.AddsUp := by
  have horders : ∀ order ∈ t.orders, order.2.items.All fun _ entry ↦ entry.AddsUp :=
    orders_all_step (fun order ↦ order.items.All fun _ entry ↦ entry.AddsUp) h hs.2 fun r now _ ↦ by
      rw [OrderDoc.items_orderDoc]
      exact hs.1
  suffices TotalKept s e ↔ t.cart.All fun _ entry ↦ entry.AddsUp from
    this.trans ⟨fun hcart ↦ ⟨hcart, horders⟩, And.left⟩
  obtain ⟨m, hm, hchange⟩ := change_step h
  rw [hm]
  cases hchange with
  | @add key _ _ _ htap =>
      cases htap with
      | int hp =>
          rw [hs.1.set_iff, addsUp_added_iff hs.1, TotalKept, hp]
          simp [intValue]
      | uncast hp =>
          refine iff_of_true (fun entry _ p he ↦ ?_) hs.1
          exact absurd (intValue_eq_some.mp he) (hp p)
  | @remove key _ _ _ htap =>
      cases htap with
      | none hk => exact iff_of_true (fun entry he ↦ by rw [hk] at he; cases he) hs.1
      | zero hk h0 => exact absurd (hs.1 key _ hk).1 (by omega)
      | last hk h1 =>
          refine iff_of_true (fun entry he hq p _ ↦ ?_) hs.1.remove
          obtain rfl := Option.some.inj (hk.symm.trans he)
          omega
      | lastUncast hk h1 =>
          refine iff_of_true (fun entry he hq p _ ↦ ?_) hs.1.remove
          obtain rfl := Option.some.inj (hk.symm.trans he)
          omega
      | @many entry p hk h0 h1 hp =>
          have hq : 2 ≤ entry.quantity := by
            have := (hs.1 key entry hk).1
            omega
          rw [hs.1.set_iff, addsUp_remove_many_iff hq, TotalKept, hk]
          simp [hq, hp, intValue]
      | manyUncast hk h0 h1 hp =>
          refine iff_of_true (fun entry _ _ p he ↦ ?_) hs.1
          exact absurd (intValue_eq_some.mp he) (hp p)
  | reset => exact iff_of_true trivial OrderedMap.all_empty
  | none hnot =>
      refine iff_of_true ?_ hs.1
      cases e with
      | add | remove => exact absurd trivial hnot
      | snapshot | pay | get | dismiss => trivial

/-- The entries of the cart add up in every state of a run, and those of every
order written in it, exactly if every tap of the run keeps the total of the entry it
makes. -/
theorem addsUp_run_iff {username : String} {es : List Event} :
    Run (Guarded TotalKept Step) (initial username) es s ↔
      Run Step (initial username) es s ∧
        ∀ pre a, pre <+: es → Run Step (initial username) pre a → a.AddsUp :=
  Run.guarded_iff (I := fun _ ↦ True) id trivial
    ⟨OrderedMap.all_empty, by simp [initial]⟩ (fun _ _ ↦ trivial)
    fun _ ha hab ↦ totalKept_iff_addsUp ha hab

/-- Two teas at 10, one of them taken out again: one tea with a total of 30. -/
def takenOutOfTwo : List Event :=
  [.snapshot (some (singleMenu "tea" 10 true)), .add "tea", .add "tea", .remove "tea"]

example : (exec (restrict TotalKept step) (initial "u") takenOutOfTwo).isNone := by decide

/-- Two units at the least int, one of them taken out again: the total is right. -/
example : let s := (exec step (initial "u") [.snapshot (some (singleMenu "tea" Int64.minValue true)),
      .add "tea", .add "tea", .remove "tea"]).get (by decide)
    s.cart.All fun _ entry ↦ entry.AddsUp := by decide

theorem not_addsUp_takenOutOfTwo : ¬ ∀ (username : String) (es : List Event) (s : Screen),
    (∀ e ∈ es, e.PricesNonneg) → Run Step (initial username) es s → s.AddsUp := by
  intro h
  have := h "u" takenOutOfTwo _ (by decide) (run_exec_get (by decide))
  exact absurd this (by decide)

end Screen

end CollegeCanteens.Menu
