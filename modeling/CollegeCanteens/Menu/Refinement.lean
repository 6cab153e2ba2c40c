import CollegeCanteens.Library.Basket
import CollegeCanteens.Library.FixedWidth
import CollegeCanteens.Menu.Screen
import Mathlib.Algebra.FreeMonoid.Basic

/-!
# The cart as a basket

With one price for each item, a Menu screen is a basket with a price tag: an add
tap puts a unit in, a remove tap takes one out if there is one, and the reset at
the end of a payment empties it.  `Refines` says what the cart and the subtotal
are for a given basket, and `refines_run` that in every run they are that for
the basket that the operations of the run lead to.  The subtotal is a sum of 64-bit
ints: it is what the basket costs if that fits, and wraps around otherwise
(`not_charged_dearTeas`).

The total kept in an entry is not a function of the basket, but of the history of
its item (`entry_step`).  It follows that taps on different items may change
places between two resets: both the cart and the subtotal stay the same.
-/

namespace CollegeCanteens.Menu

open Transition Basket FixedWidth

/-- A snapshot in which every item has the price of the table. -/
def Event.PricedBy (table : String → Int64) : Event → Prop
  | .snapshot (some menu) => menu.All fun key item ↦ item.field "Price" = .int (table key)
  | _ => True

instance (table : String → Int64) : DecidablePred (Event.PricedBy table)
  | .snapshot (some menu) =>
    inferInstanceAs (Decidable (menu.All fun key item ↦ item.field "Price" = .int (table key)))
  | .snapshot none | .add _ | .remove _ | .pay | .get _ _ _ _ | .dismiss => .isTrue trivial

/-- What a basket costs at the prices of the table. -/
def cost (table : String → Int64) (m : Multiset String) : Int :=
  charge (fun k ↦ (table k).toInt) m

/-- What a basket costs as a sum of 64-bit ints. -/
def bill (table : String → Int64) (m : Multiset String) : Int64 := .ofInt (cost table m)

/-- The cart holds the basket, at the prices of the table, and the subtotal is
its bill. -/
structure Refines (table : String → Int64) (s : MenuState) (m : Multiset String) : Prop where
  mem_iff : ∀ k, k ∈ s.cart ↔ 1 ≤ m.count k
  entry : s.cart.All fun k entry ↦ entry.quantity = (m.count k : ℤ) ∧ entry.price = table k
  subtotal : s.subtotal = bill table m

/-- What an operation makes of the entry of an item at price `p`, if it concerns
the item. -/
def editEntry (p : Int64) : Option CartEntry → Op String → Option CartEntry
  | entry, .add _ => some (.added p entry)
  | none, .remove _ => none
  | some entry, .remove _ =>
    if entry.quantity = 0 then some entry
    else if entry.quantity = 1 then none
    else some ⟨entry.quantity - 1, p, .ofInt (entry.quantity + 1) * p⟩
  | _, .clear => none

/-! ## Bills -/

section

variable {table : String → Int64} {m : Multiset String} {k : String}

/-- A bill is what the basket costs if that fits. -/
theorem toInt_bill_iff : (bill table m).toInt = cost table m ↔ Fits (cost table m) := toInt_ofInt_iff

@[simp] theorem bill_zero : bill table 0 = 0 := rfl

@[simp] theorem bill_cons : bill table (k ::ₘ m) = bill table m + table k := by
  rw [bill, cost, charge_cons, ofInt_add_toInt]
  rfl

theorem bill_erase (h : k ∈ m) : bill table (m.erase k) = bill table m - table k := by
  rw [bill, cost, charge_erase h, ofInt_sub_toInt]
  rfl

end

/-! ## What a tap does to the basket -/

section

variable {table : String → Int64} {menu : MenuMap} {key : String} {s s' : MenuState}
  {m : Multiset String} {r : Except DartError Unit}

theorem Refines.initial : Refines table .initial 0 where
  mem_iff k := by simp [MenuState.initial]
  entry := OrderedMap.all_empty
  subtotal := bill_zero.symm

/-- An add tap makes the quantity one more than the basket has units. -/
theorem Refines.quantity_added (h : Refines table s m) {p : Int64} :
    (CartEntry.added p (s.cart.get? key)).quantity = m.count key + 1 := by
  cases hk : s.cart.get? key with
  | none =>
      have hcount : ¬ 1 ≤ m.count key := fun hm ↦
        OrderedMap.notMem_iff.mpr hk ((h.mem_iff key).mpr hm)
      simp only [CartEntry.added]
      omega
  | some entry => simp only [CartEntry.added, (h.entry key entry hk).1]

theorem Refines.add (h : Refines table s m) {p : Int64} (hp : p = table key) :
    Refines table ⟨s.cart.set key (.added p (s.cart.get? key)), s.subtotal + p⟩ (key ::ₘ m) where
  mem_iff k := by
    rw [OrderedMap.mem_set, Multiset.count_cons, h.mem_iff]
    split <;> simp [*]
  entry := by
    intro k entry hk
    rw [OrderedMap.get?_set] at hk
    split at hk
    · next heq =>
        subst heq
        obtain rfl := Option.some.inj hk
        refine ⟨by rw [h.quantity_added, Multiset.count_cons_self]; rfl, ?_⟩
        cases s.cart.get? k <;> exact hp
    · next hne =>
        rw [Multiset.count_cons_of_ne hne]
        exact h.entry k entry hk
  subtotal := by rw [bill_cons, h.subtotal, hp]

theorem Refines.addTap (h : Refines table s m) (hp : price menu key = .int (table key))
    (htap : AddTap menu key s r s') : Refines table s' (key ::ₘ m) := by
  cases htap with
  | int hp' => exact h.add (Scalar.int.inj (hp'.symm.trans hp))
  | uncast hnot => exact absurd hp (hnot _)

/-- The entries of the other items are those of the basket that is left. -/
theorem Refines.entry_of_ne (h : Refines table s m) {k : String} {entry : CartEntry}
    (hne : k ≠ key) (hk : s.cart.get? k = some entry) :
    entry.quantity = ((m.erase key).count k : ℤ) ∧ entry.price = table k := by
  rw [Multiset.count_erase_of_ne hne]
  exact h.entry k entry hk

theorem Refines.removeTap (h : Refines table s m) (hp : price menu key = .int (table key))
    (htap : RemoveTap menu key s r s') : Refines table s' (m.erase key) := by
  cases htap with
  | none hk =>
      have hcount : key ∉ m := fun hm ↦ OrderedMap.notMem_iff.mpr hk
        ((h.mem_iff key).mpr (Multiset.one_le_count_iff_mem.mpr hm))
      rwa [Multiset.erase_of_notMem hcount]
  | zero hk h0 =>
      have hpos := (h.mem_iff key).mp (OrderedMap.mem_of_get? hk)
      have hq := (h.entry key _ hk).1
      omega
  | @last entry p hk h1 hp' =>
      obtain rfl : p = table key := Scalar.int.inj (hp'.symm.trans hp)
      have hq := (h.entry key entry hk).1
      have hmem : key ∈ m := Multiset.one_le_count_iff_mem.mp (by omega)
      refine ⟨fun k ↦ ?_, fun k entry' hk' ↦ ?_, by rw [bill_erase hmem, h.subtotal]⟩
      · rw [OrderedMap.mem_remove, h.mem_iff]
        rcases eq_or_ne k key with rfl | hne
        · rw [Multiset.count_erase_self]
          exact iff_of_false (fun hk' ↦ hk'.1 rfl) (by omega)
        · simp [hne]
      · rw [OrderedMap.get?_remove] at hk'
        split at hk'
        · cases hk'
        · exact h.entry_of_ne ‹_› hk'
  | lastUncast _ _ hnot => exact absurd hp (hnot _)
  | @many entry p hk h0 h1 hp' =>
      obtain rfl : p = table key := Scalar.int.inj (hp'.symm.trans hp)
      have hq := (h.entry key entry hk).1
      have hmem : key ∈ m := Multiset.one_le_count_iff_mem.mp (by omega)
      refine ⟨fun k ↦ ?_, fun k entry' hk' ↦ ?_, by rw [bill_erase hmem, h.subtotal]⟩
      · rw [OrderedMap.mem_set, h.mem_iff]
        rcases eq_or_ne k key with rfl | hne
        · rw [Multiset.count_erase_self]
          exact iff_of_true (.inl rfl) (by omega)
        · simp [hne]
      · rw [OrderedMap.get?_set] at hk'
        split at hk'
        · next heq =>
            subst heq
            obtain rfl := Option.some.inj hk'
            rw [Multiset.count_erase_self]
            exact ⟨by simp only; omega, rfl⟩
        · exact h.entry_of_ne ‹_› hk'
  | manyUncast _ _ _ hnot => exact absurd hp (hnot _)

end

/-! ## What a tap does to the entry of an item -/

section

variable {table : String → Int64} {menu : MenuMap} {key k : String} {s s' : MenuState}
  {r : Except DartError Unit} {p : Int64}

theorem get?_addTap (hp : price menu key = .int p) (htap : AddTap menu key s r s') :
    s'.cart.get? k =
      if k = key then editEntry p (s.cart.get? key) (.add key) else s.cart.get? k := by
  cases htap with
  | int hp' =>
      obtain rfl := Scalar.int.inj (hp'.symm.trans hp)
      exact OrderedMap.get?_set
  | uncast hnot => exact absurd hp (hnot p)

theorem get?_removeTap (hp : price menu key = .int p) (htap : RemoveTap menu key s r s') :
    s'.cart.get? k =
      if k = key then editEntry p (s.cart.get? key) (.remove key) else s.cart.get? k := by
  cases htap with
  | none hk =>
      split
      · next heq => rw [heq, hk]; rfl
      · rfl
  | zero hk h0 =>
      split
      · next heq => simp [heq, hk, editEntry, h0]
      · rfl
  | last hk h1 =>
      rw [OrderedMap.get?_remove, hk]
      simp [editEntry, h1]
  | @many entry p' hk h0 h1 hp' =>
      obtain rfl := Scalar.int.inj (hp'.symm.trans hp)
      rw [OrderedMap.get?_set, hk]
      simp [editEntry, h0, h1]
  | lastUncast _ _ hnot => exact absurd hp (hnot p)
  | manyUncast _ _ _ hnot => exact absurd hp (hnot p)

end

namespace Screen

/-! ## Runs -/

/-- The operations of an event. -/
def ops (s : Screen) : Event → List (Op String)
  | .add key => [.add key]
  | .remove key => [.remove key]
  | .dismiss => if s.resets then [.clear] else []
  | _ => []

/-- The operations of a list of events, in order. -/
def opsOf (s : Screen) (es : List Event) : List (Op String) :=
  (total step (fun s e ↦ FreeAddMonoid.ofList (s.ops e)) s es).toList

variable {table : String → Int64} {username k : String} {s t : Screen} {e : Event} {es : List Event}
  {m : Multiset String}

theorem ops_of_not_edits (h : ¬ Edits s e) : s.ops e = [] := by
  cases e with
  | add | remove => exact absurd trivial h
  | dismiss => exact if_neg h
  | snapshot | pay | get => rfl

theorem opsOf_snoc (h : Run Step s es t) : s.opsOf (es ++ [e]) = s.opsOf es ++ t.ops e := by
  simp only [opsOf, total_snoc h]
  rfl

/-- Every row has the price of the table. -/
def RowsPriced (table : String → Int64) (s : Screen) : Prop :=
  s.rows.All fun key item ↦ item.field "Price" = .int (table key)

theorem RowsPriced.price {key : String} (hs : RowsPriced table s) (hrow : key ∈ s.rows) :
    Menu.price s.rows key = .int (table key) := by
  obtain ⟨item, hitem⟩ := OrderedMap.mem_iff.mp hrow
  rw [price_of_get? hitem]
  exact hs key item hitem

theorem rowsPriced_step (hs : RowsPriced table s) (hprices : e.PricedBy table) (h : Step s e t) :
    RowsPriced table t :=
  rows_all_step h hs fun menu he ↦ by
    subst he
    exact hprices

/-- A step does to the basket what its operations do. -/
theorem refines_step (hrows : RowsPriced table s) (hs : Refines table s.toMenuState m)
    (h : Step s e t) : Refines table t.toMenuState (after m (s.ops e)) := by
  obtain ⟨m', hm, hchange⟩ := change_step h
  rw [hm]
  cases hchange with
  | add hrow htap => exact hs.addTap (hrows.price hrow) htap
  | remove hrow htap => exact hs.removeTap (hrows.price hrow) htap
  | reset hreset =>
      rw [ops, if_pos hreset]
      exact .initial
  | none hnot =>
      have hops : s.ops e = [] := ops_of_not_edits hnot
      rw [hops]
      exact hs

/-- A step does to the entry of an item what those of its operations do that
concern the item. -/
theorem entry_step (hrows : RowsPriced table s) (h : Step s e t) :
    t.cart.get? k = (history k (s.ops e)).foldl (editEntry (table k)) (s.cart.get? k) := by
  obtain ⟨m', hm, hchange⟩ := change_step h
  rw [hm]
  cases hchange with
  | @add key _ _ hrow htap =>
      rw [get?_addTap (hrows.price hrow) htap]
      rcases eq_or_ne k key with rfl | hne
      · simp [ops, history, Op.Concerns]
      · simp [ops, history, Op.Concerns, hne, hne.symm]
  | @remove key _ _ hrow htap =>
      rw [get?_removeTap (hrows.price hrow) htap]
      rcases eq_or_ne k key with rfl | hne
      · simp [ops, history, Op.Concerns]
      · simp [ops, history, Op.Concerns, hne, hne.symm]
  | reset hreset =>
      rw [ops, if_pos hreset]
      cases s.cart.get? k <;> rfl
  | none hnot =>
      rw [ops_of_not_edits hnot]
      rfl

/-- What holds of a screen after a list of events if the prices are those of the
table. -/
structure Simulates (table : String → Int64) (username : String) (es : List Event) (s : Screen) :
    Prop where
  rows : RowsPriced table s
  refines : Refines table s.toMenuState (after 0 ((initial username).opsOf es))
  get?_eq : ∀ k, s.cart.get? k =
    (history k ((initial username).opsOf es)).foldl (editEntry (table k)) none

theorem simulates_run
    (h : Run (Guarded (fun _ e ↦ e.PricedBy table) Step) (initial username) es s) :
    Simulates table username es s := by
  refine h.invariantOn ⟨OrderedMap.all_empty, .initial, fun _ ↦ rfl⟩ fun {es a e b} hr ha hR ↦ ?_
  have hops := opsOf_snoc hr.of_guarded (e := e)
  refine ⟨rowsPriced_step ha.rows hR.1 hR.2, ?_, fun k ↦ ?_⟩
  · rw [hops, after_append]
    exact refines_step ha.rows ha.refines hR.2
  · rw [hops, history_append, List.foldl_append, ← ha.get?_eq]
    exact entry_step ha.rows hR.2

/-- In every run in which each item has one price, the cart and the subtotal are
those of the basket that the taps and the resets lead to, so that the subtotal is
what the basket costs if that fits; and they are the same after any other such run in
which every item has the same taps on it, in the same order, between the same resets. -/
theorem refines_run (h : Run (Guarded (fun _ e ↦ e.PricedBy table) Step) (initial username) es s) :
    Refines table s.toMenuState (after 0 ((initial username).opsOf es)) ∧
      (s.subtotal.toInt = cost table (after 0 ((initial username).opsOf es)) ↔
        Fits (cost table (after 0 ((initial username).opsOf es)))) ∧
      ∀ es' t, Run (Guarded (fun _ e ↦ e.PricedBy table) Step) (initial username) es' t →
        Reordered ((initial username).opsOf es) ((initial username).opsOf es') →
          s.cart.Same t.cart ∧ s.subtotal = t.subtotal := by
  have hs := simulates_run h
  refine ⟨hs.refines, ?_, fun es' t h' hre ↦ ?_⟩
  · rw [hs.refines.subtotal]
    exact toInt_bill_iff
  have ht := simulates_run h'
  constructor
  · intro k
    rw [hs.get?_eq, ht.get?_eq, hre k]
  · rw [hs.refines.subtotal, ht.refines.subtotal, after_eq_of_reordered hre]

/-- A menu of a tea and a coffee. -/
def teaAndCoffee : MenuMap := (singleMenu "tea" 10 true).addAll (singleMenu "coffee" 20 true)

/-- Their prices. -/
def prices : String → Int64 := fun key ↦ if key = "tea" then 10 else 20

/-- A tea and then a coffee. -/
def teaFirst : List Event := [.snapshot (some teaAndCoffee), .add "tea", .add "coffee"]

/-- A coffee and then a tea. -/
def coffeeFirst : List Event := [.snapshot (some teaAndCoffee), .add "coffee", .add "tea"]

/-- The state after `teaFirst`. -/
def afterTeaFirst : Screen := (exec step (initial "u") teaFirst).get (by decide)

/-- The state after `coffeeFirst`. -/
def afterCoffeeFirst : Screen := (exec step (initial "u") coffeeFirst).get (by decide)

theorem refines_teaFirst :
    Refines prices afterTeaFirst.toMenuState (after 0 [.add "tea", .add "coffee"]) ∧
      (afterTeaFirst.subtotal.toInt = cost prices (after 0 [.add "tea", .add "coffee"]) ↔
        Fits (cost prices (after 0 [.add "tea", .add "coffee"]))) ∧
      afterTeaFirst.cart.Same afterCoffeeFirst.cart ∧
      afterTeaFirst.subtotal = afterCoffeeFirst.subtotal := by
  have hrun : Run (Guarded (fun _ e ↦ e.PricedBy prices) Step) (initial "u") teaFirst
      afterTeaFirst := run_guarded_exec_get (by decide)
  have hrun' : Run (Guarded (fun _ e ↦ e.PricedBy prices) Step) (initial "u") coffeeFirst
      afterCoffeeFirst := run_guarded_exec_get (by decide)
  have hswap : Reordered ([] ++ .add "tea" :: .add "coffee" :: [])
      ([] ++ .add "coffee" :: .add "tea" :: []) :=
    Reordered.swap fun k ↦ by
      rintro ⟨rfl, hk⟩
      exact absurd hk (by decide)
  have h := refines_run hrun
  exact ⟨h.1, h.2.1, h.2.2 coffeeFirst afterCoffeeFirst hrun' hswap⟩

/-- The sum of the prices does not fit, and the subtotal is negative. -/
theorem not_charged_dearTeas : ¬ ∀ (table : String → Int64) (username : String) (es : List Event)
    (s : Screen), Run (Guarded (fun _ e ↦ e.PricedBy table) Step) (initial username) es s →
      s.subtotal.toInt = cost table (after 0 ((initial username).opsOf es)) := by
  intro h
  have hcost := h (fun _ ↦ 4611686018427387904) "u" dearTeas _ (run_guarded_exec_get (by decide))
  exact absurd hcost (by decide)

end Screen

end CollegeCanteens.Menu
