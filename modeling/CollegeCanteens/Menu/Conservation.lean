import CollegeCanteens.Menu.Screen

/-!
# Units added, held and ordered

Every unit of an item that add taps have put into the cart, and remove taps
have not taken out again, should be in the cart or in exactly one order.  Each
event changes `Screen.accounted` by the units it adds and removes
(`accounted_step`), so that a run accounts for all of them
(`units_conserved`), as long as no Pay call writes an order while the dialog of
another is still open over a cart with entries: the cart of that other call has
been ordered already and is reset only when its dialog is dismissed.

`not_units_conserved` is the run that does otherwise, two taps on Pay before the
first read completes.
-/

namespace CollegeCanteens.Menu

open Transition

/-! ## Counting units -/

/-- The quantity of an item in a cart; zero if it has no entry. -/
def quantity (cart : Cart) (k : String) : Int := ((cart.get? k).map CartEntry.quantity).getD 0

/-- A value that the cast `as int` accepts. -/
def isInt : Scalar → Bool
  | .int _ => true
  | _ => false

/-- A remove tap takes a unit out: there is one, and if it is not the last one,
the price is cast before anything is assigned. -/
def takesUnit (menu : MenuMap) (cart : Cart) (key : String) : Bool :=
  match cart.get? key with
  | none => false
  | some entry => entry.quantity ≠ 0 && (entry.quantity = 1 || isInt (price menu key))

namespace Screen

/-- The units of `k` that an event puts into the cart: one for an effective add
tap on `k`. -/
def unitsAdded (k : String) (s : Screen) : Event → Int
  | .add key => if key = k ∧ isInt (price s.rows key) then 1 else 0
  | _ => 0

/-- The units of `k` that a tap takes out of the cart: one for an effective
remove tap on `k`. -/
def unitsRemoved (k : String) (s : Screen) : Event → Int
  | .remove key => if key = k ∧ takesUnit s.rows s.cart key then 1 else 0
  | _ => 0

/-- The units of `k` in all orders the screen has written. -/
def unitsOrdered (k : String) (s : Screen) : Int :=
  (s.orders.map fun order ↦ quantity order.2.items k).sum

/-- The units of `k` in orders and in the cart.  While a Pay call waits for its
dialog the cart has been ordered, and is not counted again. -/
def accounted (k : String) (s : Screen) : Int :=
  s.unitsOrdered k + if s.Settled then quantity s.cart k else 0

/-- No Pay call writes an order while another waits for its dialog, unless the
cart has no entry. -/
def NoOverlap (s : Screen) : Event → Prop
  | .get _ r _ _ => s.Covered r → s.Settled ∨ s.cart = ∅
  | _ => True

instance (s : Screen) (e : Event) : Decidable (NoOverlap s e) :=
  match e with
  | .get _ r _ _ => inferInstanceAs (Decidable (s.Covered r → s.Settled ∨ s.cart = ∅))
  | .snapshot _ | .add _ | .remove _ | .pay | .dismiss => .isTrue trivial

end Screen

/-! ## What a tap does to the quantities -/

section

variable {menu : MenuMap} {s : MenuState} {key k : String}

@[simp] theorem quantity_empty : quantity ∅ k = 0 := rfl

theorem quantity_set {cart : Cart} {entry : CartEntry} :
    quantity (cart.set key entry) k = if k = key then entry.quantity else quantity cart k := by
  unfold quantity
  rw [OrderedMap.get?_set]
  split <;> rfl

theorem quantity_remove {cart : Cart} :
    quantity (cart.remove key) k = if k = key then 0 else quantity cart k := by
  unfold quantity
  rw [OrderedMap.get?_remove]
  split <;> rfl

theorem quantity_of_get? {cart : Cart} {entry : CartEntry} (h : cart.get? key = some entry) :
    quantity cart key = entry.quantity := by
  simp [quantity, h]

@[simp] theorem quantity_added {p : Int64} {cart : Cart} :
    (CartEntry.added p (cart.get? key)).quantity = quantity cart key + 1 := by
  unfold quantity
  cases cart.get? key <;> simp [CartEntry.added]

theorem isInt_iff {v : Scalar} : isInt v = true ↔ ∃ p, v = .int p := by
  cases v <;> simp [isInt]

theorem not_isInt {v : Scalar} (h : ∀ p, v ≠ .int p) : ¬ isInt v := by
  rw [isInt_iff]
  exact not_exists.mpr h

/-- An add tap adds a unit of its item if the price is an int. -/
theorem quantity_addOnPressed : quantity ((addOnPressed menu key).exec s).2.cart k =
    quantity s.cart k + if key = k ∧ isInt (price menu key) then 1 else 0 := by
  obtain ⟨r, s', hexec, htap⟩ := addOnPressed_tap menu key s
  rw [hexec]
  cases htap with
  | int hp =>
      rw [quantity_set, quantity_added]
      rcases eq_or_ne k key with rfl | hk
      · simp [hp, isInt]
      · simp [hk, hk.symm]
  | uncast hp => simp [not_isInt hp]

/-- A remove tap takes a unit of its item out if there is one to take. -/
theorem quantity_removeOnPressed : quantity ((removeOnPressed menu key).exec s).2.cart k =
    quantity s.cart k - if key = k ∧ takesUnit menu s.cart key then 1 else 0 := by
  obtain ⟨r, s', hexec, htap⟩ := removeOnPressed_tap menu key s
  rw [hexec]
  cases htap with
  | none hk => simp [takesUnit, hk]
  | zero hk h0 => simp [takesUnit, hk, h0]
  | last hk h1 | lastUncast hk h1 =>
      rw [quantity_remove]
      rcases eq_or_ne k key with rfl | hne
      · simp [takesUnit, hk, h1, quantity_of_get? hk]
      · simp [hne, hne.symm]
  | many hk h0 h1 hp =>
      rw [quantity_set]
      rcases eq_or_ne k key with rfl | hne
      · simp [takesUnit, hk, h0, hp, isInt, quantity_of_get? hk]
      · simp [hne, hne.symm]
  | manyUncast hk h0 h1 hp => simp [takesUnit, hk, h1, not_isInt hp]

end

/-! ## Conservation -/

namespace Screen

variable {s t : Screen} {e : Event} {k : String}

theorem settled_of_nil (h : s.dialogs = []) : s.Settled := by simp [Settled, h]

theorem settled_cons {dialogs : List Dialog} {dialog : Dialog} (h : s.dialogs = dialog :: dialogs) :
    s.Settled ↔ ¬ dialog.IsConfirmed ∧ ∀ d ∈ dialogs, ¬ d.IsConfirmed := by
  simp [Settled, h]

theorem accounted_of_settled (hs : s.Settled) :
    s.accounted k = s.unitsOrdered k + quantity s.cart k := by rw [accounted, if_pos hs]

theorem accounted_of_not_settled (hs : ¬ s.Settled) : s.accounted k = s.unitsOrdered k := by
  rw [accounted, if_neg hs, add_zero]

/-- What is accounted for depends on the orders, the cart and whether the screen
is settled. -/
theorem accounted_congr (ho : t.orders = s.orders) (hc : t.cart = s.cart)
    (hs : t.Settled ↔ s.Settled) : t.accounted k = s.accounted k := by
  simp only [accounted, unitsOrdered, ho, hc, hs]

/-- A step changes the units accounted for by those it adds and removes. -/
theorem accounted_step (hmodal : Modal s e) (hover : NoOverlap s e) (h : Step s e t) :
    t.accounted k = s.accounted k + (unitsAdded k s e - unitsRemoved k s e) := by
  cases e with
  | snapshot data =>
      suffices t.accounted k = s.accounted k by simpa [unitsAdded, unitsRemoved] using this
      obtain rfl := step_snapshot h
      exact accounted_congr rfl rfl Iff.rfl
  | add key =>
      have hs : s.Settled := settled_of_nil (hmodal trivial)
      obtain ⟨-, rfl⟩ := step_add h
      rw [accounted_of_settled (s := s.tap _) hs, accounted_of_settled hs]
      simp only [unitsOrdered, tap, quantity_addOnPressed, unitsAdded, unitsRemoved]
      omega
  | remove key =>
      have hs : s.Settled := settled_of_nil (hmodal trivial)
      obtain ⟨-, rfl⟩ := step_remove h
      rw [accounted_of_settled (s := s.tap _) hs, accounted_of_settled hs]
      simp only [unitsOrdered, tap, quantity_removeOnPressed, unitsAdded, unitsRemoved]
      omega
  | pay =>
      suffices t.accounted k = s.accounted k by simpa [unitsAdded, unitsRemoved] using this
      obtain rfl := step_pay h
      exact accounted_congr rfl rfl Iff.rfl
  | get call r ordId now =>
      obtain ⟨-, rfl⟩ := step_get h
      suffices (s.resumePay call r ordId now).accounted k = s.accounted k by
        simpa [unitsAdded, unitsRemoved] using this
      by_cases hc : s.Covered r
      · -- the cart moves into an order, unless it is empty: then an order of an earlier
        -- call may be waiting for its dialog, and there is nothing to count twice
        have hbefore : s.accounted k = s.unitsOrdered k + quantity s.cart k := by
          by_cases hs : s.Settled
          · exact accounted_of_settled hs
          · have he : s.cart = ∅ := (hover hc).resolve_left hs
            rw [accounted_of_not_settled hs, he, quantity_empty, add_zero]
        have hopen : ¬ (s.resumePay call r ordId now).Settled := by
          rw [resumePay_of_covered hc]
          exact fun hs ↦ hs (.confirmed call) List.mem_cons_self trivial
        rw [accounted_of_not_settled hopen, hbefore, resumePay_of_covered hc]
        simp [unitsOrdered]
      · obtain ⟨opened, hopened, ht⟩ := resumePay_of_not_covered hc
        rw [ht]
        refine accounted_congr rfl rfl ⟨fun hs d hd ↦ hs d (List.mem_append_right _ hd), ?_⟩
        intro hs d hd
        exact (List.mem_append.mp hd).elim (hopened d) (hs d)
  | dismiss =>
      suffices t.accounted k = s.accounted k by simpa [unitsAdded, unitsRemoved] using this
      rcases step_dismiss h with ⟨call, dialogs, hd, rfl⟩ | ⟨dialog, dialogs, hd, hnot, rfl⟩
      · have hopen : ¬ s.Settled := fun hs ↦ ((settled_cons hd).mp hs).1 trivial
        rw [accounted_of_not_settled hopen]
        simp [accounted, unitsOrdered]
      · exact accounted_congr rfl rfl ⟨fun hs ↦ (settled_cons hd).mpr ⟨hnot, hs⟩,
          fun hs ↦ ((settled_cons hd).mp hs).2⟩

/-- An order written while another call waits for its dialog counts the cart a
second time. -/
theorem accounted_step_of_overlap {call : Nat} {r : Reply} {ordId : String} {now : Int}
    (hs : ¬ s.Settled) (hc : s.Covered r) (h : Step s (.get call r ordId now) t) :
    t.accounted k = s.accounted k + quantity s.cart k := by
  obtain ⟨-, rfl⟩ := step_get h
  have hopen : ¬ (s.resumePay call r ordId now).Settled := by
    rw [resumePay_of_covered hc]
    exact fun ht ↦ ht (.confirmed call) List.mem_cons_self trivial
  rw [accounted_of_not_settled hopen, accounted_of_not_settled hs, resumePay_of_covered hc]
  simp [unitsOrdered]

/-- No unit is ordered twice and none is lost: in every run of a screen in which
taps do not reach the page under a dialog and no Pay call writes an order while
another waits for its dialog over a cart with entries, the effective add taps on
an item less the effective remove taps are its units in the cart and in the
orders written, whenever no Pay call is between its write and its reset. -/
theorem units_conserved {username : String} {es : List Event}
    (h : Run (Guarded (fun s e ↦ Modal s e ∧ NoOverlap s e) Step) (initial username) es s)
    (hs : s.Settled) (k : String) :
    total step (unitsAdded k) (initial username) es -
        total step (unitsRemoved k) (initial username) es =
      quantity s.cart k + s.unitsOrdered k := by
  have hinit : (initial username).accounted k = 0 := rfl
  have htotal : s.accounted k = (initial username).accounted k +
      total step (fun s e ↦ unitsAdded k s e - unitsRemoved k s e) (initial username) es :=
    h.total_eq (I := fun _ ↦ True) (fun hR ↦ hR.2) trivial
      fun _ hR ↦ ⟨trivial, accounted_step hR.1.1 hR.1.2 hR.2⟩
  rw [total_sub, hinit, zero_add] at htotal
  rw [← htotal, accounted, if_pos hs, add_comm]

/-- A tea added twice, taken out once, paid and added again. -/
def soldOnce : List Event :=
  [.snapshot (some (singleMenu "tea" 10 true)), .add "tea", .add "tea", .remove "tea", .pay,
    .get 0 (walletReply 50) "a" 0, .dismiss, .add "tea"]

theorem units_conserved_soldOnce :
    total step (unitsAdded "tea") (initial "u") soldOnce -
        total step (unitsRemoved "tea") (initial "u") soldOnce = 1 + 1 :=
  units_conserved (run_guarded_exec_get (by decide)) (by decide) "tea"

/-- A tea added once, and two taps on Pay before the first read completes. -/
def soldTwice : List Event :=
  [.snapshot (some (singleMenu "tea" 10 true)), .add "tea", .pay, .pay,
    .get 0 (walletReply 50) "a" 0, .get 1 (walletReply 50) "b" 0, .dismiss, .dismiss]

/-- The second call finds the cart of the first one, which is reset only when
its dialog is dismissed, and orders it again. -/
theorem not_units_conserved : ¬ ∀ (username : String) (es : List Event) (s : Screen),
    Run (Guarded Modal Step) (initial username) es s → s.Settled → ∀ k,
      total step (unitsAdded k) (initial username) es -
          total step (unitsRemoved k) (initial username) es =
        quantity s.cart k + s.unitsOrdered k := by
  intro h
  have := h "u" soldTwice _ (run_guarded_exec_get (by decide)) (by decide) "tea"
  exact absurd this (by decide)

end Screen

end CollegeCanteens.Menu
