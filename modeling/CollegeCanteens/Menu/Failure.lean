import CollegeCanteens.Menu.Screen

/-!
# Taps and payments that fail

What a handler has assigned before it throws stays assigned, and what a Pay call
has done before its write is rejected stays done: nothing in
`lib/screens/UserHomePage/menu.dart` takes anything back.  So a failure leaves
everything as it was exactly where it comes before the effects:

* of the branches of the two buttons, the one that takes the last unit of an item
  out removes the entry and then casts the price (`unchanged_iff`);
* Pay does not wait for its write, and so goes on to confirm the order and to
  clear the cart whether it is rejected or not (`unharmed_iff`).
-/

namespace CollegeCanteens.Menu

open Transition

/-! ## Taps -/

/-- The buttons of a row. -/
inductive Button where
  | add
  | remove
deriving DecidableEq

/-- The code of a button. -/
def Button.onPressed : Button → MenuMap → String → Handler MenuState Unit
  | .add => addOnPressed
  | .remove => removeOnPressed

/-- The tap leaves the fields as they were if it throws. -/
def Unchanged (button : Button) (menu : MenuMap) (key : String) (s : MenuState) : Prop :=
  ∀ err, ((button.onPressed menu key).exec s).1 = .error err →
    ((button.onPressed menu key).exec s).2 = s

/-- A remove tap on an item of which the cart has one unit and whose price is not
an int. -/
def UncastLast (button : Button) (menu : MenuMap) (key : String) (s : MenuState) : Prop :=
  button = .remove ∧ (∃ entry, s.cart.get? key = some entry ∧ entry.quantity = 1) ∧
    ∀ p, price menu key ≠ .int p

section

variable {button : Button} {menu : MenuMap} {key : String} {s : MenuState}

theorem not_uncastLast_of_int {p : Int64} (hp : price menu key = .int p) :
    ¬ UncastLast button menu key s := by
  rintro ⟨-, -, hnot⟩
  exact hnot p hp

theorem not_uncastLast_of_ne_one {entry : CartEntry} (hk : s.cart.get? key = some entry)
    (h1 : entry.quantity ≠ 1) : ¬ UncastLast button menu key s := by
  rintro ⟨-, ⟨entry', he, hq⟩, -⟩
  obtain rfl := Option.some.inj (hk.symm.trans he)
  exact h1 hq

end

/-- A tap that throws leaves everything as it was, whatever the price field
holds, unless it is a remove tap on the last unit. -/
theorem unchanged_iff {button : Button} {menu : MenuMap} {key : String} {s : MenuState} :
    Unchanged button menu key s ↔ ¬ UncastLast button menu key s := by
  cases button with
  | add =>
      refine iff_of_true (fun err herr ↦ ?_) fun h ↦ by cases h.1
      obtain ⟨r, s', hexec, htap⟩ := addOnPressed_tap menu key s
      simp only [Button.onPressed, hexec] at herr ⊢
      cases htap with
      | int => cases herr
      | uncast => rfl
  | remove =>
      obtain ⟨r, s', hexec, htap⟩ := removeOnPressed_tap menu key s
      simp only [Unchanged, Button.onPressed, hexec]
      cases htap with
      | none hk =>
          refine iff_of_true (fun _ _ ↦ rfl) ?_
          rintro ⟨-, ⟨entry, he, -⟩, -⟩
          cases hk.symm.trans he
      | zero hk h0 =>
          exact iff_of_true (fun _ _ ↦ rfl) (not_uncastLast_of_ne_one hk (by omega))
      | last hk h1 hp =>
          exact iff_of_true (fun _ herr ↦ by cases herr) (not_uncastLast_of_int hp)
      | lastUncast hk h1 hp =>
          refine iff_of_false (fun h ↦ ?_) (not_not_intro ⟨rfl, ⟨_, hk, h1⟩, hp⟩)
          have hcart : s.cart.remove key = s.cart := congrArg MenuState.cart (h _ rfl)
          have hget : (s.cart.remove key).get? key = none := OrderedMap.get?_remove_self
          rw [hcart, hk] at hget
          cases hget
      | many hk h0 h1 hp =>
          exact iff_of_true (fun _ herr ↦ by cases herr) (not_uncastLast_of_int hp)
      | manyUncast hk h0 h1 hp =>
          exact iff_of_true (fun _ _ ↦ rfl) (not_uncastLast_of_ne_one hk h1)

namespace Screen

/-- A tea at 10 in the cart, and a snapshot in which its price is a string. -/
def priceBecomesString : List Event :=
  [.snapshot (some (singleMenu "tea" 10 true)), .add "tea",
    .snapshot (some ((∅ : MenuMap).set "tea"
      (((∅ : Fields).set "Price" (.string "10")).set "isAvailable" (.bool true))))]

/-- The tap that takes the tea out throws, and the tea is gone. -/
theorem not_unchanged_priceBecomesString : ¬ ∀ (username : String) (es : List Event) (s : Screen),
    Run Step (initial username) es s → ∀ button, ∀ key ∈ s.rows,
      Unchanged button s.rows key s.toMenuState := by
  intro h
  have hsame := h "u" priceBecomesString _ (run_exec_get (by decide)) .remove "tea" (by decide)
    .typeError (by rfl)
  exact absurd (congrArg (OrderedMap.keys ∘ MenuState.cart) hsame) (by decide)

end Screen

/-! ## Payments -/

/-- What becomes of the Firebase calls of a Pay call. -/
structure PayOutcome where
  /-- The exception the read of the user's document ends in, if it does. -/
  read : Option DartError
  /-- What the write of the order's document completes with. -/
  write : Except DartError Unit
  /-- `uuid.v4()`. -/
  ordId : String
  /-- `DateTime.now()`. -/
  now : Int

namespace PayOutcome

/-- What the read completes with. -/
def reply (outcome : PayOutcome) (users : OrderedMap String Fields) (username : String) : Reply :=
  match outcome.read with
  | none => .ok (users.get? username)
  | some e => .error e

/-- The collection after the writes of the call. -/
def settle (outcome : PayOutcome) (orders : Orders) (written : List (String × OrderDoc)) : Orders :=
  match outcome.write with
  | .ok () => written.foldl (fun orders order ↦ orders.set order.1 order.2) orders
  | .error _ => orders

end PayOutcome

/-- A Pay call that has ended: the screen, the orders and the dialogs that it has
shown. -/
structure PayEnd where
  screen : Screen
  orders : Orders
  shown : List Dialog

namespace Screen

/-- The end of a Pay call that was tapped on `s` and has resumed: the dismissal of
its dialog, if it has shown one that it waits for, and the outcome of its
write. -/
def endPay (s resumed : Screen) (orders : Orders) (outcome : PayOutcome) : Option PayEnd := do
  let shown := resumed.dialogs.take (resumed.dialogs.length - s.dialogs.length)
  let written := resumed.orders.drop s.orders.length
  let ended ← if .confirmed s.calls ∈ shown then resumed.step .dismiss else some resumed
  return { screen := ended, orders := outcome.settle orders written, shown := shown }

/-- One Pay call from its tap to its end, with no other handler in between. -/
def payCall (s : Screen) (users : OrderedMap String Fields) (orders : Orders)
    (outcome : PayOutcome) : Option PayEnd := do
  let tapped ← s.step .pay
  let resumed ← tapped.step
    (.get s.calls (outcome.reply users s.username) outcome.ordId outcome.now)
  s.endPay resumed orders outcome

end Screen

/-- The ways a Pay call can fail, by the reply to its read and the outcome of its
write. -/
inductive PayFailure (s : MenuState) : Reply → Except DartError Unit → Prop
  | read {e : DartError} {w : Except DartError Unit} : PayFailure s (.error e) w
  | noDocument {w : Except DartError Unit} : PayFailure s (.ok none) w
  | noBalance {user : Fields} {w : Except DartError Unit} :
      (∀ n, user.field "Balance" ≠ .int n) → PayFailure s (.ok (some user)) w
  | write {r : Reply} {e : DartError} : s.Covered r → PayFailure s r (.error e)

/-- A call whose write is not rejected fails before it. -/
theorem not_covered_of_failure {s : MenuState} {r : Reply} (h : PayFailure s r (.ok ())) :
    ¬ s.Covered r := by
  rintro ⟨user, balance, rfl, hb, -⟩
  cases h with
  | noBalance hnot => exact hnot balance hb

/-- The cart, the subtotal and the orders are as they were before the tap, and no
order was confirmed. -/
structure PayEnd.Unharmed (s : Screen) (orders : Orders) (t : PayEnd) : Prop where
  cart : t.screen.cart = s.cart
  subtotal : t.screen.subtotal = s.subtotal
  orders : t.orders = orders
  shown : ∀ dialog ∈ t.shown, ¬ dialog.IsConfirmed

namespace Screen

variable {s : Screen} {users : OrderedMap String Fields} {orders : Orders} {outcome : PayOutcome}

/-- Up to the completion of its read a call touches nothing that its end reads. -/
theorem payCall_eq (hmenu : s.menu.isSome) : ∃ tapped : Screen,
    tapped.toMenuState = s.toMenuState ∧ tapped.dialogs = s.dialogs ∧ tapped.orders = s.orders ∧
      s.payCall users orders outcome = s.endPay (tapped.resumePay s.calls
        (outcome.reply users s.username) outcome.ordId outcome.now) orders outcome := by
  refine ⟨{ s with
    calls := s.calls + 1, reading := s.reading ++ [s.calls]
    reads := s.reads ++ [s.username] }, rfl, rfl, rfl, ?_⟩
  have hpay : s.step .pay = some { s with
      calls := s.calls + 1, reading := s.reading ++ [s.calls]
      reads := s.reads ++ [s.username] } := if_pos hmenu
  simp only [payCall, hpay, Option.bind_eq_bind, Option.bind_some]
  simp only [step, List.mem_append, List.mem_singleton, or_true, if_true, Option.bind_some]

/-- A call whose read is covered confirms its order and clears the cart, whatever
becomes of the write. -/
theorem payCall_of_covered (orders : Orders) (hmenu : s.menu.isSome)
    (hc : s.Covered (outcome.reply users s.username)) :
    ∃ t, s.payCall users orders outcome = some t ∧ t.screen.cart = ∅ ∧ t.screen.subtotal = 0 ∧
      t.shown = [.confirmed s.calls] := by
  obtain ⟨tapped, hstate, hdialogs, -, heq⟩ := payCall_eq hmenu
  rw [heq, resumePay_of_covered (hstate ▸ hc)]
  simp [endPay, step, hdialogs]

/-- Any other call leaves the cart, the subtotal and the orders alone. -/
theorem payCall_of_not_covered (orders : Orders) (hmenu : s.menu.isSome)
    (hc : ¬ s.Covered (outcome.reply users s.username)) :
    ∃ t, s.payCall users orders outcome = some t ∧ t.Unharmed s orders := by
  obtain ⟨tapped, hstate, hdialogs, horders, heq⟩ := payCall_eq hmenu
  obtain ⟨opened, hopened, hresume⟩ := resumePay_of_not_covered (hstate ▸ hc)
  have hnot : .confirmed s.calls ∉ opened := fun hm ↦ hopened _ hm trivial
  have hsettle : outcome.settle orders [] = orders := by
    unfold PayOutcome.settle
    split <;> rfl
  rw [heq, hresume]
  refine ⟨⟨{ tapped with reading := tapped.reading.erase s.calls, dialogs := opened ++ s.dialogs },
    orders, opened⟩, by simp [endPay, hdialogs, horders, hnot, hsettle], ?_⟩
  exact ⟨congrArg MenuState.cart hstate, congrArg MenuState.subtotal hstate, rfl, hopened⟩

/-- A Pay call ends, and if it fails leaves everything as it was, exactly if its
write is not rejected once it has got that far. -/
theorem unharmed_iff (hmenu : s.menu.isSome) : ∃ t, s.payCall users orders outcome = some t ∧
    ((PayFailure s.toMenuState (outcome.reply users s.username) outcome.write →
        t.Unharmed s orders) ↔
      (s.Covered (outcome.reply users s.username) → outcome.write = .ok ())) := by
  by_cases hc : s.Covered (outcome.reply users s.username)
  · obtain ⟨t, ht, -, -, hshown⟩ := payCall_of_covered orders hmenu hc
    have hharmed : ¬ t.Unharmed s orders := fun h ↦
      h.shown (.confirmed s.calls) (by simp [hshown]) trivial
    refine ⟨t, ht, ?_⟩
    cases hw : outcome.write with
    | ok =>
        refine iff_of_true (fun hfail ↦ absurd hc ?_) fun _ ↦ rfl
        exact not_covered_of_failure hfail
    | error e => exact iff_of_false (fun h ↦ hharmed (h (.write hc))) fun h ↦ by cases h hc
  · obtain ⟨t, ht, hunharmed⟩ := payCall_of_not_covered orders hmenu hc
    exact ⟨t, ht, iff_of_true (fun _ ↦ hunharmed) fun h ↦ absurd h hc⟩

/-- A screen with a tea at 10 in the cart. -/
def withTea : Screen :=
  (exec step (initial "u") [.snapshot (some (singleMenu "tea" 10 true)), .add "tea"]).get
    (by decide)

/-- A wallet of 50. -/
def wallets : OrderedMap String Fields :=
  (∅ : OrderedMap String Fields).set "u" ((∅ : Fields).set "Balance" (.int 50))

/-- A write that is rejected. -/
def writeRejected : PayOutcome :=
  { read := none, write := .error .firebaseException, ordId := "a", now := 0 }

theorem unharmed_iff_writeRejected : ∃ t, withTea.payCall wallets ∅ writeRejected = some t ∧
    ((PayFailure withTea.toMenuState (writeRejected.reply wallets withTea.username)
        writeRejected.write → t.Unharmed withTea ∅) ↔
      (withTea.Covered (writeRejected.reply wallets withTea.username) →
        writeRejected.write = .ok ())) :=
  unharmed_iff (by decide)

/-- The cart is gone, and the order is nowhere. -/
theorem not_unharmed_writeRejected : ¬ ∀ (username : String) (es : List Event) (s : Screen),
    Run Step (initial username) es s → ∀ users orders outcome t,
      PayFailure s.toMenuState (outcome.reply users s.username) outcome.write →
        s.payCall users orders outcome = some t → t.Unharmed s orders := by
  intro h
  have hc : withTea.Covered (writeRejected.reply wallets withTea.username) := by decide
  obtain ⟨t, ht, hcart, -, -⟩ := payCall_of_covered ∅ (by decide) hc
  have hkept := h "u" _ withTea (run_exec_get (by decide)) wallets ∅ writeRejected t (.write hc) ht
  have htea : "tea" ∈ withTea.cart := by decide
  rw [← hkept.cart, hcart] at htea
  exact absurd htea OrderedMap.notMem_empty

end Screen

end CollegeCanteens.Menu
