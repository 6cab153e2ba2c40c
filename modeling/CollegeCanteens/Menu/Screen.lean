import CollegeCanteens.Library.Run
import CollegeCanteens.Orders

/-!
# A Menu screen and its Pay calls

One Menu screen as a state machine.  Its events are the snapshots of the
canteen's document, the taps, the completions of the reads that Pay calls wait
for, and the dismissals of dialogs.

A Pay call is suspended twice.  Its id is in `reading` while it waits for its
read of `Users/<username>`; everything from there to the dialog is one
synchronous step, `payAfterGet`, whose branch that writes an order leaves the
call waiting for its dialog, `Dialog.confirmed`, to be dismissed.  Dismissing
it resumes the call, which resets the cart.

Whether a tap can reach the page while a dialog is open is not built into the
machine: the runs that exclude it are those whose steps meet `Modal`.
-/

namespace CollegeCanteens.Menu

open Transition

/-! ## Pay -/

/-- What a Pay call does after its read. -/
inductive PayResult where
  | cartEmpty
  | alert
  | confirmed (order : OrderDoc)
deriving DecidableEq

/-- The part of Pay after the await of `get()`: the casts, the two checks, and
the order that is written if both pass. -/
def payAfterGet (username : String) (s : MenuState) (now : Int) (event : Option Fields) :
    Except DartError PayResult := do
  let user ← dataAsMap event
  let balance ← (user.field "Balance").asInt
  if s.subtotal = 0 then
    return .cartEmpty
  else if balance < s.subtotal then
    return .alert
  else
    return .confirmed (orderDoc username s.subtotal s.cart now)

/-- The reply to the read of a Pay call holds an int balance that covers the
subtotal, and the subtotal is not zero: the branch of Pay that writes an order. -/
def MenuState.Covered (s : MenuState) (r : Reply) : Prop :=
  ∃ user balance, r = .ok (some user) ∧ user.field "Balance" = .int balance ∧
    s.subtotal ≠ 0 ∧ s.subtotal ≤ balance

section

variable {username : String} {s : MenuState} {now : Int} {r : Reply} {order : OrderDoc}

theorem payAfterGet_int {user : Fields} {balance : Int64} (hb : user.field "Balance" = .int balance) :
    payAfterGet username s now (some user) =
      if s.subtotal = 0 then .ok .cartEmpty
      else if balance < s.subtotal then .ok .alert
      else .ok (.confirmed (orderDoc username s.subtotal s.cart now)) := by
  simp only [payAfterGet, dataAsMap, bind, Except.bind, hb, Scalar.asInt]
  rfl

theorem payAfterGet_of_not_int {user : Fields} (hb : ∀ n, user.field "Balance" ≠ .int n) :
    payAfterGet username s now (some user) = .error .typeError := by
  simp only [payAfterGet, dataAsMap, bind, Except.bind, Scalar.asInt_of_not_int hb]

instance (s : MenuState) (r : Reply) : Decidable (s.Covered r) :=
  match r with
  | .ok (some user) =>
    match hb : user.field "Balance" with
    | .int balance =>
      decidable_of_iff (s.subtotal ≠ 0 ∧ s.subtotal ≤ balance)
        ⟨fun h ↦ ⟨user, balance, rfl, hb, h⟩, by
          rintro ⟨user', balance', hr, hb', h⟩
          cases hr
          cases hb.symm.trans hb'
          exact h⟩
    | .null | .bool _ | .double _ | .string _ | .timestamp _ => .isFalse (by
        rintro ⟨_, _, hr, hb', -⟩
        cases hr
        cases hb.symm.trans hb')
  | .ok none | .error _ => .isFalse (by rintro ⟨_, _, hr, -⟩; cases hr)

theorem payAfterGet_of_covered (h : s.Covered r) : (r >>= payAfterGet username s now) =
    .ok (.confirmed (orderDoc username s.subtotal s.cart now)) := by
  obtain ⟨user, balance, rfl, hb, h0, hle⟩ := h
  change payAfterGet username s now (some user) = _
  rw [payAfterGet_int hb, if_neg h0, if_neg (Int64.not_lt.mpr hle)]

/-- Only that branch writes one. -/
theorem covered_of_payAfterGet (h : (r >>= payAfterGet username s now) = .ok (.confirmed order)) :
    s.Covered r := by
  rcases r with e | _ | user
  · cases h
  · cases h
  · change payAfterGet username s now (some user) = _ at h
    by_cases hb : ∃ balance, user.field "Balance" = .int balance
    · obtain ⟨balance, hb⟩ := hb
      rw [payAfterGet_int hb] at h
      split at h
      · cases h
      · split at h
        · cases h
        · exact ⟨user, balance, rfl, hb, ‹_›, Int64.not_lt.mp ‹_›⟩
    · rw [payAfterGet_of_not_int (not_exists.mp hb)] at h
      cases h

end

/-! ## The screen -/

/-- An open dialog; the one of a confirmed order is awaited by its Pay call. -/
inductive Dialog where
  | cartEmpty
  | alert
  | confirmed (call : Nat)
deriving DecidableEq

/-- The dialog of a Pay call that has written its order and not reset the cart. -/
def Dialog.IsConfirmed : Dialog → Prop
  | .confirmed _ => True
  | _ => False

instance : DecidablePred Dialog.IsConfirmed
  | .confirmed _ => .isTrue trivial
  | .cartEmpty | .alert => .isFalse not_false

/-- A Menu screen: its state, what it shows, and its Pay calls under way. -/
structure Screen extends MenuState where
  /-- `widget.usrdata['username']`. -/
  username : String
  /-- The filtered menu of the last build; `none` while there is none to show. -/
  menu : Option MenuMap
  /-- How many Pay calls there have been; the next one has this number. -/
  calls : Nat
  /-- The Pay calls that wait for their read. -/
  reading : List Nat
  /-- The open dialogs, topmost first. -/
  dialogs : List Dialog
  /-- The users whose documents Pay has read. -/
  reads : List String
  /-- The orders written, with their ids. -/
  orders : List (String × OrderDoc)

/-- What can happen on the screen. -/
inductive Event where
  /-- The stream of the canteen's document delivers an error or a `Menu`. -/
  | snapshot (data : Option MenuMap)
  | add (key : String)
  | remove (key : String)
  | pay
  /-- The read of a Pay call completes.  `ordId` and `now` are the values of
  `uuid.v4()` and `DateTime.now()`, should it come to that. -/
  | get (call : Nat) (r : Reply) (ordId : String) (now : Int)
  /-- The topmost dialog is dismissed. -/
  | dismiss
deriving DecidableEq

/-- The taps on the page itself. -/
def Event.IsTap : Event → Prop
  | .add _ | .remove _ | .pay => True
  | _ => False

instance : DecidablePred Event.IsTap
  | .add _ | .remove _ | .pay => .isTrue trivial
  | .snapshot _ | .get _ _ _ _ | .dismiss => .isFalse not_false

/-- The value of an int. -/
def intValue : Scalar → Option Int64
  | .int p => some p
  | _ => none

theorem intValue_eq_some {v : Scalar} {p : Int64} : intValue v = some p ↔ v = .int p := by
  cases v <;> simp [intValue]

/-- Decided by looking at the value, and not at all ints in turn. -/
instance decidableForallMem {q : Int64 → Prop} [DecidablePred q] (o : Option Int64) :
    Decidable (∀ p ∈ o, q p) :=
  Option.decidableForallMem o

/-- A non-negative int. -/
def isPrice : Scalar → Bool
  | .int p => 0 ≤ p
  | _ => false

/-- A snapshot in which every item has a price. -/
def Event.PricesNonneg : Event → Prop
  | .snapshot (some menu) => ∀ item ∈ menu.entries, isPrice (item.2.field "Price")
  | _ => True

instance : DecidablePred Event.PricesNonneg := fun e ↦ by
  unfold Event.PricesNonneg
  split <;> infer_instance

namespace Screen

/-- What a build makes of a snapshot: the menu it shows, or `none` if it shows
none. -/
def shownMenu (data : Option MenuMap) : Option MenuMap :=
  data.bind fun menu ↦ (availableItems menu).toOption

/-- A screen just opened for a user. -/
def initial (username : String) : Screen :=
  { MenuState.initial with
    username := username, menu := none, calls := 0, reading := [], dialogs := [], reads := []
    orders := [] }

/-- The menu whose rows are on the page. -/
def rows (s : Screen) : MenuMap := s.menu.getD ∅

/-- Run the code of a button. -/
def tap (s : Screen) (handler : Handler MenuState Unit) : Screen :=
  { s with toMenuState := (handler.exec s.toMenuState).2 }

/-- A Pay call resumes with the reply to its read. -/
def resumePay (s : Screen) (call : Nat) (r : Reply) (ordId : String) (now : Int) : Screen :=
  let s := { s with reading := s.reading.erase call }
  match r >>= payAfterGet s.username s.toMenuState now with
  | .error _ => s
  | .ok .cartEmpty => { s with dialogs := .cartEmpty :: s.dialogs }
  | .ok .alert => { s with dialogs := .alert :: s.dialogs }
  | .ok (.confirmed order) =>
    { s with orders := s.orders ++ [(ordId, order)], dialogs := .confirmed call :: s.dialogs }

/-- One event; `none` if it cannot happen. -/
def step (s : Screen) : Event → Option Screen
  | .snapshot data => some { s with menu := shownMenu data }
  | .add key => if key ∈ s.rows then some (s.tap (addOnPressed s.rows key)) else none
  | .remove key => if key ∈ s.rows then some (s.tap (removeOnPressed s.rows key)) else none
  | .pay =>
    if s.menu.isSome then
      some { s with
        calls := s.calls + 1, reading := s.reading ++ [s.calls]
        reads := s.reads ++ [s.username] }
    else
      none
  | .get call r ordId now => if call ∈ s.reading then some (s.resumePay call r ordId now) else none
  | .dismiss =>
    match s.dialogs with
    | [] => none
    | .confirmed _ :: dialogs => some { s with dialogs := dialogs, subtotal := 0, cart := ∅ }
    | _ :: dialogs => some { s with dialogs := dialogs }

/-- The steps of the machine. -/
abbrev Step : Screen → Event → Screen → Prop := Fires step

/-- No Pay call is between its order write and its cart reset. -/
def Settled (s : Screen) : Prop := ∀ dialog ∈ s.dialogs, ¬ dialog.IsConfirmed

instance (s : Screen) : Decidable s.Settled :=
  inferInstanceAs (Decidable (∀ dialog ∈ s.dialogs, ¬ dialog.IsConfirmed))

/-- A tap reaches the page only while no dialog is open. -/
def Modal (s : Screen) (e : Event) : Prop := e.IsTap → s.dialogs = []

instance (s : Screen) (e : Event) : Decidable (Modal s e) :=
  inferInstanceAs (Decidable (e.IsTap → s.dialogs = []))

/-- The topmost dialog is that of a confirmed order. -/
def resets (s : Screen) : Bool := ∃ dialog ∈ s.dialogs.head?, dialog.IsConfirmed

/-- The events that may change the cart and the subtotal: the taps on a row, and
the dismissal of the dialog of a confirmed order. -/
def Edits (s : Screen) : Event → Prop
  | .add _ | .remove _ => True
  | .dismiss => s.resets
  | _ => False

/-! ## What each event does -/

variable {s t : Screen} {key ordId : String} {call : Nat} {r : Reply} {now : Int}
  {data : Option MenuMap}

/-- What a snapshot shows is in it, and available. -/
theorem get?_shownMenu {item : Fields} (h : ((shownMenu data).getD ∅).get? key = some item) :
    ∃ menu, data = some menu ∧ menu.get? key = some item ∧ isAvailable item := by
  rcases data with _ | menu
  · cases h
  · change ((availableItems menu).toOption.getD ∅).get? key = some item at h
    cases hsub : availableItems menu with
    | error e =>
        rw [hsub] at h
        cases h
    | ok submenu =>
        rw [hsub, availableItems_eq hsub] at h
        obtain ⟨hmem, hav⟩ := List.mem_filter.mp (OrderedMap.get?_eq_some_iff.mp h)
        exact ⟨menu, rfl, OrderedMap.get?_eq_some_iff.mpr hmem, hav⟩

theorem step_snapshot (h : s.step (.snapshot data) = some t) :
    t = { s with menu := shownMenu data } :=
  (Option.some.inj h).symm

theorem step_add (h : s.step (.add key) = some t) :
    key ∈ s.rows ∧ t = s.tap (addOnPressed s.rows key) := by
  simp only [step] at h
  split at h
  · exact ⟨‹_›, (Option.some.inj h).symm⟩
  · cases h

theorem step_remove (h : s.step (.remove key) = some t) :
    key ∈ s.rows ∧ t = s.tap (removeOnPressed s.rows key) := by
  simp only [step] at h
  split at h
  · exact ⟨‹_›, (Option.some.inj h).symm⟩
  · cases h

theorem step_pay (h : s.step .pay = some t) :
    t = { s with
      calls := s.calls + 1, reading := s.reading ++ [s.calls]
      reads := s.reads ++ [s.username] } := by
  simp only [step] at h
  split at h
  · exact (Option.some.inj h).symm
  · cases h

theorem step_get (h : s.step (.get call r ordId now) = some t) :
    call ∈ s.reading ∧ t = s.resumePay call r ordId now := by
  simp only [step] at h
  split at h
  · exact ⟨‹_›, (Option.some.inj h).symm⟩
  · cases h

/-- A Pay call that waits for its read may resume at any time. -/
theorem get_of_mem (h : call ∈ s.reading) :
    Step s (.get call r ordId now) (s.resumePay call r ordId now) := by
  simp only [Fires, step, if_pos h]

/-- A dismissal takes the topmost dialog away, and resets the cart if it was the
one of a confirmed order. -/
theorem step_dismiss (h : s.step .dismiss = some t) :
    (∃ call dialogs, s.dialogs = .confirmed call :: dialogs ∧
      t = { s with dialogs := dialogs, subtotal := 0, cart := ∅ }) ∨
    ∃ dialog dialogs, s.dialogs = dialog :: dialogs ∧ ¬ dialog.IsConfirmed ∧
      t = { s with dialogs := dialogs } := by
  simp only [step] at h
  split at h
  · cases h
  · exact .inl ⟨_, _, ‹_›, (Option.some.inj h).symm⟩
  · rename_i dialog dialogs hne hd
    refine .inr ⟨dialog, dialogs, hd, ?_, (Option.some.inj h).symm⟩
    cases dialog with
    | confirmed call => exact absurd rfl (hne call)
    | cartEmpty | alert => exact not_false

theorem resumePay_of_covered (h : s.Covered r) :
    s.resumePay call r ordId now = { s with
      reading := s.reading.erase call
      orders := s.orders ++ [(ordId, orderDoc s.username s.subtotal s.cart now)]
      dialogs := .confirmed call :: s.dialogs } := by
  simp only [resumePay, payAfterGet_of_covered h]

/-- A call that writes no order ends, with a dialog at most. -/
theorem resumePay_of_not_covered (h : ¬ s.Covered r) :
    ∃ opened : List Dialog, (∀ dialog ∈ opened, ¬ dialog.IsConfirmed) ∧
      s.resumePay call r ordId now =
        { s with reading := s.reading.erase call, dialogs := opened ++ s.dialogs } := by
  simp only [resumePay]
  split
  · exact ⟨[], by simp, rfl⟩
  · exact ⟨[.cartEmpty], by simp [Dialog.IsConfirmed], rfl⟩
  · exact ⟨[.alert], by simp [Dialog.IsConfirmed], rfl⟩
  · exact absurd (covered_of_payAfterGet ‹_›) h

/-! ### What a resumed call leaves alone -/

@[simp] theorem resumePay_toMenuState :
    (s.resumePay call r ordId now).toMenuState = s.toMenuState := by
  simp only [resumePay]
  split <;> rfl

@[simp] theorem resumePay_username : (s.resumePay call r ordId now).username = s.username := by
  simp only [resumePay]
  split <;> rfl

@[simp] theorem resumePay_menu : (s.resumePay call r ordId now).menu = s.menu := by
  simp only [resumePay]
  split <;> rfl

@[simp] theorem resumePay_reads : (s.resumePay call r ordId now).reads = s.reads := by
  simp only [resumePay]
  split <;> rfl

@[simp] theorem resumePay_reading :
    (s.resumePay call r ordId now).reading = s.reading.erase call := by
  simp only [resumePay]
  split <;> rfl

/-! ### What changes in a step -/

variable {e : Event}

theorem username_step (h : Step s e t) : t.username = s.username := by
  cases e with
  | snapshot data => rw [step_snapshot h]
  | add key => rw [(step_add h).2, tap]
  | remove key => rw [(step_remove h).2, tap]
  | pay => rw [step_pay h]
  | get call r ordId now =>
      rw [(step_get h).2, resumePay_username]
  | dismiss => rcases step_dismiss h with ⟨_, _, -, rfl⟩ | ⟨_, _, -, -, rfl⟩ <;> rfl

/-- The rows change only when a snapshot is delivered. -/
theorem rows_step (h : Step s e t) :
    t.rows = s.rows ∨ ∃ data, e = .snapshot data ∧ t.rows = (shownMenu data).getD ∅ := by
  cases e with
  | snapshot data => exact .inr ⟨data, rfl, by rw [step_snapshot h]; rfl⟩
  | add key => exact .inl (by rw [(step_add h).2]; rfl)
  | remove key => exact .inl (by rw [(step_remove h).2]; rfl)
  | pay => exact .inl (by rw [step_pay h]; rfl)
  | get call r ordId now => exact .inl (by rw [(step_get h).2, rows, resumePay_menu, rows])
  | dismiss => rcases step_dismiss h with ⟨_, _, -, rfl⟩ | ⟨_, _, -, -, rfl⟩ <;> exact .inl rfl

/-- Only a tap on Pay reads a wallet, that of the screen's user. -/
theorem reads_step (h : Step s e t) : t.reads = s.reads ∨ t.reads = s.reads ++ [s.username] := by
  cases e with
  | snapshot data => exact .inl (by rw [step_snapshot h])
  | add key => exact .inl (by rw [(step_add h).2, tap])
  | remove key => exact .inl (by rw [(step_remove h).2, tap])
  | pay => exact .inr (by rw [step_pay h])
  | get call r ordId now => exact .inl (by rw [(step_get h).2, resumePay_reads])
  | dismiss => rcases step_dismiss h with ⟨_, _, -, rfl⟩ | ⟨_, _, -, -, rfl⟩ <;> exact .inl rfl

/-- An order is written by a Pay call whose read completes with a balance that
covers the subtotal, and holds the cart and the subtotal of that moment. -/
theorem orders_step (h : Step s e t) : t.orders = s.orders ∨
    ∃ call r ordId now, e = .get call r ordId now ∧ s.Covered r ∧
      t.orders = s.orders ++ [(ordId, orderDoc s.username s.subtotal s.cart now)] := by
  cases e with
  | snapshot data => exact .inl (by rw [step_snapshot h])
  | add key => exact .inl (by rw [(step_add h).2, tap])
  | remove key => exact .inl (by rw [(step_remove h).2, tap])
  | pay => exact .inl (by rw [step_pay h])
  | get call r ordId now =>
      obtain ⟨-, rfl⟩ := step_get h
      by_cases hc : s.Covered r
      · exact .inr ⟨call, r, ordId, now, rfl, hc, by rw [resumePay_of_covered hc]⟩
      · obtain ⟨_, -, ht⟩ := resumePay_of_not_covered hc
        exact .inl (by rw [ht])
  | dismiss => rcases step_dismiss h with ⟨_, _, -, rfl⟩ | ⟨_, _, -, -, rfl⟩ <;> exact .inl rfl

/-- What an event does to the cart and the subtotal. -/
inductive Change (s : Screen) : Event → MenuState → Prop
  | add {key : String} {r : Except DartError Unit} {m : MenuState} : key ∈ s.rows →
      AddTap s.rows key s.toMenuState r m → Change s (.add key) m
  | remove {key : String} {r : Except DartError Unit} {m : MenuState} : key ∈ s.rows →
      RemoveTap s.rows key s.toMenuState r m → Change s (.remove key) m
  | /-- A Pay call resets them. -/
    reset : s.resets → Change s .dismiss .initial
  | none {e : Event} : ¬ Edits s e → Change s e s.toMenuState

theorem change_step (h : Step s e t) : ∃ m, t.toMenuState = m ∧ Change s e m := by
  cases e with
  | snapshot data => exact ⟨_, by rw [step_snapshot h], .none not_false⟩
  | add key =>
      obtain ⟨hrow, rfl⟩ := step_add h
      obtain ⟨r, m, hexec, htap⟩ := addOnPressed_tap s.rows key s.toMenuState
      exact ⟨m, by rw [tap, hexec], .add hrow htap⟩
  | remove key =>
      obtain ⟨hrow, rfl⟩ := step_remove h
      obtain ⟨r, m, hexec, htap⟩ := removeOnPressed_tap s.rows key s.toMenuState
      exact ⟨m, by rw [tap, hexec], .remove hrow htap⟩
  | pay => exact ⟨_, by rw [step_pay h], .none not_false⟩
  | get call r ordId now =>
      exact ⟨_, by rw [(step_get h).2, resumePay_toMenuState], .none not_false⟩
  | dismiss =>
      rcases step_dismiss h with ⟨_, _, hd, rfl⟩ | ⟨_, _, hd, hnot, rfl⟩
      · exact ⟨_, rfl, .reset (by simp [resets, hd, Dialog.IsConfirmed])⟩
      · exact ⟨_, rfl, .none (by simpa [Edits, resets, hd] using hnot)⟩

/-- The rows keep a property that every item of every snapshot has. -/
theorem rows_all_step {q : String → Fields → Prop} (h : Step s e t) (hs : s.rows.All q)
    (he : ∀ menu, e = .snapshot (some menu) → menu.All q) : t.rows.All q := by
  rcases rows_step h with heq | ⟨data, rfl, heq⟩
  · rwa [heq]
  · rw [heq]
    intro k item hitem
    obtain ⟨menu, rfl, hmenu, -⟩ := get?_shownMenu hitem
    exact he menu rfl k item hmenu

/-- Every order was written by the completion of a Pay call's read, with the cart
and the subtotal of that moment. -/
theorem order_of_mem {username : String} {es : List Event} (h : Run Step (initial username) es s)
    {order : String × OrderDoc} (ho : order ∈ s.orders) : ∃ pre call r now post a,
      es = pre ++ .get call r order.1 now :: post ∧ Run Step (initial username) pre a ∧
        call ∈ a.reading ∧ a.Covered r ∧
        order.2 = orderDoc a.username a.subtotal a.cart now := by
  obtain ⟨pre, e, post, a, b, rfl, ha, hab, hna, hb, -⟩ :=
    h.exists_entry (P := fun s ↦ order ∈ s.orders) List.not_mem_nil ho
  rcases orders_step hab with heq | ⟨call, r, ordId, now, rfl, hc, heq⟩
  · exact absurd (heq ▸ hb) hna
  · rw [heq] at hb
    obtain rfl := List.mem_singleton.mp ((List.mem_append.mp hb).resolve_left hna)
    exact ⟨pre, call, r, now, post, a, rfl, ha, (step_get hab).1, hc, rfl⟩

/-- The orders written keep a property that every order written next has. -/
theorem orders_all_step (q : OrderDoc → Prop) (h : Step s e t) (hs : ∀ order ∈ s.orders, q order.2)
    (hq : ∀ r now, s.Covered r → q (orderDoc s.username s.subtotal s.cart now)) :
    ∀ order ∈ t.orders, q order.2 := by
  rcases orders_step h with heq | ⟨_, r, _, now, -, hc, heq⟩
  · rwa [heq]
  · intro order ho
    rw [heq] at ho
    rcases List.mem_append.mp ho with ho | ho
    · exact hs order ho
    · obtain rfl := List.mem_singleton.mp ho
      exact hq r now hc

/-- Orders are only ever added. -/
theorem orders_append (h : Step s e t) : t.orders = s.orders ++ t.orders.drop s.orders.length := by
  rcases orders_step h with heq | ⟨_, _, _, _, -, -, heq⟩ <;> simp [heq]

end Screen

/-! ## Menus and a wallet to run on -/

/-- A menu of one item. -/
def singleMenu (key : String) (price : Int64) (available : Bool) : MenuMap :=
  (∅ : MenuMap).set key
    (((∅ : Fields).set "Price" (.int price)).set "isAvailable" (.bool available))

/-- A reply with the document of a user. -/
def walletReply (balance : Int64) : Reply :=
  .ok (some (((∅ : Fields).set "isAdmin" (.bool false)).set "Balance" (.int balance)))

/-- Two teas at 2^62, whose prices do not fit into one int. -/
def dearTeas : List Event :=
  [.snapshot (some (singleMenu "tea" 4611686018427387904 true)), .add "tea", .add "tea"]

end CollegeCanteens.Menu
