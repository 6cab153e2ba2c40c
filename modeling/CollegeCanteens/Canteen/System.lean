import CollegeCanteens.Canteen.OrderStore
import CollegeCanteens.Library.FixedWidth
import CollegeCanteens.Menu.Screen
import CollegeCanteens.SignIn

/-!
# The canteen: screens, sign-ins and the documents they share

The collections `Users` and `Orders` and everything that reads or writes them:
Menu screens on any number of devices, calls of the sign-in handler, admins with
lists of pending orders, recharges, and whoever else may write `Users`.

A read is answered by the server at one moment (`serve`) and its answer reaches
the call that waits for it at a later one (`resume`).  A write to `Orders` is
sent at one moment and lands at a later one, in any order with the others; the
app waits for none of them.
-/

namespace CollegeCanteens.Canteen

open Transition Menu SignIn FixedWidth

/-- A call of the sign-in handler, and the answer to its read if there is one
that has not reached it. -/
structure Call where
  await : Await
  reply : Option Reply

/-- The documents, and all that is going on. -/
structure System extends Store where
  users : OrderedMap String Fields
  /-- The Menu screens. -/
  screens : Nat → Screen
  /-- The answers to reads of Pay calls, by screen and call, that have not
  reached them. -/
  replies : OrderedMap (Nat × Nat) Reply
  /-- The calls of the sign-in handler. -/
  signIns : OrderedMap Nat Call

/-- What can happen. -/
inductive Event where
  /-- Anything on a Menu screen but the completion of a read. -/
  | screen (i : Nat) (e : Menu.Event)
  /-- The server answers the read of a Pay call, or the read fails. -/
  | serve (i call : Nat) (err : Option DartError)
  /-- The answer reaches the Pay call. -/
  | resume (i call : Nat) (ordId : String) (now : Int)
  /-- A write to `Orders` lands. -/
  | land (n : Nat)
  /-- A Pending list shows what its query returns. -/
  | list
  /-- A check tap on an order in a Pending list, however old. -/
  | check (admin : Nat) (id : String)
  /-- A call of the sign-in handler starts. -/
  | signIn (call : Nat)
  | authenticate (call : Nat) (reply : Except DartError Bool) (currentUser : Option String)
  /-- The server answers the read of a sign-in, or the read fails. -/
  | serveSignIn (call : Nat) (err : Option DartError)
  | resumeSignIn (call : Nat)
  /-- The `set` of a sign-in lands, or is rejected. -/
  | landSignIn (call : Nat) (err : Option DartError)
  /-- A positive amount is added to a Balance. -/
  | recharge (user : String) (amount : Int)
  /-- Another writer sets a document of `Users`, or deletes it. -/
  | otherWrite (user : String) (doc : Option Fields)

/-- The completion of the read of a Pay call. -/
def IsGet : Menu.Event → Prop
  | .get _ _ _ _ => True
  | _ => False

instance : DecidablePred IsGet
  | .get _ _ _ _ => .isTrue trivial
  | .snapshot _ | .add _ | .remove _ | .pay | .dismiss => .isFalse not_false

/-- The document after a recharge, if it has a Balance to recharge, and one that has
room for the amount. -/
def recharged (doc : Fields) (amount : Int) : Option Fields :=
  match doc.field "Balance" with
  | .int balance =>
    if 0 < amount ∧ Fits (balance.toInt + amount) then
      some (doc.set "Balance" (.int (.ofInt (balance.toInt + amount))))
    else
      none
  | _ => none

/-- The steps of a sign-in. -/
def Event.IsSignIn : Event → Prop
  | .signIn _ | .authenticate _ _ _ | .serveSignIn _ _ | .resumeSignIn _ | .landSignIn _ _ => True
  | _ => False

namespace System

/-- No order yet, and screen `i` is opened for `username i`. -/
def initial (users : OrderedMap String Fields) (username : Nat → String) : System :=
  { Store.initial with
    users := users, screens := fun i ↦ .initial (username i), replies := ∅, signIns := ∅ }

/-- What the server answers to the read of a document, or the exception the read
ends in. -/
def answer (s : System) (user : String) (err : Option DartError) : Reply :=
  match err with
  | none => .ok (s.users.get? user)
  | some e => .error e

/-- A screen has changed; the orders that it has written are sent. -/
def put (s : System) (i : Nat) (screen : Screen) : System :=
  { s with
    toStore := s.send (screen.orders.drop (s.screens i).orders.length)
    screens := Function.update s.screens i screen }

/-- A step of a screen. -/
def onScreen (s : System) (i : Nat) (e : Menu.Event) : Option System :=
  ((s.screens i).step e).map (s.put i)

/-- A sign-in call goes on to its next await, or ends. -/
def advance (s : System) (call : Nat) : Except DartError (Option Await) → System
  | .ok (some await) => { s with signIns := s.signIns.set call ⟨await, none⟩ }
  | _ => { s with signIns := s.signIns.remove call }

/-- One event; `none` if it cannot happen. -/
def step (s : System) : Event → Option System
  | .screen i e => if IsGet e then none else s.onScreen i e
  | .serve i call err =>
    if call ∈ (s.screens i).reading ∧ (i, call) ∉ s.replies then
      some { s with replies := s.replies.set (i, call) (s.answer (s.screens i).username err) }
    else
      none
  | .resume i call ordId now =>
    match s.replies.get? (i, call) with
    | none => none
    | some r =>
      if ordId ∈ s.issued then
        none
      else
        { s with toStore := s.issue ordId, replies := s.replies.remove (i, call) }.onScreen i
          (.get call r ordId now)
  | .land n => (s.toStore.land n).map fun store ↦ { s with toStore := store }
  | .list => some { s with toStore := s.toStore.list }
  | .check _ id => (s.toStore.check id).map fun store ↦ { s with toStore := store }
  | .signIn call =>
    if call ∈ s.signIns then none
    else some { s with signIns := s.signIns.set call ⟨.signInWithCredential, none⟩ }
  | .authenticate call reply currentUser =>
    match s.signIns.get? call with
    | some ⟨.signInWithCredential, _⟩ =>
      some (s.advance call (afterSignInWithCredential reply currentUser))
    | _ => none
  | .serveSignIn call err =>
    match s.signIns.get? call with
    | some ⟨.get phone, none⟩ =>
      some { s with signIns := s.signIns.set call ⟨.get phone, some (s.answer phone err)⟩ }
    | _ => none
  | .resumeSignIn call =>
    match s.signIns.get? call with
    | some ⟨.get phone, some reply⟩ => some (s.advance call (afterGet phone reply))
    | _ => none
  | .landSignIn call err =>
    match s.signIns.get? call with
    | some ⟨.set phone, _⟩ =>
      match err with
      | none => some ({ s with users := s.users.set phone newUser }.advance call (afterSet (.ok ())))
      | some e => some (s.advance call (afterSet (.error e)))
    | _ => none
  | .recharge user amount =>
    ((s.users.get? user).bind fun doc ↦ recharged doc amount).map fun doc ↦
      { s with users := s.users.set user doc }
  | .otherWrite user doc =>
    some { s with users := doc.elim (s.users.remove user) (s.users.set user) }

/-- The steps of the machine. -/
abbrev Step : System → Event → System → Prop := Fires step

/-! ## What each event does -/

variable {s t : System} {e : Event} {i call n : Nat} {screenEvent : Menu.Event} {screen : Screen}
  {ordId user : String} {now amount : Int} {err : Option DartError} {doc : Option Fields}

theorem step_screen (h : s.step (.screen i screenEvent) = some t) : ¬ IsGet screenEvent ∧
    ∃ screen, Screen.Step (s.screens i) screenEvent screen ∧ t = s.put i screen := by
  simp only [step] at h
  split at h
  · cases h
  · obtain ⟨screen, hscreen, rfl⟩ := Option.map_eq_some_iff.mp h
    exact ⟨‹_›, screen, hscreen, rfl⟩

theorem step_serve (h : s.step (.serve i call err) = some t) : call ∈ (s.screens i).reading ∧
    t = { s with replies := s.replies.set (i, call) (s.answer (s.screens i).username err) } := by
  simp only [step] at h
  split at h
  · exact ⟨(‹_ ∧ _›).1, (Option.some.inj h).symm⟩
  · cases h

theorem step_resume (h : s.step (.resume i call ordId now) = some t) :
    ∃ r screen, s.replies.get? (i, call) = some r ∧ ordId ∉ s.issued ∧
      Screen.Step (s.screens i) (.get call r ordId now) screen ∧
      t = { s with toStore := s.issue ordId, replies := s.replies.remove (i, call) }.put i
        screen := by
  simp only [step] at h
  split at h
  · cases h
  · split at h
    · cases h
    · obtain ⟨screen, hscreen, rfl⟩ := Option.map_eq_some_iff.mp h
      exact ⟨_, screen, ‹_›, ‹_›, hscreen, rfl⟩

theorem step_land (h : s.step (.land n) = some t) :
    ∃ store, s.toStore.land n = some store ∧ t = { s with toStore := store } := by
  obtain ⟨store, hstore, rfl⟩ := Option.map_eq_some_iff.mp h
  exact ⟨store, hstore, rfl⟩

theorem step_list (h : s.step .list = some t) : t = { s with toStore := s.toStore.list } :=
  (Option.some.inj h).symm

theorem step_check {admin : Nat} {id : String} (h : s.step (.check admin id) = some t) :
    ∃ store, s.toStore.check id = some store ∧ t = { s with toStore := store } := by
  obtain ⟨store, hstore, rfl⟩ := Option.map_eq_some_iff.mp h
  exact ⟨store, hstore, rfl⟩

theorem step_signIn (h : s.step (.signIn call) = some t) : call ∉ s.signIns ∧
    t = { s with signIns := s.signIns.set call ⟨.signInWithCredential, none⟩ } := by
  simp only [step] at h
  split at h
  · cases h
  · exact ⟨‹_›, (Option.some.inj h).symm⟩

theorem step_authenticate {reply : Except DartError Bool} {currentUser : Option String}
    (h : s.step (.authenticate call reply currentUser) = some t) :
    t = s.advance call (afterSignInWithCredential reply currentUser) := by
  simp only [step] at h
  split at h
  · exact (Option.some.inj h).symm
  · cases h

theorem step_serveSignIn (h : s.step (.serveSignIn call err) = some t) :
    ∃ phone, s.signIns.get? call = some ⟨.get phone, none⟩ ∧
      t = { s with
        signIns := s.signIns.set call ⟨.get phone, some (s.answer phone err)⟩ } := by
  simp only [step] at h
  split at h
  · exact ⟨_, ‹_›, (Option.some.inj h).symm⟩
  · cases h

theorem step_resumeSignIn (h : s.step (.resumeSignIn call) = some t) :
    ∃ phone reply, s.signIns.get? call = some ⟨.get phone, some reply⟩ ∧
      t = s.advance call (afterGet phone reply) := by
  simp only [step] at h
  split at h
  · exact ⟨_, _, ‹_›, (Option.some.inj h).symm⟩
  · cases h

theorem step_landSignIn (h : s.step (.landSignIn call err) = some t) :
    ∃ phone reply, s.signIns.get? call = some ⟨.set phone, reply⟩ ∧
      (err = none ∧ t = { s with users := s.users.set phone newUser }.advance call
          (.ok (some .pushReplacementNamed)) ∨
        ∃ e, err = some e ∧ t = s.advance call (.error e)) := by
  simp only [step] at h
  split at h
  · rename_i phone reply hcall
    refine ⟨phone, reply, hcall, ?_⟩
    cases err with
    | none => exact .inl ⟨rfl, (Option.some.inj h).symm⟩
    | some e => exact .inr ⟨e, rfl, (Option.some.inj h).symm⟩
  · cases h

theorem step_recharge (h : s.step (.recharge user amount) = some t) :
    ∃ doc doc', s.users.get? user = some doc ∧ recharged doc amount = some doc' ∧
      t = { s with users := s.users.set user doc' } := by
  obtain ⟨doc', hdoc', rfl⟩ := Option.map_eq_some_iff.mp h
  obtain ⟨doc, hdoc, hre⟩ := Option.bind_eq_some_iff.mp hdoc'
  exact ⟨doc, doc', hdoc, hre, rfl⟩

theorem step_otherWrite (h : s.step (.otherWrite user doc) = some t) :
    t = { s with users := doc.elim (s.users.remove user) (s.users.set user) } :=
  (Option.some.inj h).symm

/-! ## Which events change what -/

section Advance

variable {next : Except DartError (Option Await)}

@[simp] theorem advance_users : (s.advance call next).users = s.users := by
  unfold advance; split <;> rfl

@[simp] theorem advance_toStore : (s.advance call next).toStore = s.toStore := by
  unfold advance; split <;> rfl

@[simp] theorem advance_screens : (s.advance call next).screens = s.screens := by
  unfold advance; split <;> rfl

@[simp] theorem advance_replies : (s.advance call next).replies = s.replies := by
  unfold advance; split <;> rfl

end Advance

@[simp] theorem put_screens_self : (s.put i screen).screens i = screen :=
  Function.update_self ..

theorem put_screens_of_ne {j : Nat} (h : j ≠ i) : (s.put i screen).screens j = s.screens j :=
  Function.update_of_ne h ..

/-- A screen changes by a step of its own, and the completion of a read is one
that has been answered. -/
theorem screen_step (h : Step s e t) (i : Nat) : t.screens i = s.screens i ∨
    (∃ screenEvent, e = .screen i screenEvent ∧ ¬ IsGet screenEvent ∧
      Screen.Step (s.screens i) screenEvent (t.screens i)) ∨
    ∃ call r ordId now, e = .resume i call ordId now ∧ s.replies.get? (i, call) = some r ∧
      Screen.Step (s.screens i) (.get call r ordId now) (t.screens i) := by
  cases e with
  | screen j screenEvent =>
      obtain ⟨hget, screen, hscreen, rfl⟩ := step_screen h
      rcases eq_or_ne i j with rfl | hne
      · exact .inr (.inl ⟨screenEvent, rfl, hget, by simpa using hscreen⟩)
      · exact .inl (put_screens_of_ne hne)
  | resume j call ordId now =>
      obtain ⟨r, screen, hr, -, hscreen, rfl⟩ := step_resume h
      rcases eq_or_ne i j with rfl | hne
      · exact .inr (.inr ⟨call, r, ordId, now, rfl, hr, by simpa using hscreen⟩)
      · exact .inl (put_screens_of_ne hne)
  | serve j call err => exact .inl (by rw [(step_serve h).2])
  | land n =>
      obtain ⟨store, -, rfl⟩ := step_land h
      exact .inl rfl
  | list => exact .inl (by rw [step_list h])
  | check admin id =>
      obtain ⟨store, -, rfl⟩ := step_check h
      exact .inl rfl
  | signIn call => exact .inl (by rw [(step_signIn h).2])
  | authenticate call reply currentUser => exact .inl (by rw [step_authenticate h, advance_screens])
  | serveSignIn call err =>
      obtain ⟨phone, -, rfl⟩ := step_serveSignIn h
      exact .inl rfl
  | resumeSignIn call =>
      obtain ⟨phone, reply, -, rfl⟩ := step_resumeSignIn h
      exact .inl (by rw [advance_screens])
  | landSignIn call err =>
      obtain ⟨phone, reply, -, ⟨-, rfl⟩ | ⟨e, -, rfl⟩⟩ := step_landSignIn h <;>
        exact .inl (by rw [advance_screens])
  | recharge user amount =>
      obtain ⟨doc, doc', -, -, rfl⟩ := step_recharge h
      exact .inl rfl
  | otherWrite user doc => exact .inl (by rw [step_otherWrite h])

theorem username_step (h : Step s e t) (i : Nat) :
    (t.screens i).username = (s.screens i).username := by
  rcases screen_step h i with heq | ⟨_, -, -, hstep⟩ | ⟨_, _, _, _, -, -, hstep⟩
  · rw [heq]
  · exact Screen.username_step hstep
  · exact Screen.username_step hstep

/-- An order is written when the answer to the read of a Pay call reaches it and
covers the subtotal, and has the cart and the subtotal of that moment. -/
theorem order_step (h : Step s e t) {order : String × OrderDoc}
    (ht : order ∈ (t.screens i).orders) (hs : order ∉ (s.screens i).orders) :
    ∃ call r now, e = .resume i call order.1 now ∧ s.replies.get? (i, call) = some r ∧
      (s.screens i).Covered r ∧ order.2 =
        orderDoc (s.screens i).username (s.screens i).subtotal (s.screens i).cart now := by
  rcases screen_step h i with heq | ⟨screenEvent, -, hget, hstep⟩ | ⟨call, r, ordId, now, rfl, hr, hstep⟩
  · exact absurd (heq ▸ ht) hs
  · rcases Screen.orders_step hstep with heq | ⟨_, _, _, _, rfl, -, -⟩
    · exact absurd (heq ▸ ht) hs
    · exact absurd trivial hget
  · rcases Screen.orders_step hstep with heq | ⟨_, _, _, _, he, hc, heq⟩
    · exact absurd (heq ▸ ht) hs
    · cases he
      rw [heq] at ht
      obtain rfl := List.mem_singleton.mp ((List.mem_append.mp ht).resolve_left hs)
      exact ⟨call, r, now, rfl, hr, hc, rfl⟩

/-- The answer to the read of a Pay call is what the server had when it answered. -/
theorem reply_step (h : Step s e t) {r : Reply} (ht : t.replies.get? (i, call) = some r)
    (hs : s.replies.get? (i, call) ≠ some r) : ∃ err, e = .serve i call err ∧
      call ∈ (s.screens i).reading ∧ r = s.answer (s.screens i).username err := by
  cases e with
  | serve j call' err =>
      obtain ⟨hread, rfl⟩ := step_serve h
      rw [OrderedMap.get?_set] at ht
      split at ht
      · obtain ⟨rfl, rfl⟩ := Prod.mk.inj ‹(i, call) = (j, call')›
        exact ⟨err, rfl, hread, (Option.some.inj ht).symm⟩
      · exact absurd ht hs
  | screen j screenEvent =>
      obtain ⟨-, screen, -, rfl⟩ := step_screen h
      exact absurd ht hs
  | resume j call' ordId now =>
      obtain ⟨r', screen, -, -, -, rfl⟩ := step_resume h
      change (s.replies.remove (j, call')).get? (i, call) = some r at ht
      rw [OrderedMap.get?_remove] at ht
      split at ht
      · cases ht
      · exact absurd ht hs
  | land n =>
      obtain ⟨store, -, rfl⟩ := step_land h
      exact absurd ht hs
  | list => exact absurd (by rwa [step_list h] at ht) hs
  | check admin id =>
      obtain ⟨store, -, rfl⟩ := step_check h
      exact absurd ht hs
  | signIn call => exact absurd (by rwa [(step_signIn h).2] at ht) hs
  | authenticate call reply currentUser =>
      exact absurd (by rwa [step_authenticate h, advance_replies] at ht) hs
  | serveSignIn call err =>
      obtain ⟨phone, -, rfl⟩ := step_serveSignIn h
      exact absurd ht hs
  | resumeSignIn call =>
      obtain ⟨phone, reply, -, rfl⟩ := step_resumeSignIn h
      exact absurd (by rwa [advance_replies] at ht) hs
  | landSignIn call err =>
      obtain ⟨phone, reply, -, ⟨-, rfl⟩ | ⟨e, -, rfl⟩⟩ := step_landSignIn h <;>
        exact absurd (by rwa [advance_replies] at ht) hs
  | recharge user amount =>
      obtain ⟨doc, doc', -, -, rfl⟩ := step_recharge h
      exact absurd ht hs
  | otherWrite user doc => exact absurd (by rwa [step_otherWrite h] at ht) hs

/-- The collection `Users` changes when the `set` of a sign-in lands, by a
recharge, and by what others write. -/
theorem users_step (h : Step s e t) :
    (t.users = s.users ∧ ∀ user amount, e ≠ .recharge user amount) ∨
    (∃ call phone reply, e = .landSignIn call none ∧
      s.signIns.get? call = some ⟨.set phone, reply⟩ ∧ t.users = s.users.set phone newUser) ∨
    (∃ user amount doc doc', e = .recharge user amount ∧ s.users.get? user = some doc ∧
      recharged doc amount = some doc' ∧ t.users = s.users.set user doc') ∨
    ∃ user doc, e = .otherWrite user doc ∧
      t.users = doc.elim (s.users.remove user) (s.users.set user) := by
  cases e with
  | landSignIn call err =>
      obtain ⟨phone, reply, hcall, ⟨rfl, rfl⟩ | ⟨e, rfl, rfl⟩⟩ := step_landSignIn h
      · exact .inr (.inl ⟨call, phone, reply, rfl, hcall, advance_users⟩)
      · exact .inl ⟨advance_users, nofun⟩
  | recharge user amount =>
      obtain ⟨doc, doc', hdoc, hre, rfl⟩ := step_recharge h
      exact .inr (.inr (.inl ⟨user, amount, doc, doc', rfl, hdoc, hre, rfl⟩))
  | otherWrite user doc =>
      exact .inr (.inr (.inr ⟨user, doc, rfl, by rw [step_otherWrite h]⟩))
  | screen i screenEvent =>
      obtain ⟨-, screen, -, rfl⟩ := step_screen h
      exact .inl ⟨rfl, nofun⟩
  | resume i call ordId now =>
      obtain ⟨r, screen, -, -, -, rfl⟩ := step_resume h
      exact .inl ⟨rfl, nofun⟩
  | serve i call err => exact .inl ⟨by rw [(step_serve h).2], nofun⟩
  | land n =>
      obtain ⟨store, -, rfl⟩ := step_land h
      exact .inl ⟨rfl, nofun⟩
  | list => exact .inl ⟨by rw [step_list h], nofun⟩
  | check admin id =>
      obtain ⟨store, -, rfl⟩ := step_check h
      exact .inl ⟨rfl, nofun⟩
  | signIn call => exact .inl ⟨by rw [(step_signIn h).2], nofun⟩
  | authenticate call reply currentUser =>
      exact .inl ⟨by rw [step_authenticate h, advance_users], nofun⟩
  | serveSignIn call err =>
      obtain ⟨phone, -, rfl⟩ := step_serveSignIn h
      exact .inl ⟨rfl, nofun⟩
  | resumeSignIn call =>
      obtain ⟨phone, reply, -, rfl⟩ := step_resumeSignIn h
      exact .inl ⟨advance_users, nofun⟩

/-- The sign-in calls change by steps of theirs only. -/
theorem signIns_step (h : Step s e t) : e.IsSignIn ∨ t.signIns = s.signIns := by
  cases e with
  | signIn | authenticate | serveSignIn | resumeSignIn | landSignIn => exact .inl trivial
  | screen i screenEvent =>
      obtain ⟨-, screen, -, rfl⟩ := step_screen h
      exact .inr rfl
  | resume i call ordId now =>
      obtain ⟨r, screen, -, -, -, rfl⟩ := step_resume h
      exact .inr rfl
  | serve i call err => exact .inr (by rw [(step_serve h).2])
  | land n =>
      obtain ⟨store, -, rfl⟩ := step_land h
      exact .inr rfl
  | list => exact .inr (by rw [step_list h])
  | check admin id =>
      obtain ⟨store, -, rfl⟩ := step_check h
      exact .inr rfl
  | recharge user amount =>
      obtain ⟨doc, doc', -, -, rfl⟩ := step_recharge h
      exact .inr rfl
  | otherWrite user doc => exact .inr (by rw [step_otherWrite h])

/-! ## The store -/

/-- The events that the store takes part in. -/
def storeEvent : Event → Option StoreEvent
  | .resume _ _ ordId _ => some (.issue ordId)
  | .land n => some (.land n)
  | .list => some .list
  | .check admin id => some (.check admin id)
  | _ => none

/-- What a step does to the store is a step of the store. -/
theorem store_step (h : Step s e t) :
    (∃ e', storeEvent e = some e' ∧ Store.Step s.toStore e' t.toStore) ∨
      storeEvent e = none ∧ t.toStore = s.toStore := by
  cases e with
  | resume i call ordId now =>
      obtain ⟨r, screen, -, hnew, hscreen, rfl⟩ := step_resume h
      refine .inl ⟨.issue ordId, rfl, ?_⟩
      change Store.Step s.toStore (.issue ordId)
        ((s.issue ordId).send (screen.orders.drop (s.screens i).orders.length))
      rcases Screen.orders_step hscreen with heq | ⟨_, _, _, _, he, -, heq⟩
      · simpa [heq, Store.send] using Store.Step.issue hnew
      · cases he
        simpa [heq] using Store.Step.send hnew
  | screen i screenEvent =>
      obtain ⟨hget, screen, hscreen, rfl⟩ := step_screen h
      refine .inr ⟨rfl, ?_⟩
      change s.send (screen.orders.drop (s.screens i).orders.length) = s.toStore
      rcases Screen.orders_step hscreen with heq | ⟨_, _, _, _, rfl, -, -⟩
      · simp [heq, Store.send]
      · exact absurd trivial hget
  | land n =>
      obtain ⟨store, hstore, rfl⟩ := step_land h
      exact .inl ⟨.land n, rfl, .land hstore⟩
  | list => exact .inl ⟨.list, rfl, by rw [step_list h]; exact .list⟩
  | check admin id =>
      obtain ⟨store, hstore, rfl⟩ := step_check h
      exact .inl ⟨.check admin id, rfl, .check hstore⟩
  | serve i call err => exact .inr ⟨rfl, by rw [(step_serve h).2]⟩
  | signIn call => exact .inr ⟨rfl, by rw [(step_signIn h).2]⟩
  | authenticate call reply currentUser =>
      exact .inr ⟨rfl, by rw [step_authenticate h, advance_toStore]⟩
  | serveSignIn call err =>
      obtain ⟨phone, -, rfl⟩ := step_serveSignIn h
      exact .inr ⟨rfl, rfl⟩
  | resumeSignIn call =>
      obtain ⟨phone, reply, -, rfl⟩ := step_resumeSignIn h
      exact .inr ⟨rfl, advance_toStore⟩
  | landSignIn call err =>
      obtain ⟨phone, reply, -, ⟨-, rfl⟩ | ⟨e, -, rfl⟩⟩ := step_landSignIn h <;>
        exact .inr ⟨rfl, advance_toStore⟩
  | recharge user amount =>
      obtain ⟨doc, doc', -, -, rfl⟩ := step_recharge h
      exact .inr ⟨rfl, rfl⟩
  | otherWrite user doc => exact .inr ⟨rfl, by rw [step_otherWrite h]⟩

/-- A run of the canteen is one of the order store. -/
theorem store_run {es : List Event} (h : Run Step s es t) :
    Run Store.Step s.toStore (es.filterMap storeEvent) t.toStore :=
  h.simulate System.toStore storeEvent store_step

end System

/-- `Users` with one document, of a user who is no admin. -/
def wallet (user : String) (balance : Int64) : OrderedMap String Fields :=
  (∅ : OrderedMap String Fields).set user
    (((∅ : Fields).set "isAdmin" (.bool false)).set "Balance" (.int balance))

end CollegeCanteens.Canteen
