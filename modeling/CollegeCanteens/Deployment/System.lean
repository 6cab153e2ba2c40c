import CollegeCanteens.App.Homes
import CollegeCanteens.Canteen.OrderStore
import CollegeCanteens.ChangeMenu
import CollegeCanteens.Library.Register
import Mathlib.Data.Nat.Pairing

/-!
# The app on every device

`App.Device` is one device, whose calls complete with anything.  Here any number
of devices share one Firebase project, that is the collection `Users`, the orders
of the canteen (`Canteen.Store`) and the Menu in its document
(`ChangeMenu.System`), and their calls complete with what is stored there.

A read is answered by the server or, while there is no connection, by the device
from what it was given before and from the writes that it has on their way, and so
are the streams.  All that is assumed of an answer is therefore that it was stored
at some moment until then, or is being written by the device (`Genuine`).  A write
is sent at one moment and lands at a later one, also if the app that has sent it is
killed in between.

Every run is one of `Canteen.System` as well, where there are no devices
(`System.projects_run`).

An AdminHomePage has no fields that matter here: what its Pending list has shown
is kept by the store, and what its ChangeMenu screen shows by the menu.  Which of
the tabs of a home page is selected is left out, and so every button of the page
can be tapped at any time.
-/

namespace CollegeCanteens

open Transition Menu SignIn

namespace App

/-- The home page is an AdminHomePage. -/
def Home.IsAdmin : Home → Prop
  | .admin => True
  | .user _ => False

instance : DecidablePred Home.IsAdmin
  | .admin => .isTrue trivial
  | .user _ => .isFalse not_false

/-- The app is killed and launched again. -/
def Event.IsRestart : Event → Prop
  | .restart _ => True
  | _ => False

instance : DecidablePred Event.IsRestart := fun e ↦ by
  unfold Event.IsRestart
  split <;> infer_instance

/-- The Menu that the event delivers to a Menu screen. -/
def Event.snapshot? : Event → Option MenuMap
  | .menu _ (.snapshot data) => data
  | _ => none

/-- The value of `uuid.v4()` that the event has ready. -/
def Event.ordId? : Event → Option String
  | .menu _ (.get _ _ ordId _) => some ordId
  | _ => none

/-- The sign-in call whose `set` has been acknowledged. -/
def Event.written? : Event → Option Nat
  | .reply call (.written (.ok ())) => some call
  | _ => none

namespace Device

/-- The page shows an AdminHomePage. -/
def ShowsAdmin (s : Device) (i : Nat) : Prop := s.Mounted i ∧ ∃ home ∈ s.home? i, home.IsAdmin

instance (s : Device) (i : Nat) : Decidable (s.ShowsAdmin i) :=
  inferInstanceAs (Decidable (_ ∧ _))

/-- The user whose document an event brings, and the document. -/
def answered (s : Device) : Event → Option (String × Option Fields)
  | .routeReply i (.ok data) =>
    match s.route? i with
    | some (.get phone) => some (phone, data)
    | _ => none
  | .reply call (.document (.ok data)) =>
    match s.tasks.get? call with
    | some (.signIn _ _ (.get phone)) => some (phone, data)
    | _ => none
  | .menu i (.get _ (.ok data) _ _) => (s.menu? i).map fun menu ↦ (menu.username, data)
  | _ => none

/-- The sign-in call that an event makes set a new user's document, and the phone
number that it is of. -/
def setUser (s : Device) : Event → Option (Nat × String)
  | .reply call (.document reply) =>
    match s.tasks.get? call with
    | some (.signIn _ _ (.get phone)) =>
      match afterGet phone reply with
      | .ok (some (.set phone')) => some (call, phone')
      | _ => none
    | _ => none
  | _ => none

/-- The orders that an event makes a Pay call write. -/
def newOrders (s : Device) : Event → List (String × OrderDoc)
  | .menu i (.get call r ordId now) =>
    match s.menu? i with
    | some menu => (menu.resumePay call r ordId now).orders.drop menu.orders.length
    | none => []
  | _ => []

end Device

end App

namespace Deployment

open App Canteen ChangeMenu

/-- The `set` of a sign-in call on its way. -/
structure UserWrite where
  device : Nat
  /-- The launch of the app that the call was made in. -/
  launch : Nat
  call : Nat
  phone : String
deriving DecidableEq

/-- The devices, and the project they share. -/
structure System where
  devices : Nat → Device
  /-- How often the app has been launched again on each device. -/
  launches : Nat → Nat
  /-- The collection `Users`. -/
  users : Register (OrderedMap String Fields)
  /-- The writes to it that have not landed. -/
  userWrites : List UserWrite
  store : Store
  canteen : ChangeMenu.System

/-- What can happen. -/
inductive Event where
  | device (d : Nat) (e : App.Event)
  /-- The Pending list of an AdminHomePage is built. -/
  | list (d i : Nat)
  /-- A check tap on an AdminHomePage. -/
  | check (d i : Nat) (id : String)
  /-- A snapshot is delivered to the ChangeMenu screen of an AdminHomePage. -/
  | deliver (d i position : Nat)
  /-- A tap on one of the buttons of that screen. -/
  | toggle (d i : Nat) (button : ChangeMenu.Button) (key : String)
  /-- The `set` of a sign-in lands. -/
  | landUser (n : Nat)
  | landOrder (n : Nat)
  /-- The first write of a device to the Menu lands. -/
  | landMenu (d : Nat)
  /-- Another writer sets a document of `Users`, or deletes it. -/
  | otherUser (user : String) (doc : Option Fields)
  /-- Another writer changes the price of an item. -/
  | setPrice (key : String) (price : Scalar)
  /-- Another writer adds an item. -/
  | addItem (key : String) (item : Fields)

namespace System

/-- The app is launched on every device, and nobody has ordered yet. -/
def initial (accounts : Nat → Option String) (users : OrderedMap String Fields)
    (menu : MenuMap) : System :=
  { devices := fun d ↦ Device.launch (accounts d), launches := fun _ ↦ 0
    users := .init users, userWrites := [], store := .initial, canteen := .initial menu }

/-- The document of a user, or that there is none, was stored at some moment. -/
def Stored (s : System) (user : String) (doc : Option Fields) : Prop :=
  ∃ users ∈ s.users.history, users.get? user = doc

instance (s : System) (user : String) (doc : Option Fields) : Decidable (s.Stored user doc) :=
  inferInstanceAs (Decidable (∃ users ∈ s.users.history, users.get? user = doc))

/-- What a read on the device may find: a document that is or was stored, or the one
that the device itself is setting. -/
def Finds (s : System) (d : Nat) (user : String) (doc : Option Fields) : Prop :=
  s.Stored user doc ∨
    doc = some newUser ∧ ∃ write ∈ s.userWrites, write.device = d ∧ write.phone = user

instance (s : System) (d : Nat) (user : String) (doc : Option Fields) :
    Decidable (s.Finds d user doc) :=
  inferInstanceAs (Decidable (_ ∨ _ ∧ ∃ write ∈ s.userWrites, _))

/-- What the device may be shown of the Menu: one that the server has had, or one
that the device is sending. -/
def Offers (s : System) (d : Nat) (menu : MenuMap) : Prop :=
  menu ∈ s.canteen.history ∨ ∃ write ∈ s.canteen.pending, write.device = d ∧ write.menu = menu

instance (s : System) (d : Nat) (menu : MenuMap) : Decidable (s.Offers d menu) :=
  inferInstanceAs (Decidable (_ ∨ ∃ write ∈ s.canteen.pending, _))

/-- What the event brings to the device is what it can find, its order id is new,
and a `set` that it acknowledges has landed. -/
structure Genuine (s : System) (d : Nat) (e : App.Event) : Prop where
  answer : ∀ answer ∈ (s.devices d).answered e, s.Finds d answer.1 answer.2
  snapshot : ∀ menu ∈ e.snapshot?, s.Offers d menu
  ordId : ∀ id ∈ e.ordId?, id ∉ s.store.issued
  written : ∀ call ∈ e.written?, ∀ write ∈ s.userWrites,
    ¬ (write.device = d ∧ write.launch = s.launches d ∧ write.call = call)

instance (s : System) (d : Nat) (e : App.Event) : Decidable (s.Genuine d e) :=
  decidable_of_iff ((∀ answer ∈ (s.devices d).answered e, s.Finds d answer.1 answer.2) ∧
    (∀ menu ∈ e.snapshot?, s.Offers d menu) ∧
    (∀ id ∈ e.ordId?, id ∉ s.store.issued) ∧
    ∀ call ∈ e.written?, ∀ write ∈ s.userWrites,
      ¬ (write.device = d ∧ write.launch = s.launches d ∧ write.call = call))
    ⟨fun ⟨ha, hs, ho, hw⟩ ↦ ⟨ha, hs, ho, hw⟩,
      fun h ↦ ⟨h.answer, h.snapshot, h.ordId, h.written⟩⟩

/-- The store after an event of a device: the id is given out, and the order that
is written sent. -/
def sendOrders (store : Store) (device : Device) (e : App.Event) : Store :=
  match e.ordId? with
  | some id => (store.issue id).send (device.newOrders e)
  | none => store

/-- An event of a device, which leads it to `device`. -/
def put (s : System) (d : Nat) (e : App.Event) (device : Device) : System :=
  { s with
    devices := Function.update s.devices d device
    launches := if e.IsRestart then Function.update s.launches d (s.launches d + 1) else s.launches
    userWrites := s.userWrites ++ ((s.devices d).setUser e).toList.map fun set ↦
      ⟨d, s.launches d, set.1, set.2⟩
    store := sendOrders s.store (s.devices d) e }

/-- The name of the ChangeMenu screen of a page. -/
def screen (s : System) (d i : Nat) : Nat × Nat := (d, Nat.pair (s.launches d) i)

/-- An event of the Menu. -/
def onCanteen (s : System) (e : ChangeMenu.Event) : Option System :=
  (s.canteen.step e).map fun canteen ↦ { s with canteen := canteen }

/-- A tap reaches the page, and it shows an AdminHomePage. -/
def TapsAdmin (s : System) (d i : Nat) : Prop :=
  (s.devices d).stack.head? = some (.page i) ∧ (s.devices d).ShowsAdmin i

instance (s : System) (d i : Nat) : Decidable (s.TapsAdmin d i) :=
  inferInstanceAs (Decidable (_ ∧ _))

/-- One event; `none` if it cannot happen. -/
def step (s : System) : Event → Option System
  | .device d e => if s.Genuine d e then ((s.devices d).step e).map (s.put d e) else none
  | .list d i =>
    if (s.devices d).ShowsAdmin i then some { s with store := s.store.list } else none
  | .check d i id =>
    if s.TapsAdmin d i then (s.store.check id).map fun store ↦ { s with store := store } else none
  | .deliver d i position =>
    if (s.devices d).ShowsAdmin i then s.onCanteen (.deliver (s.screen d i) position) else none
  | .toggle d i button key =>
    if s.TapsAdmin d i then s.onCanteen (.tap (s.screen d i) button key) else none
  | .landUser n =>
    s.userWrites[n]?.map fun write ↦
      { s with
        users := s.users.commit (s.users.current.set write.phone newUser)
        userWrites := s.userWrites.eraseIdx n }
  | .landOrder n => (s.store.land n).map fun store ↦ { s with store := store }
  | .landMenu d => s.onCanteen (.land d)
  | .otherUser user doc =>
    some { s with
      users := s.users.commit
        (doc.elim (s.users.current.remove user) (s.users.current.set user)) }
  | .setPrice key price => s.onCanteen (.setPrice key price)
  | .addItem key item => s.onCanteen (.addItem key item)

/-- The steps of the machine. -/
abbrev Step : System → Event → System → Prop := Fires step

end System

end Deployment

end CollegeCanteens
