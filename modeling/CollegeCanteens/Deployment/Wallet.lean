import CollegeCanteens.App.Users
import CollegeCanteens.Deployment.Origins

/-!
# What a Wallet shows

The Wallet of a UserHomePage (`lib/screens/UserHomePage/wallet.dart`) shows the Balance
in the document that its stream has delivered last, which is one of the user that the
page is of.  Nothing of the app but a first sign-in writes such a document, and so a
Balance on a screen was there at the start, or was written by others, or is the zero of
a new user (`balance_run`): an order never shows in it.

The stream is made in `build`, and so is listened to anew with every build of the
UserHomePage.  Until it delivers, the Wallet then waits again, or shows the error that
was delivered last.
-/

namespace CollegeCanteens

open Transition Menu SignIn

namespace App

/-- The `AsyncSnapshot` of the `StreamBuilder` of a Wallet. -/
structure Snapshot where
  /-- The error or document that was delivered last. -/
  last : Option Reply
  waiting : Bool

/-- Nothing has been delivered. -/
def Snapshot.initial : Snapshot := { last := none, waiting := true }

/-- What a Wallet shows. -/
inductive WalletBody where
  | wentWrong
  | spinner
  /-- The card with the Balance. -/
  | card (balance : Scalar)
deriving DecidableEq

/-- `build` of `_WalletState`. -/
def Snapshot.build (snapshot : Snapshot) : Except DartError WalletBody :=
  match snapshot.last with
  | some (.error _) => .ok .wentWrong
  | last =>
    if snapshot.waiting then .ok .spinner
    else match last with
      | some (.ok (some usrdata)) => .ok (.card (usrdata.field "Balance"))
      | _ => .error .typeError

theorem Snapshot.last_of_build {snapshot : Snapshot} {balance : Scalar}
    (h : snapshot.build = .ok (.card balance)) :
    ∃ usrdata, snapshot.last = some (.ok (some usrdata)) ∧ usrdata.field "Balance" = balance := by
  unfold Snapshot.build at h
  split at h
  · cases h
  · split at h
    · cases h
    · split at h
      · next usrdata hlast =>
          cases h
          exact ⟨usrdata, hlast, rfl⟩
      · cases h

end App

namespace Deployment

open App

/-- A deployment with the Wallets of its UserHomePages. -/
structure Wallets where
  system : System
  /-- The snapshots of the Wallets, by the device and the place of the page. -/
  snapshot : Nat → Nat → Snapshot

namespace Wallets

/-- What can happen. -/
inductive Event where
  | system (e : Deployment.Event)
  /-- The stream of a Wallet delivers an error, or what there is of a document. -/
  | deliver (d i : Nat) (reply : Reply)
  /-- A tap on the bottom bar of a UserHomePage. -/
  | tab (d i : Nat)

/-- The event of the deployment that an event is, if it is one. -/
def Event.system? : Event → Option Deployment.Event
  | .system e => some e
  | .deliver _ _ _ | .tab _ _ => none

/-- The device that the event launches the app on. -/
def restarts? : Deployment.Event → Option Nat
  | .device d (.restart _) => some d
  | _ => none

/-- The app is launched on every device, and nobody has ordered yet. -/
def initial (accounts : Nat → Option String) (users : OrderedMap String Fields)
    (menu : MenuMap) : Wallets :=
  { system := .initial accounts users menu, snapshot := fun _ _ ↦ .initial }

/-- Change the snapshot of a Wallet. -/
def modify (s : Wallets) (d i : Nat) (snapshot : Snapshot) : Wallets :=
  { s with
    snapshot := Function.update s.snapshot d (Function.update (s.snapshot d) i snapshot) }

/-- One event; `none` if it cannot happen. -/
def step (s : Wallets) : Event → Option Wallets
  | .system e => (s.system.step e).map fun system ↦
      { system := system
        snapshot := match restarts? e with
          | some d => Function.update s.snapshot d fun _ ↦ .initial
          | none => s.snapshot }
  | .deliver d i reply =>
    match (s.system.devices d).user? i with
    | some user =>
      if (s.system.devices d).Mounted i ∧ ∀ doc ∈ reply.toOption, s.system.Finds d user doc then
        some (s.modify d i { last := some reply, waiting := false })
      else none
    | none => none
  | .tab d i =>
    if (s.system.devices d).stack.head? = some (.page i) ∧
        ((s.system.devices d).user? i).isSome then
      some (s.modify d i { s.snapshot d i with waiting := true })
    else none

/-- The steps of the machine. -/
abbrev Step : Wallets → Event → Wallets → Prop := Fires step

variable {accounts : Nat → Option String} {users : OrderedMap String Fields} {menu : MenuMap}
  {s t : Wallets} {e : Event} {es : List Event} {es' : List Deployment.Event} {d i d' i' : Nat}
  {user : String} {doc : Fields} {balance : Scalar} {snapshot : Snapshot} {reply : Reply}

theorem snapshot_modify : (s.modify d i snapshot).snapshot d' i' =
    if d' = d ∧ i' = i then snapshot else s.snapshot d' i' := by
  simp only [modify, Function.update_apply]
  by_cases hd : d' = d
  · subst hd
    simp [Function.update_apply]
  · simp [hd]

/-! ## What an event does -/

theorem step_system {e : Deployment.Event} (h : Step s (.system e) t) :
    System.Step s.system e t.system ∧ t.snapshot = match restarts? e with
      | some d => Function.update s.snapshot d fun _ ↦ .initial
      | none => s.snapshot := by
  obtain ⟨system, hsystem, rfl⟩ := Option.map_eq_some_iff.mp h
  exact ⟨hsystem, rfl⟩

theorem step_deliver (h : Step s (.deliver d i reply) t) :
    ∃ user, (s.system.devices d).user? i = some user ∧
      (∀ doc ∈ reply.toOption, s.system.Finds d user doc) ∧
        t = s.modify d i { last := some reply, waiting := false } := by
  simp only [Fires, step] at h
  split at h
  · next user huser =>
      split at h
      · next hfinds => exact ⟨user, huser, hfinds.2, (Option.some.inj h).symm⟩
      · cases h
  · cases h

theorem step_tab (h : Step s (.tab d i) t) :
    t = s.modify d i { s.snapshot d i with waiting := true } := by
  simp only [Fires, step] at h
  split at h
  · exact (Option.some.inj h).symm
  · cases h

/-- The events of a deployment with Wallets are those of the deployment, and others. -/
theorem system_run (h : Run Step (initial accounts users menu) es t) :
    Run System.Step (.initial accounts users menu) (es.filterMap Event.system?) t.system := by
  refine h.simulate Wallets.system Event.system? ?_
  rintro a e b hR
  cases e with
  | system e => exact .inl ⟨e, rfl, (step_system hR).1⟩
  | deliver d i reply =>
      obtain ⟨user, -, -, rfl⟩ := step_deliver hR
      exact .inr ⟨rfl, rfl⟩
  | tab d i =>
      obtain rfl := step_tab hR
      exact .inr ⟨rfl, rfl⟩

/-! ## Whose document it is -/

/-- The documents that have been delivered are of the users of the pages. -/
def Sourced (accounts : Nat → Option String) (users : OrderedMap String Fields) (menu : MenuMap)
    (es : List Deployment.Event) (s : Wallets) : Prop :=
  ∀ d i doc, (s.snapshot d i).last = some (.ok (some doc)) →
    ∃ user, (s.system.devices d).user? i = some user ∧
      System.AccountFrom accounts users menu es user doc

/-- The users of the home pages of a device stay as long as the app is not launched anew. -/
theorem user?_step {s t : System} {e : Deployment.Event} (hs : (s.devices d).Waiting)
    (hR : System.Step s e t) (he : restarts? e ≠ some d)
    (hu : (s.devices d).user? i = some user) : (t.devices d).user? i = some user := by
  rcases System.device_step hR d with ⟨e', hdevice, -, hstep⟩ | ⟨-, heq⟩
  · refine Device.user?_step hs hstep ?_ hu
    rintro currentUser rfl
    cases e with
    | device d' e =>
        obtain ⟨rfl, rfl⟩ : d' = d ∧ e = .restart currentUser := by
          simpa [Deployment.Event.device?] using hdevice
        exact he rfl
    | list | check | deliver | toggle | landUser | landOrder | landMenu | otherUser | setPrice
      | addItem => cases hdevice
  · rwa [heq]

theorem Sourced.modify (hs : Sourced accounts users menu es' s)
    (h : ∀ doc, snapshot.last = some (.ok (some doc)) →
      ∃ user, (s.system.devices d).user? i = some user ∧
        System.AccountFrom accounts users menu es' user doc) :
    Sourced accounts users menu es' (s.modify d i snapshot) := by
  intro d' i' doc hdoc
  rw [snapshot_modify] at hdoc
  split at hdoc
  · next heq =>
      obtain ⟨rfl, rfl⟩ := heq
      exact h doc hdoc
  · exact hs d' i' doc hdoc

theorem sourced_step (h : Run Step (initial accounts users menu) es s)
    (hs : Sourced accounts users menu (es.filterMap Event.system?) s) (hR : Step s e t) :
    Sourced accounts users menu ((es ++ [e]).filterMap Event.system?) t := by
  have hprefix : es.filterMap Event.system? <+: (es ++ [e]).filterMap Event.system? := by
    rw [List.filterMap_append]
    exact List.prefix_append ..
  have hs' : Sourced accounts users menu ((es ++ [e]).filterMap Event.system?) s := by
    intro d i doc hdoc
    obtain ⟨user, huser, hfrom⟩ := hs d i doc hdoc
    exact ⟨user, huser, hfrom.extend hprefix⟩
  cases e with
  | system e =>
      obtain ⟨hsystem, hsnapshot⟩ := step_system hR
      intro d i doc hdoc
      by_cases he : restarts? e = some d
      · rw [hsnapshot, he] at hdoc
        simp [Snapshot.initial] at hdoc
      · have hkept : t.snapshot d = s.snapshot d := by
          rw [hsnapshot]
          split
          · next d' hd' =>
              apply Function.update_of_ne
              rintro rfl
              exact he hd'
          · rfl
        rw [hkept] at hdoc
        obtain ⟨user, huser, hfrom⟩ := hs' d i doc hdoc
        exact ⟨user, user?_step (System.waiting_run (system_run h)) hsystem he huser, hfrom⟩
  | deliver d i reply =>
      obtain ⟨user, huser, hfinds, rfl⟩ := step_deliver hR
      apply hs'.modify
      rintro doc hdoc
      obtain rfl : reply = .ok (some doc) := Option.some.inj hdoc
      have hfrom := System.account_of_finds (system_run h) (hfinds (some doc) rfl)
      exact ⟨user, huser, hfrom.extend hprefix⟩
  | tab d i =>
      obtain rfl := step_tab hR
      exact hs'.modify (hs' d i)

theorem sourced_run (h : Run Step (initial accounts users menu) es t) :
    Sourced accounts users menu (es.filterMap Event.system?) t := by
  refine h.invariantOn (P := fun es s ↦ Sourced accounts users menu (es.filterMap Event.system?) s)
    ?_ sourced_step
  rintro d i doc ⟨⟩

/-- The Balance on a screen is one of the user of the page, who was signed in on the
device, and was there at the start, or was written by others, or is that of a new
user. -/
theorem balance_run (h : Run Step (initial accounts users menu) es t)
    (ht : (t.snapshot d i).build = .ok (.card balance)) : ∃ user doc,
      (t.system.devices d).user? i = some user ∧
        Visited System.Step (.initial accounts users menu) (es.filterMap Event.system?) (fun s ↦
          (s.devices d).currentUser = some user) ∧
        System.AccountFrom accounts users menu (es.filterMap Event.system?) user doc ∧
          doc.field "Balance" = balance := by
  obtain ⟨doc, hlast, hbalance⟩ := Snapshot.last_of_build ht
  obtain ⟨user, huser, hfrom⟩ := sourced_run h d i doc hlast
  obtain ⟨menu', hmenu, rfl⟩ := Device.user?_eq_some_iff.mp huser
  exact ⟨menu'.username, doc, huser, System.menu_run (system_run h) hmenu, hfrom, hbalance⟩

/-- A number signs in for the first time, and is shown its Balance. -/
def firstBalance : List Event :=
  System.firstSignIn.map .system ++ [.deliver 0 2 (.ok (some newUser))]

/-- The state after `firstBalance`. -/
def afterFirstBalance : Wallets :=
  (exec step (initial (fun _ ↦ none) ∅ ∅) firstBalance).get (by decide)

theorem balance_run_firstBalance : ∃ user doc,
    (afterFirstBalance.system.devices 0).user? 2 = some user ∧
      Visited System.Step (.initial (fun _ ↦ none) ∅ ∅) (firstBalance.filterMap Event.system?)
        (fun s ↦ (s.devices 0).currentUser = some user) ∧
      System.AccountFrom (fun _ ↦ none) ∅ ∅ (firstBalance.filterMap Event.system?) user doc ∧
        doc.field "Balance" = .int 0 :=
  balance_run (run_exec_get (by decide) : Run Step _ firstBalance afterFirstBalance) (by decide)

end Wallets

end Deployment

end CollegeCanteens
