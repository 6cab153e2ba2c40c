import CollegeCanteens.Deployment.Menus

/-!
# What only admins do

Orders are served and items are hidden and shown on AdminHomePages, and behind
each of these is an account that was signed in on the device and was an admin
(`served_by_admin`, `menu_origin`).  The app itself makes nobody one: if no account
is an admin at first and other writers make none, there is never an AdminHomePage,
no order is ever served, and the Menu is what other writers have made of it
(`no_admin_run`).
-/

namespace CollegeCanteens.Deployment.System

open Transition App Canteen Menu ChangeMenu SignIn

variable {accounts : Nat → Option String} {users : OrderedMap String Fields} {menu menu' : MenuMap}
  {es es' pre : List Event} {t : System} {e : Event} {d i : Nat} {id user : String} {doc : Fields}
  {write : ChangeMenu.Write}

/-- An account has been signed in on the device that was an admin. -/
def AdminOn (accounts : Nat → Option String) (users : OrderedMap String Fields) (menu : MenuMap)
    (es : List Event) (d : Nat) : Prop :=
  ∃ phone, Visited Step (initial accounts users menu) es (WasAdmin phone) ∧
    Visited Step (initial accounts users menu) es fun s ↦ (s.devices d).currentUser = some phone

/-- Behind everything done on an AdminHomePage is an admin. -/
theorem acted_run (h : Run Step (initial accounts users menu) es t) (hes : pre ++ [e] <+: es)
    (he : e.admin? = some (d, i)) : AdminOn accounts users menu pre d := by
  obtain ⟨post, rfl⟩ := hes
  obtain ⟨b, hb, -⟩ := h.split
  obtain ⟨a, ha, hab⟩ := hb.of_snoc
  exact showsAdmin_run ha (showsAdmin_of_step hab he)

/-! ## Orders -/

/-- An order that is served was checked. -/
theorem checked_run (h : Run Step (initial accounts users menu) es t) (hs : t.store.Served id) :
    ∃ pre d i, pre ++ [.check d i id] <+: es := by
  obtain ⟨d, hcheck⟩ := (Store.marked_run (store_run h) id).mp (.inl hs)
  obtain ⟨i, he⟩ := check_mem_filterMap.mp hcheck
  obtain ⟨pre, post, rfl⟩ := List.append_of_mem he
  exact ⟨pre, d, i, post, by simp⟩

/-- An order that is served was checked on a device on which an admin had signed
in. -/
theorem served_by_admin (h : Run Step (initial accounts users menu) es t)
    (hs : t.store.Served id) :
    ∃ pre d i, pre ++ [.check d i id] <+: es ∧ AdminOn accounts users menu pre d := by
  obtain ⟨pre, d, i, hes⟩ := checked_run h hs
  exact ⟨pre, d, i, hes, acted_run h hes rfl⟩

/-! ## The Menu -/

/-- The Menu is what a button of a ChangeMenu screen has made of the map it had
rendered, on a device on which an admin had signed in. -/
def Sent (accounts : Nat → Option String) (users : OrderedMap String Fields) (menu : MenuMap)
    (es : List Event) (menu' : MenuMap) : Prop :=
  ∃ pre d i button key a shown, pre ++ [.toggle d i button key] <+: es ∧
    Run Step (initial accounts users menu) pre a ∧
    (a.canteen.screens (a.screen d i)).menu = some shown ∧
    ChangeMenu.Button.onPressed button shown key = .ok menu' ∧ AdminOn accounts users menu pre d

/-- The Menu is what another writer has made of that of the server. -/
def Edited (accounts : Nat → Option String) (users : OrderedMap String Fields) (menu : MenuMap)
    (es : List Event) (menu' : MenuMap) : Prop :=
  ∃ pre e edit a, pre ++ [e] <+: es ∧ Run Step (initial accounts users menu) pre a ∧
    e.edit? = some edit ∧ menu' = carryOut a.canteen.server edit

theorem Sent.extend (h : Sent accounts users menu es menu') (hes : es <+: es') :
    Sent accounts users menu es' menu' := by
  obtain ⟨pre, d, i, button, key, a, shown, hpre, hrest⟩ := h
  exact ⟨pre, d, i, button, key, a, shown, hpre.trans hes, hrest⟩

theorem Edited.extend (h : Edited accounts users menu es menu') (hes : es <+: es') :
    Edited accounts users menu es' menu' := by
  obtain ⟨pre, e, edit, a, hpre, hrest⟩ := h
  exact ⟨pre, e, edit, a, hpre.trans hes, hrest⟩

/-- A map on its way to the server was sent by a tap on an AdminHomePage. -/
theorem pending_run (h : Run Step (initial accounts users menu) es t)
    (hw : write ∈ t.canteen.pending) : Sent accounts users menu es write.menu := by
  induction h with
  | refl => cases hw
  | @snoc es a e b ha hR ih =>
      have hprefix : es <+: es ++ [e] := List.prefix_append es [e]
      rcases canteen_step hR with ⟨e', he, hstep⟩ | ⟨-, heq⟩
      · rcases ChangeMenu.System.pending_step hstep hw with
            hw | ⟨screen, button, shown, rfl, -, hshown, hok⟩
        · exact (ih hw).extend hprefix
        · cases e with
          | toggle d i button' key =>
              cases he
              exact ⟨es, d, i, button, write.key, a, shown, List.prefix_rfl, ha, hshown, hok,
                acted_run (ha.snoc hR) List.prefix_rfl rfl⟩
          | deliver | landMenu | setPrice | addItem => cases he
          | device | list | check | landUser | landOrder | otherUser => cases he
      · exact (ih (heq ▸ hw)).extend hprefix

/-- Where every Menu of the server comes from. -/
theorem menu_origin (h : Run Step (initial accounts users menu) es t)
    (hm : menu' ∈ t.canteen.history) : menu' = menu ∨ Edited accounts users menu es menu' ∨
      Sent accounts users menu es menu' := by
  induction h with
  | refl => exact .inl (List.mem_singleton.mp hm)
  | @snoc es a e b ha hR ih =>
      have hprefix : es <+: es ++ [e] := List.prefix_append es [e]
      have hold (hm : menu' ∈ a.canteen.history) :=
        (ih hm).imp_right (Or.imp (·.extend hprefix) (·.extend hprefix))
      rcases canteen_step hR with ⟨e', he, hstep⟩ | ⟨-, heq⟩
      · rcases ChangeMenu.System.server_step hstep with ⟨-, heq⟩ | ⟨menu₁, -, heq, hfrom⟩
        · exact hold (heq ▸ hm)
        · rw [heq] at hm
          rcases List.mem_append.mp hm with hm | hm
          · exact hold hm
          · obtain rfl := List.mem_singleton.mp hm
            rcases hfrom with ⟨write, hw, rfl⟩ | ⟨hedit, rfl⟩
            · exact .inr (.inr ((pending_run ha hw).extend hprefix))
            · refine .inr (.inl ⟨es, e, e', a, List.prefix_rfl, ha, ?_, rfl⟩)
              cases e with
              | setPrice | addItem => exact he
              | deliver | toggle | landMenu => cases he; cases hedit
              | device | list | check | landUser | landOrder | otherUser => cases he
      · exact hold (heq ▸ hm)

/-! ## Without an admin -/

/-- The event makes nobody an admin. -/
def NoPromotion : Event → Prop
  | .otherUser _ (some doc) => doc.field "isAdmin" ≠ .bool true
  | _ => True

instance : DecidablePred NoPromotion := fun e ↦ by
  unfold NoPromotion
  split <;> infer_instance

/-- The app makes nobody an admin. -/
theorem not_wasAdmin (h : Run Step (initial accounts users menu) es t)
    (husers : users.All fun _ doc ↦ doc.field "isAdmin" ≠ .bool true)
    (hes : ∀ e ∈ es, NoPromotion e) : ¬ WasAdmin user t := by
  rintro ⟨doc, hstored, hadmin⟩
  rcases stored_run h hstored with hdoc | hwritten | ⟨rfl, -⟩
  · exact husers user doc hdoc hadmin
  · exact hes _ hwritten hadmin
  · exact absurd hadmin (by decide)

theorem not_adminOn (husers : users.All fun _ doc ↦ doc.field "isAdmin" ≠ .bool true)
    (hes : ∀ e ∈ es, NoPromotion e) : ¬ AdminOn accounts users menu es d := by
  rintro ⟨phone, ⟨pre, a, hpre, ha, hadmin⟩, -⟩
  exact not_wasAdmin ha husers (fun e he ↦ hes e (hpre.subset he)) hadmin

theorem intended_append {edits edits' : List ChangeMenu.Event} :
    intended menu (edits ++ edits') = intended (intended menu edits) edits' := List.foldl_append

/-- Without an admin, nothing is sent to the server, which has the Menu that other
writers have made. -/
theorem server_eq_intended (h : Run Step (initial accounts users menu) es t)
    (husers : users.All fun _ doc ↦ doc.field "isAdmin" ≠ .bool true)
    (hes : ∀ e ∈ es, NoPromotion e) :
    t.canteen.pending = [] ∧ t.canteen.server = intended menu (es.filterMap Event.edit?) := by
  induction h with
  | refl => exact ⟨rfl, rfl⟩
  | @snoc es a e b ha hR ih =>
      have hes' : ∀ e' ∈ es, NoPromotion e' := fun e' he' ↦ hes e' (List.mem_append_left _ he')
      obtain ⟨hpending, hserver⟩ := ih hes'
      have hadmin : e.admin? = none := by
        cases he : e.admin? with
        | none => rfl
        | some page =>
            exact absurd (acted_run (ha.snoc hR) List.prefix_rfl he) (not_adminOn husers hes')
      rw [List.filterMap_append, intended_append, ← hserver]
      cases e with
      | list | check | deliver | toggle => cases hadmin
      | landMenu d =>
          obtain ⟨canteen, hstep, rfl⟩ := Option.map_eq_some_iff.mp hR
          obtain ⟨write, hnext, -⟩ := ChangeMenu.System.step_land hstep
          rw [ChangeMenu.System.next, hpending] at hnext
          cases hnext
      | setPrice key price =>
          cases hR
          exact ⟨hpending, rfl⟩
      | addItem key item =>
          obtain ⟨canteen, hstep, rfl⟩ := Option.map_eq_some_iff.mp hR
          obtain ⟨-, rfl⟩ := ChangeMenu.System.step_addItem hstep
          exact ⟨hpending, rfl⟩
      | device | landUser | landOrder | otherUser =>
          rcases canteen_step hR with ⟨e', he, -⟩ | ⟨-, heq⟩
          · cases he
          · rw [heq]
            exact ⟨hpending, rfl⟩

/-- If no account is an admin at first and other writers make none, the app shows
no AdminHomePage, no order is served, and the Menu is the first one with the edits
of other writers. -/
theorem no_admin_run (h : Run Step (initial accounts users menu) es t)
    (husers : users.All fun _ doc ↦ doc.field "isAdmin" ≠ .bool true)
    (hes : ∀ e ∈ es, NoPromotion e) :
    (∀ d i, ¬ (t.devices d).ShowsAdmin i) ∧ (∀ id, ¬ t.store.Served id) ∧
      t.canteen.server = intended menu (es.filterMap Event.edit?) := by
  refine ⟨fun d i hs ↦ not_adminOn husers hes (showsAdmin_run h hs), fun id hs ↦ ?_,
    (server_eq_intended h husers hes).2⟩
  obtain ⟨pre, d, i, hpre⟩ := checked_run h hs
  refine not_adminOn husers (fun e he ↦ hes e (hpre.subset ?_)) (acted_run h hpre rfl)
  exact List.mem_append_left _ he

/-! ## Deployments with an admin and without -/

theorem served_by_admin_teaServed :
    ∃ pre d i, pre ++ [.check d i "order"] <+: teaServed ∧
      AdminOn twoAccounts twoUsers tea pre d :=
  served_by_admin run_teaServed (by unfold Store.Served; decide)

/-- The Menu after the tea has been hidden. -/
def teaHidden : MenuMap := singleMenu "tea" 10 false

theorem menu_origin_teaServed : teaHidden = tea ∨
    Edited twoAccounts twoUsers tea teaServed teaHidden ∨
      Sent twoAccounts twoUsers tea teaServed teaHidden :=
  menu_origin run_teaServed (by decide)

/-- Somebody who is no admin. -/
def oneUser : OrderedMap String Fields := (∅ : OrderedMap String Fields).set "v" newUser

/-- While a phone number signs in for the first time, the wallet of another user is
recharged. -/
def rechargedSignIn : List Event :=
  .otherUser "v" (some (newUser.set "Balance" (.int 50))) :: firstSignIn

/-- The state after `rechargedSignIn`. -/
def afterRechargedSignIn : System :=
  (exec step (initial (fun _ ↦ none) oneUser ∅) rechargedSignIn).get (by decide)

theorem no_admin_run_rechargedSignIn :
    (∀ d i, ¬ (afterRechargedSignIn.devices d).ShowsAdmin i) ∧
      (∀ id, ¬ afterRechargedSignIn.store.Served id) ∧
      afterRechargedSignIn.canteen.server =
        intended ∅ (rechargedSignIn.filterMap Event.edit?) :=
  no_admin_run (run_exec_get (by decide)) (by decide) (by decide)

end CollegeCanteens.Deployment.System
