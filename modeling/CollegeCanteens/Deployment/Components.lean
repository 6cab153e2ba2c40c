import CollegeCanteens.Deployment.System
import CollegeCanteens.Library.Provenance

/-!
# The parts of a deployment

What an event is for a device, for the order store and for the Menu, and what it
does to each of them and to the collection `Users`.  A run of the deployment is,
for each device, a run of that device, and for the store one of the store, so that
what was proved of these holds here as well.
-/

namespace CollegeCanteens

open Transition Menu SignIn

namespace App.Device

variable {s t : Device} {e : Event}

/-- An event has an order id ready only if it completes the read of a Pay call,
and the call writes an order if the read covers it. -/
theorem newOrders_eq (h : Step s e t) : e.ordId? = none ∨
    ∃ i call r ordId now menu, e = .menu i (.get call r ordId now) ∧ s.menu? i = some menu ∧
      (s.newOrders e = [] ∨ menu.Covered r ∧
        s.newOrders e = [(ordId, orderDoc menu.username menu.subtotal menu.cart now)]) := by
  cases e with
  | menu i menuEvent =>
      cases menuEvent with
      | get call r ordId now =>
          obtain ⟨-, -, p, menu, menu', hp, hhome, hstep, -⟩ := step_menu h
          have hmenu : s.menu? i = some menu := menu?_eq_some_iff.mpr
            ((home?_of_initializer? (initializer?_eq_some_iff.mpr hp)).trans hhome)
          refine .inr ⟨i, call, r, ordId, now, menu, rfl, hmenu, ?_⟩
          have hnew : s.newOrders (.menu i (.get call r ordId now)) =
              menu'.orders.drop menu.orders.length := by
            rw [newOrders, hmenu, (Screen.step_get hstep).2]
          rw [hnew]
          rcases Screen.orders_step hstep with heq | ⟨_, _, _, _, he, hc, heq⟩
          · exact .inl (by simp [heq])
          · cases he
            exact .inr ⟨hc, by simp [heq]⟩
      | snapshot | add | remove | pay | dismiss => exact .inl rfl
  | restart | frame | routeReply | verify | pick | codeSent | verificationCompleted
  | verificationFailed | verifyThrows | confirm | reply | popped | signOut | signOutReply | back =>
      exact .inl rfl

end App.Device

namespace Deployment

open App Canteen ChangeMenu

namespace Event

/-- What the event is for a device. -/
def device? (d : Nat) : Event → Option App.Event
  | .device d' e => if d' = d then some e else none
  | _ => none

/-- What the event is for the order store. -/
def store? : Event → Option StoreEvent
  | .device _ e => e.ordId?.map .issue
  | .list _ _ => some .list
  | .check d _ id => some (.check d id)
  | .landOrder n => some (.land n)
  | _ => none

/-- The AdminHomePage that the event happens on. -/
def admin? : Event → Option (Nat × Nat)
  | .list d i | .check d i _ | .deliver d i _ | .toggle d i _ _ => some (d, i)
  | _ => none

end Event

namespace System

/-- What the event is for the Menu. -/
def canteen? (s : System) : Event → Option ChangeMenu.Event
  | .deliver d i position => some (.deliver (s.screen d i) position)
  | .toggle d i button key => some (.tap (s.screen d i) button key)
  | .landMenu d => some (.land d)
  | .setPrice key price => some (.setPrice key price)
  | .addItem key item => some (.addItem key item)
  | _ => none

variable {s t : System} {e : Event} {es : List Event} {d i n : Nat} {write : UserWrite}
  {user : String} {doc : Option Fields}

/-- What an event does: to a device, to the store, to the Menu, or to `Users`. -/
inductive Effect (s : System) (e : Event) : System → Prop
  | device {d : Nat} {e' : App.Event} {device : Device} : e = .device d e' → s.Genuine d e' →
      Device.Step (s.devices d) e' device → Effect s e (s.put d e' device)
  | store {e' : StoreEvent} {store : Store} : (∀ d e', e ≠ .device d e') → e.store? = some e' →
      Store.Step s.store e' store → Effect s e { s with store := store }
  | canteen {e' : ChangeMenu.Event} {canteen : ChangeMenu.System} : s.canteen? e = some e' →
      ChangeMenu.System.Step s.canteen e' canteen → Effect s e { s with canteen := canteen }
  | landUser {n : Nat} {write : UserWrite} : e = .landUser n → s.userWrites[n]? = some write →
      Effect s e { s with
        users := s.users.commit (s.users.current.set write.phone newUser)
        userWrites := s.userWrites.eraseIdx n }
  | otherUser {user : String} {doc : Option Fields} : e = .otherUser user doc →
      Effect s e { s with
        users := s.users.commit
          (doc.elim (s.users.current.remove user) (s.users.current.set user)) }

theorem Effect.of_onCanteen {e' : ChangeMenu.Event} (he : s.canteen? e = some e')
    (h : s.onCanteen e' = some t) : Effect s e t := by
  obtain ⟨canteen, hcanteen, rfl⟩ := Option.map_eq_some_iff.mp h
  exact .canteen he hcanteen

theorem effect_step (h : Step s e t) : Effect s e t := by
  cases e with
  | device d e' =>
      simp only [Fires, step] at h
      split at h
      · obtain ⟨device, hdevice, rfl⟩ := Option.map_eq_some_iff.mp h
        exact .device rfl ‹_› hdevice
      · cases h
  | list d i =>
      simp only [Fires, step] at h
      split at h
      · cases h
        exact .store (by rintro d e' ⟨⟩) rfl .list
      · cases h
  | check d i id =>
      simp only [Fires, step] at h
      split at h
      · obtain ⟨store, hstore, rfl⟩ := Option.map_eq_some_iff.mp h
        exact .store (by rintro d e' ⟨⟩) rfl (.check hstore)
      · cases h
  | deliver d i position =>
      simp only [Fires, step] at h
      split at h
      · exact .of_onCanteen rfl h
      · cases h
  | toggle d i button key =>
      simp only [Fires, step] at h
      split at h
      · exact .of_onCanteen rfl h
      · cases h
  | landUser n =>
      obtain ⟨write, hwrite, rfl⟩ := Option.map_eq_some_iff.mp h
      exact .landUser rfl hwrite
  | landOrder n =>
      obtain ⟨store, hstore, rfl⟩ := Option.map_eq_some_iff.mp h
      exact .store (by rintro d e' ⟨⟩) rfl (.land hstore)
  | landMenu d => exact .of_onCanteen rfl h
  | otherUser user doc =>
      cases h
      exact .otherUser rfl
  | setPrice key price => exact .of_onCanteen rfl h
  | addItem key item => exact .of_onCanteen rfl h

/-- What happens on an AdminHomePage happens while the page shows one. -/
theorem showsAdmin_of_step (h : Step s e t) (he : e.admin? = some (d, i)) :
    (s.devices d).ShowsAdmin i := by
  cases e with
  | list | deliver =>
      cases he
      simp only [Fires, step] at h
      split at h
      · assumption
      · cases h
  | check | toggle =>
      cases he
      simp only [Fires, step] at h
      split at h
      · exact (‹System.TapsAdmin _ _ _›).2
      · cases h
  | device | landUser | landOrder | landMenu | otherUser | setPrice | addItem => cases he

/-! ## The devices -/

theorem device_step (h : Step s e t) (d : Nat) :
    (∃ e', e.device? d = some e' ∧ s.Genuine d e' ∧
      Device.Step (s.devices d) e' (t.devices d)) ∨
    e.device? d = none ∧ t.devices d = s.devices d := by
  cases effect_step h with
  | @device d' e' device he hgenuine hstep =>
      subst he
      rcases eq_or_ne d' d with rfl | hne
      · refine .inl ⟨e', if_pos rfl, hgenuine, ?_⟩
        simpa [put] using hstep
      · exact .inr ⟨if_neg hne, Function.update_of_ne hne.symm ..⟩
  | store hnot =>
      refine .inr ⟨?_, rfl⟩
      cases e with
      | device d' e' => exact absurd rfl (hnot d' e')
      | _ => rfl
  | canteen he =>
      refine .inr ⟨?_, rfl⟩
      cases e with
      | device => cases he
      | _ => rfl
  | landUser he | otherUser he =>
      subst he
      exact .inr ⟨rfl, rfl⟩

/-- A run is one of each device. -/
theorem device_run (h : Run Step s es t) (d : Nat) :
    Run Device.Step (s.devices d) (es.filterMap (Event.device? d)) (t.devices d) :=
  h.simulate (fun s ↦ s.devices d) (Event.device? d) fun hR ↦
    (device_step hR d).imp_left fun ⟨e', he, _, hstep⟩ ↦ ⟨e', he, hstep⟩

/-! ## The store -/

theorem store_step (h : Step s e t) :
    (∃ e', e.store? = some e' ∧ Store.Step s.store e' t.store) ∨
      e.store? = none ∧ t.store = s.store := by
  cases effect_step h with
  | @device d e' device he hgenuine hstep =>
      subst he
      change (∃ e'', e'.ordId?.map StoreEvent.issue = some e'' ∧
        Store.Step s.store e'' (sendOrders s.store (s.devices d) e')) ∨
          e'.ordId?.map StoreEvent.issue = none ∧ sendOrders s.store (s.devices d) e' = s.store
      rcases Device.newOrders_eq hstep with hnone | ⟨i, call, r, ordId, now, menu, rfl, -, hnew⟩
      · exact .inr ⟨by rw [hnone]; rfl, by rw [sendOrders, hnone]⟩
      · have hfresh : ordId ∉ s.store.issued := hgenuine.ordId ordId rfl
        refine .inl ⟨.issue ordId, rfl, ?_⟩
        change Store.Step s.store (.issue ordId) ((s.store.issue ordId).send _)
        rcases hnew with hnew | ⟨-, hnew⟩
        · simpa [hnew, Store.send] using Store.Step.issue hfresh
        · simpa [hnew] using Store.Step.send hfresh
  | store hnot he hstep => exact .inl ⟨_, he, hstep⟩
  | canteen he =>
      refine .inr ⟨?_, rfl⟩
      cases e with
      | device | list | check | landOrder => cases he
      | _ => rfl
  | landUser he | otherUser he =>
      subst he
      exact .inr ⟨rfl, rfl⟩

/-- A run is one of the order store. -/
theorem store_run (h : Run Step s es t) :
    Run Store.Step s.store (es.filterMap Event.store?) t.store :=
  h.simulate System.store Event.store? store_step

theorem check_mem_filterMap {id : String} :
    .check d id ∈ es.filterMap Event.store? ↔ ∃ i, .check d i id ∈ es := by
  rw [List.mem_filterMap]
  constructor
  · rintro ⟨e, he, hstore⟩
    cases e with
    | check d' i id' =>
        cases hstore
        exact ⟨i, he⟩
    | device d' e' =>
        obtain ⟨ordId, -, hissue⟩ := Option.map_eq_some_iff.mp hstore
        cases hissue
    | list | landOrder => cases hstore
    | deliver | toggle | landUser | landMenu | otherUser | setPrice | addItem => cases hstore
  · rintro ⟨i, he⟩
    exact ⟨_, he, rfl⟩

/-- An order is sent by the completion of the read of a Pay call that covers it. -/
theorem sent_step (h : Step s e t) {id : String} {order : OrderDoc}
    (ht : .set id order ∈ t.store.writes) : .set id order ∈ s.store.writes ∨
      ∃ d i call r now menu, e = .device d (.menu i (.get call r id now)) ∧
        s.Genuine d (.menu i (.get call r id now)) ∧ (s.devices d).menu? i = some menu ∧
        menu.Covered r ∧ order = orderDoc menu.username menu.subtotal menu.cart now := by
  have hold {store : Store} {e' : StoreEvent} (hnot : ∀ id, e' ≠ .issue id)
      (hstep : Store.Step s.store e' store) (hset : .set id order ∈ store.writes) :
      .set id order ∈ s.store.writes := by
    cases hstep with
    | issue | send => exact absurd rfl (hnot _)
    | list => exact hset
    | land hland =>
        obtain ⟨write, -, rfl⟩ := Store.land_eq hland
        exact List.mem_of_mem_eraseIdx hset
    | check hcheck =>
        obtain ⟨-, rfl⟩ := Store.check_eq hcheck
        simpa using hset
  cases effect_step h with
  | @device d e' device he hgenuine hstep =>
      subst he
      change .set id order ∈ (sendOrders s.store (s.devices d) e').writes at ht
      rcases Device.newOrders_eq hstep with hnone |
          ⟨i, call, r, ordId, now, menu, rfl, hmenu, hnew⟩
      · rw [sendOrders, hnone] at ht
        exact .inl ht
      · change .set id order ∈ s.store.writes ++ _ at ht
        rcases List.mem_append.mp ht with hset | hset
        · exact .inl hset
        · rcases hnew with hnew | ⟨hc, hnew⟩
          · rw [hnew] at hset
            cases hset
          · rw [hnew, List.map_singleton, List.mem_singleton] at hset
            cases hset
            exact .inr ⟨d, i, call, r, now, menu, rfl, hgenuine, hmenu, hc, rfl⟩
  | store hnot he hstep =>
      refine .inl (hold (fun id' heq ↦ ?_) hstep ht)
      subst heq
      cases e with
      | device d e' => exact hnot d e' rfl
      | _ => cases he
  | canteen | landUser | otherUser => exact .inl ht

/-! ## The Menu -/

theorem canteen_step (h : Step s e t) :
    (∃ e', s.canteen? e = some e' ∧ ChangeMenu.System.Step s.canteen e' t.canteen) ∨
      s.canteen? e = none ∧ t.canteen = s.canteen := by
  cases effect_step h with
  | device he | landUser he | otherUser he =>
      subst he
      exact .inr ⟨rfl, rfl⟩
  | store hnot he =>
      refine .inr ⟨?_, rfl⟩
      cases e with
      | list | check | landOrder => rfl
      | device d e' => exact absurd rfl (hnot d e')
      | _ => cases he
  | canteen he hstep => exact .inl ⟨_, he, hstep⟩

/-! ## The collection `Users` -/

/-- A document of `Users` is stored by a sign-in or by another writer. -/
theorem users_step (h : Step s e t) : t.users = s.users ∨
    (∃ write ∈ s.userWrites,
      t.users = s.users.commit (s.users.current.set write.phone newUser)) ∨
    ∃ user doc, e = .otherUser user doc ∧ t.users =
      s.users.commit (doc.elim (s.users.current.remove user) (s.users.current.set user)) := by
  cases effect_step h with
  | device | store | canteen => exact .inl rfl
  | landUser _ hwrite => exact .inr (.inl ⟨_, List.mem_of_getElem? hwrite, rfl⟩)
  | otherUser he => exact .inr (.inr ⟨_, _, he, rfl⟩)

/-- The `set` of a sign-in is sent when the read of the document completes. -/
theorem userWrites_step (h : Step s e t) (hw : write ∈ t.userWrites) : write ∈ s.userWrites ∨
    ∃ e', e = .device write.device e' ∧ s.Genuine write.device e' ∧
      (s.devices write.device).setUser e' = some (write.call, write.phone) := by
  cases effect_step h with
  | @device d e' device he hgenuine =>
      rcases List.mem_append.mp hw with hw | hw
      · exact .inl hw
      · obtain ⟨set, hset, rfl⟩ := List.mem_map.mp hw
        exact .inr ⟨e', he, hgenuine, Option.mem_toList.mp hset⟩
  | store | canteen | otherUser => exact .inl hw
  | landUser => exact .inl (List.mem_of_mem_eraseIdx hw)

/-- What has been stored was stored before, or is the current document of a user
after a write. -/
theorem stored_step (h : Step s e t) (ht : t.Stored user doc) : s.Stored user doc ∨
    (∃ write ∈ s.userWrites, write.phone = user ∧ doc = some newUser) ∨
    e = .otherUser user doc := by
  obtain ⟨users, hmem, hdoc⟩ := ht
  have hcurrent : s.users.current.get? user = doc → s.Stored user doc :=
    fun h ↦ ⟨_, s.users.current_mem, h⟩
  rcases users_step h with heq | ⟨write, hw, heq⟩ | ⟨user', doc', rfl, heq⟩
  · exact .inl ⟨users, heq ▸ hmem, hdoc⟩
  · rw [heq, Register.mem_commit] at hmem
    rcases hmem with hmem | rfl
    · exact .inl ⟨users, hmem, hdoc⟩
    · rw [OrderedMap.get?_set] at hdoc
      split at hdoc
      · exact .inr (.inl ⟨write, hw, (‹user = write.phone›).symm, hdoc.symm⟩)
      · exact .inl (hcurrent hdoc)
  · rw [heq, Register.mem_commit] at hmem
    rcases hmem with hmem | rfl
    · exact .inl ⟨users, hmem, hdoc⟩
    · rw [OrderedMap.get?_elim] at hdoc
      split at hdoc
      · exact .inr (.inr (by rw [‹user = user'›, hdoc]))
      · exact .inl (hcurrent hdoc)

end System

end Deployment

end CollegeCanteens
