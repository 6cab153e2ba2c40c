import CollegeCanteens.Canteen.System

/-!
# The life of an order

The orders of the collection are those that Pay calls have written, and what
becomes of them is read off the runs of the order store.
-/

namespace CollegeCanteens.Canteen.System

open Transition Menu Store

variable {users : OrderedMap String Fields} {username : Nat → String} {es : List Event}
  {s t : System} {e : Event} {i : Nat} {id : String}
  {order doc : OrderDoc}

/-! ## The orders written and the orders there -/

theorem tracked_run (h : Run Step (initial users username) es t) : t.Tracked :=
  Store.tracked_run (store_run h)

/-- An order that a screen has written stays written. -/
theorem orders_mono (h : Step s e t) (ho : (id, order) ∈ (s.screens i).orders) :
    (id, order) ∈ (t.screens i).orders := by
  have hstep {screenEvent} (hscreen : Screen.Step (s.screens i) screenEvent (t.screens i)) :
      (id, order) ∈ (t.screens i).orders := by
    rw [Screen.orders_append hscreen]
    exact List.mem_append_left _ ho
  rcases screen_step h i with heq | ⟨_, -, -, hscreen⟩ | ⟨_, _, _, _, -, -, hscreen⟩
  · rwa [heq]
  · exact hstep hscreen
  · exact hstep hscreen

/-- An order is sent when it is written. -/
theorem sent_put {screen : Screen} {screenEvent : Menu.Event}
    (h : Screen.Step (s.screens i) screenEvent screen) {j : Nat}
    (ho : (id, order) ∈ ((s.put i screen).screens j).orders) :
    (id, order) ∈ (s.screens j).orders ∨ .set id order ∈ (s.put i screen).writes := by
  rcases eq_or_ne j i with rfl | hne
  · rw [put_screens_self, Screen.orders_append h] at ho
    rcases List.mem_append.mp ho with ho | ho
    · exact .inl ho
    · exact .inr (List.mem_append_right _ (List.mem_map.mpr ⟨_, ho, rfl⟩))
  · exact .inl (by rwa [put_screens_of_ne hne] at ho)

theorem sent_step (h : Step s e t) (ho : (id, order) ∈ (t.screens i).orders) :
    (id, order) ∈ (s.screens i).orders ∨ .set id order ∈ t.writes := by
  by_cases hs : (id, order) ∈ (s.screens i).orders
  · exact .inl hs
  · obtain ⟨call, r, now, rfl, -⟩ := order_step h ho hs
    obtain ⟨r, screen, -, -, hscreen, rfl⟩ := step_resume h
    exact sent_put hscreen ho

/-- Every order that a Pay call has written is on its way or there. -/
theorem has_run (h : Run Step (initial users username) es t)
    (ho : (id, order) ∈ (t.screens i).orders) : t.Has id order := by
  refine h.invariantOn (P := fun _ s ↦ ∀ id order, (id, order) ∈ (s.screens i).orders →
    s.Has id order) (fun _ _ hm ↦ absurd hm List.not_mem_nil) ?_ id order ho
  intro es a e b hr ha hR id order ho
  rcases sent_step hR ho with ho | hset
  · rcases store_step hR with ⟨e', -, hstep⟩ | ⟨-, heq⟩
    · exact has_step (tracked_run hr) hstep (ha id order ho)
    · exact heq ▸ ha id order ho
  · exact .inl hset

/-- Every order on its way or there was written by a Pay call. -/
def Written (s : System) : Prop :=
  (∀ id order, .set id order ∈ s.writes → ∃ i, (id, order) ∈ (s.screens i).orders) ∧
    ∀ id doc, s.orders.get? id = some doc →
      ∃ i order, (id, order) ∈ (s.screens i).orders ∧ Follows order doc

theorem set_put {screen : Screen} (hset : .set id order ∈ (s.put i screen).writes) :
    .set id order ∈ s.writes ∨ ∃ j, (id, order) ∈ ((s.put i screen).screens j).orders := by
  rcases List.mem_append.mp hset with hset | hset
  · exact .inl hset
  · obtain ⟨order', ho, heq⟩ := List.mem_map.mp hset
    cases heq
    exact .inr ⟨i, by rw [put_screens_self]; exact List.mem_of_mem_drop ho⟩

/-- What is sent has been written on a screen. -/
theorem set_step (h : Step s e t) (hset : .set id order ∈ t.writes) :
    .set id order ∈ s.writes ∨ ∃ i, (id, order) ∈ (t.screens i).orders := by
  cases e with
  | screen i screenEvent =>
      obtain ⟨-, screen, -, rfl⟩ := step_screen h
      exact set_put hset
  | resume i call ordId now =>
      obtain ⟨r, screen, -, -, -, rfl⟩ := step_resume h
      exact set_put hset
  | land n =>
      obtain ⟨store, hstore, rfl⟩ := step_land h
      obtain ⟨write, hwrite, rfl⟩ := land_eq hstore
      exact .inl (List.mem_of_mem_eraseIdx hset)
  | list =>
      rw [step_list h] at hset
      exact .inl hset
  | check admin id' =>
      obtain ⟨store, hstore, rfl⟩ := step_check h
      obtain ⟨-, rfl⟩ := check_eq hstore
      rcases List.mem_append.mp hset with hset | hset
      · exact .inl hset
      · cases List.mem_singleton.mp hset
  | serve | signIn | authenticate | serveSignIn | resumeSignIn | landSignIn | recharge | otherWrite =>
      -- these leave the store as it is
      rcases store_step h with ⟨e', he, -⟩ | ⟨-, heq⟩
      · cases he
      · exact .inl (heq ▸ hset)

theorem written_step (hs : s.Written) (h : Step s e t) : t.Written := by
  refine ⟨fun id order hset ↦ ?_, fun id doc hd ↦ ?_⟩
  · rcases set_step h hset with hset | ho
    · obtain ⟨i, ho⟩ := hs.1 id order hset
      exact ⟨i, orders_mono h ho⟩
    · exact ho
  · have hold : (∃ doc', s.orders.get? id = some doc' ∧ Follows doc' doc) ∨
        .set id doc ∈ s.writes := by
      rcases store_step h with ⟨e', -, hstep⟩ | ⟨-, heq⟩
      · exact origin_step hstep hd
      · exact .inl ⟨doc, heq ▸ hd, .refl doc⟩
    rcases hold with ⟨doc', hd', hf⟩ | hset
    · obtain ⟨i, order, ho, hf'⟩ := hs.2 id doc' hd'
      exact ⟨i, order, orders_mono h ho, hf'.trans hf⟩
    · obtain ⟨i, ho⟩ := hs.1 id doc hset
      exact ⟨i, doc, orders_mono h ho, .refl doc⟩

theorem written_run (h : Run Step (initial users username) es t) : t.Written :=
  h.invariant ⟨by simp [initial, Store.initial], by simp [initial, Store.initial]⟩ written_step

/-! ## The laws -/

theorem check_mem_filterMap {admin : Nat} :
    .check admin id ∈ es.filterMap storeEvent ↔ .check admin id ∈ es := by
  rw [List.mem_filterMap]
  constructor
  · rintro ⟨e, he, heq⟩
    cases e <;> cases heq
    exact he
  · exact fun he ↦ ⟨_, he, rfl⟩

/-- Once all writes have landed, the served orders are those that were checked. -/
theorem served_iff_checked (h : Run Step (initial users username) es t) (hw : t.writes = []) :
    t.Served id ↔ ∃ admin, .check admin id ∈ es := by
  simp only [Store.served_iff_checked (store_run h) hw, check_mem_filterMap]

/-- The laws of the life of an order, of a state that the events `es` have led
to. -/
structure Lifecycle (es : List Event) (t : System) : Prop where
  /-- Exactly one of the two queries selects an order that is there. -/
  one_query : ∀ id ∈ t.orders, (t.Pending id ↔ ¬ t.Served id)
  /-- An order that has been written is there or on its way. -/
  not_lost : ∀ i id order, (id, order) ∈ (t.screens i).orders → t.Has id order
  /-- An order does not leave the served ones. -/
  served : ∀ es' u, Run Step t es' u → ∀ id, t.Served id → u.Served id
  /-- An order stays, and no field of it but `isServed` changes. -/
  frame : ∀ es' u, Run Step t es' u → ∀ id doc, t.orders.get? id = some doc →
    ∃ doc', u.orders.get? id = some doc' ∧
      ∀ name, name ≠ "isServed" → doc'.get? name = doc.get? name
  /-- Once all writes have landed, the served orders are those that were checked. -/
  served_iff : t.writes = [] → ∀ id, t.Served id ↔ ∃ admin, .check admin id ∈ es
  /-- Once all writes have landed, which of the orders are served and which are
  pending depends on nothing but which have been checked. -/
  checked : ∀ users username es' u, Run Step (initial users username) es' u →
    t.writes = [] → u.writes = [] → (∀ id, id ∈ t.orders ↔ id ∈ u.orders) →
    (∀ id, (∃ admin, .check admin id ∈ es) ↔ ∃ admin, .check admin id ∈ es') →
    ∀ id, (t.Served id ↔ u.Served id) ∧ (t.Pending id ↔ u.Pending id)

/-- Every reachable state obeys the laws. -/
theorem order_lifecycle (h : Run Step (initial users username) es t) : Lifecycle es t := by
  have ht := tracked_run h
  constructor
  case one_query =>
    intro id hid
    rw [pending_iff ht]
    exact and_iff_right hid
  case not_lost => exact fun i id order ↦ has_run h
  case served => exact fun es' u hu id ↦ served_run ht (store_run hu)
  case frame =>
    intro es' u hu id doc hd
    obtain ⟨doc', hd', hf⟩ := follows_run ht (store_run hu) hd
    exact ⟨doc', hd', hf.1⟩
  case served_iff => exact fun hw id ↦ served_iff_checked h hw
  case checked =>
    intro users' username' es' u hu hwt hwu horders hchecked id
    have hserved : t.Served id ↔ u.Served id := by
      rw [served_iff_checked h hwt, served_iff_checked hu hwu, hchecked id]
    refine ⟨hserved, ?_⟩
    rw [pending_iff ht, pending_iff (tracked_run hu), horders id, hserved]

/-- Two orders, of which two admins check the first one. -/
def checkedTwice : List Event :=
  [.screen 0 (.snapshot (some (singleMenu "tea" 10 true))), .screen 0 (.add "tea"), .screen 0 .pay,
    .serve 0 0 none, .resume 0 0 "a" 0, .land 0, .screen 0 .dismiss, .screen 0 (.add "tea"),
    .screen 0 .pay, .serve 0 1 none, .resume 0 1 "b" 1, .land 0, .list, .check 0 "a", .check 1 "a",
    .land 1, .land 0]

theorem order_lifecycle_checkedTwice : Lifecycle checkedTwice
    ((exec step (initial (wallet "u" 50) fun _ ↦ "u") checkedTwice).get (by decide)) :=
  order_lifecycle (run_exec_get (by decide))

end CollegeCanteens.Canteen.System
