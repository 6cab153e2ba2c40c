import CollegeCanteens.Menu.Screen

/-!
# Availability of the items held and ordered

The filter of a Menu screen decides which items have a row, and so which items
an add tap can put into the cart.  It is not applied to the cart: an item whose
row a later snapshot takes away stays in the cart, and Pay orders it
(`not_available_hiddenAfterAdd`).

What does hold of every key in a cart is where it comes from
(`AddedWhileShown`): an add tap at a time when the item was shown put it there,
and should it have no row any more, a snapshot delivered since then left it out.
-/

namespace CollegeCanteens.Menu

open Transition

namespace Screen

variable {username k : String} {es : List Event} {s t : Screen} {e : Event}

/-! ## How a key gets into the cart -/

/-- Only an add tap on its row puts a key into the cart, and it leaves the rows
as they are. -/
theorem add_of_enters (h : Step s e t) (hs : k ∉ s.cart) (ht : k ∈ t.cart) :
    e = .add k ∧ k ∈ s.rows ∧ k ∈ t.rows := by
  obtain ⟨m, hm, hchange⟩ := change_step h
  rw [hm] at ht
  cases hchange with
  | @add key _ _ hrow htap =>
      have hrows : t.rows = s.rows :=
        (rows_step h).resolve_right fun ⟨_, he, _⟩ ↦ by cases he
      cases htap with
      | int =>
          obtain rfl : k = key := (OrderedMap.mem_set.mp ht).resolve_right hs
          exact ⟨rfl, hrow, hrows ▸ hrow⟩
      | uncast => exact absurd ht hs
  | remove _ htap => exact absurd (htap.mem_of_mem ht) hs
  | reset => exact absurd ht OrderedMap.notMem_empty
  | none => exact absurd ht hs

/-- A key in the cart was put there by an add tap made while its item was shown,
and has been in the cart since; should it have no row now, a snapshot delivered
since that tap left it out. -/
def AddedWhileShown (username : String) (es : List Event) (s : Screen) (k : String) : Prop :=
  ∃ pre post a b, es = pre ++ .add k :: post ∧ Run Step (initial username) pre a ∧ k ∈ a.rows ∧
    Step a (.add k) b ∧ Run (Staying (fun s ↦ k ∈ s.cart) Step) b post s ∧
    (k ∈ s.rows ∨ ∃ data, .snapshot data ∈ post ∧ k ∉ (shownMenu data).getD ∅)

theorem addedWhileShown (h : Run Step (initial username) es s) (hk : k ∈ s.cart) :
    AddedWhileShown username es s k := by
  obtain ⟨pre, e, post, a, b, rfl, ha, hab, hna, hb, hpost⟩ :=
    h.exists_entry (P := fun s ↦ k ∈ s.cart) OrderedMap.notMem_empty hk
  obtain ⟨rfl, hrow, hrow'⟩ := add_of_enters hab hna hb
  refine ⟨pre, post, a, b, rfl, ha, hrow, hab, hpost, ?_⟩
  by_cases hnow : k ∈ s.rows
  · exact .inl hnow
  · -- the row was lost at one of the steps since, and only a snapshot takes rows away
    obtain ⟨pre', e, post', c, d, rfl, -, hcd, hc, hd, -⟩ :=
      hpost.of_staying.exists_entry (P := fun s ↦ k ∉ s.rows) (not_not_intro hrow') hnow
    rcases rows_step hcd with heq | ⟨data, rfl, heq⟩
    · exact absurd (heq ▸ hd) hc
    · exact .inr ⟨data, by simp, heq ▸ hd⟩

/-- In every run of a screen, each key of the cart was put there by an add tap
made while its item was shown and is shown now unless a snapshot delivered since
left it out; and each order has the items of the cart at the moment it was
written, of whose keys the same held then. -/
theorem addedWhileShown_run (h : Run Step (initial username) es s) :
    (∀ k ∈ s.cart, AddedWhileShown username es s k) ∧
      ∀ order ∈ s.orders, ∃ pre call r now post a,
        es = pre ++ .get call r order.1 now :: post ∧ Run Step (initial username) pre a ∧
          order.2.items = a.cart ∧ ∀ k ∈ order.2.items, AddedWhileShown username pre a k := by
  refine ⟨fun k hk ↦ addedWhileShown h hk, fun order ho ↦ ?_⟩
  obtain ⟨pre, call, r, now, post, a, hes, ha, -, -, hdoc⟩ := order_of_mem h ho
  have hitems : order.2.items = a.cart := by rw [hdoc, OrderDoc.items_orderDoc]
  exact ⟨pre, call, r, now, post, a, hes, ha, hitems,
    fun k hk ↦ addedWhileShown ha (hitems ▸ hk)⟩

/-- A tea that is hidden after it was added, while a Pay call waits for its
read. -/
def hiddenAfterAdd : List Event :=
  [.snapshot (some (singleMenu "tea" 10 true)), .add "tea", .pay,
    .snapshot (some (singleMenu "tea" 10 false))]

/-- The state `hiddenAfterAdd` leads to. -/
def hidden : Screen := (exec step (initial "u") hiddenAfterAdd).get (by decide)

/-- The state after the Pay call's read. -/
def hiddenOrdered : Screen := hidden.resumePay 0 (walletReply 50) "a" 0

theorem run_hiddenAfterAdd : Run Step (initial "u") hiddenAfterAdd hidden :=
  run_exec_get (by decide)

theorem step_hidden : Step hidden (.get 0 (walletReply 50) "a" 0) hiddenOrdered :=
  get_of_mem (by decide)

theorem addedWhileShown_hiddenAfterAdd :
    (∀ k ∈ hiddenOrdered.cart,
        AddedWhileShown "u" (hiddenAfterAdd ++ [.get 0 (walletReply 50) "a" 0]) hiddenOrdered k) ∧
      ∀ order ∈ hiddenOrdered.orders, ∃ pre call r now post a,
        hiddenAfterAdd ++ [.get 0 (walletReply 50) "a" 0] = pre ++ .get call r order.1 now :: post ∧
          Run Step (initial "u") pre a ∧ order.2.items = a.cart ∧
            ∀ k ∈ order.2.items, AddedWhileShown "u" pre a k :=
  addedWhileShown_run (run_hiddenAfterAdd.snoc step_hidden)

/-- The cart may hold an item that has no row, and Pay may order one. -/
theorem not_available_hiddenAfterAdd :
    (¬ ∀ (username : String) (es : List Event) (s : Screen), Run Step (initial username) es s →
      ∀ k ∈ s.cart, k ∈ s.rows) ∧
    ¬ ∀ (username : String) (es : List Event) (s t : Screen) (e : Event),
      Run Step (initial username) es s → Step s e t → ∀ order ∈ t.orders, order ∉ s.orders →
        ∀ k ∈ order.2.items, k ∈ s.rows := by
  constructor
  · intro h
    have hrow : "tea" ∈ hidden.rows := h "u" _ _ run_hiddenAfterAdd "tea" (by decide)
    exact absurd hrow (by decide)
  · intro h
    have hrow : "tea" ∈ hidden.rows :=
      h "u" _ _ _ _ run_hiddenAfterAdd step_hidden ("a", orderDoc "u" 10 hidden.cart 0)
        (by decide) (by decide) "tea" (by decide)
    exact absurd hrow (by decide)

end Screen

end CollegeCanteens.Menu
