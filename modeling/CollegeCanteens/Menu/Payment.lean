import CollegeCanteens.Menu.Screen

/-!
# What a Pay call pays for

Pay is tapped on one cart and writes its order after an await.  The order holds
the cart and the subtotal as they are when the await is over, which is also when
the balance is checked (`paidFor_run`).  They are the ones that were on the
screen when Pay was tapped unless a tap on a row, or the reset of another call,
came in between; `not_asTapped_addedWhilePaying` is a run where one did.
-/

namespace CollegeCanteens.Menu

open Transition

namespace Screen

variable {username : String} {es : List Event} {s t : Screen} {e : Event} {call : Nat}

theorem edits_of_ne (h : Step s e t) (hne : t.toMenuState ≠ s.toMenuState) : Edits s e := by
  obtain ⟨m, hm, hchange⟩ := change_step h
  rw [hm] at hne
  cases hchange with
  | add | remove => trivial
  | reset hreset => exact hreset
  | none => exact absurd rfl hne

/-- A call waits for its read from its tap on, and each tap is a new call. -/
theorem reading_step (h : Step s e t) (hs : call ∉ s.reading) (ht : call ∈ t.reading) :
    e = .pay ∧ call = s.calls ∧ t.toMenuState = s.toMenuState := by
  cases e with
  | pay =>
      rw [step_pay h] at ht ⊢
      exact ⟨rfl, List.mem_singleton.mp ((List.mem_append.mp ht).resolve_left hs), rfl⟩
  | snapshot data => exact absurd (by rwa [step_snapshot h] at ht) hs
  | add key => exact absurd (by rwa [(step_add h).2] at ht) hs
  | remove key => exact absurd (by rwa [(step_remove h).2] at ht) hs
  | get call' r ordId now =>
      rw [(step_get h).2, resumePay_reading] at ht
      exact absurd (List.mem_of_mem_erase ht) hs
  | dismiss =>
      rcases step_dismiss h with ⟨_, _, -, rfl⟩ | ⟨_, _, -, -, rfl⟩ <;> exact absurd ht hs

/-- A run that ends with another cart or subtotal has come to an event that may
change them, with the ones it started with. -/
theorem exists_edit (h : Run Step s es t) (hne : t.toMenuState ≠ s.toMenuState) :
    ∃ pre e post a, es = pre ++ e :: post ∧ Run Step s pre a ∧ a.toMenuState = s.toMenuState ∧
      Edits a e := by
  obtain ⟨pre, e, post, a, b, hes, ha, hab, hsame, hb, -⟩ :=
    h.exists_entry (P := fun a ↦ a.toMenuState ≠ s.toMenuState) (not_not_intro rfl) hne
  rw [not_not] at hsame
  exact ⟨pre, e, post, a, hes, ha, hsame, edits_of_ne hab (hsame ▸ hb)⟩

/-- The order was written by a Pay call, tapped in a state `a` and resumed in a
state `b`, with the cart and the subtotal of `b`.  They are those of `a`, or an
event between the tap and the completion of the read may have changed them. -/
def PaidFor (username : String) (es : List Event) (order : String × OrderDoc) : Prop :=
  ∃ pre mid post a b r now, es = pre ++ .pay :: mid ++ .get a.calls r order.1 now :: post ∧
    Run Step (initial username) pre a ∧ Run Step (initial username) (pre ++ .pay :: mid) b ∧
    order.2 = orderDoc username b.subtotal b.cart now ∧
    (b.toMenuState = a.toMenuState ∨ ∃ mid' e mid'' c, mid = mid' ++ e :: mid'' ∧
      Run Step (initial username) (pre ++ .pay :: mid') c ∧ c.toMenuState = a.toMenuState ∧
        Edits c e)

/-- In every run of a screen, every order holds the cart and the subtotal that
were there when the read of its Pay call completed, which are the ones that were
there at its tap unless they were edited in between. -/
theorem paidFor_run (h : Run Step (initial username) es s) {order : String × OrderDoc}
    (ho : order ∈ s.orders) : PaidFor username es order := by
  obtain ⟨until', call, r, now, post, b, rfl, hb, hreading, -, hdoc⟩ := order_of_mem h ho
  obtain ⟨pre, e, mid, a, a', rfl, ha, haa', hna, ha', hmid⟩ :=
    hb.exists_entry (P := fun s ↦ call ∈ s.reading) List.not_mem_nil hreading
  obtain ⟨rfl, rfl, hstate⟩ := reading_step haa' hna ha'
  have huser : b.username = username :=
    hb.invariant (P := fun b ↦ b.username = username) rfl fun hc hR ↦ (username_step hR).trans hc
  refine ⟨pre, mid, post, a, b, r, now, rfl, ha, hb, huser ▸ hdoc, ?_⟩
  by_cases hsame : b.toMenuState = a'.toMenuState
  · exact .inl (hsame.trans hstate)
  · obtain ⟨mid', e, mid'', c, rfl, hc, hca, hedit⟩ := exists_edit hmid.of_staying hsame
    exact .inr ⟨mid', e, mid'', c, rfl, ha.trans (.head haa' hc), hca.trans hstate, hedit⟩

/-- A tea that is added while a Pay call for another one waits for its read. -/
def addedWhilePaying : List Event :=
  [.snapshot (some (singleMenu "tea" 10 true)), .add "tea", .pay, .add "tea"]

/-- The state `addedWhilePaying` leads to. -/
def twoTeas : Screen := (exec step (initial "u") addedWhilePaying).get (by decide)

/-- The state after the Pay call's read. -/
def twoTeasOrdered : Screen := twoTeas.resumePay 0 (walletReply 50) "a" 0

theorem run_addedWhilePaying : Run Step (initial "u") addedWhilePaying twoTeas :=
  run_exec_get (by decide)

theorem step_twoTeas : Step twoTeas (.get 0 (walletReply 50) "a" 0) twoTeasOrdered :=
  get_of_mem (by decide)

theorem paidFor_addedWhilePaying :
    PaidFor "u" (addedWhilePaying ++ [.get 0 (walletReply 50) "a" 0])
      ("a", orderDoc "u" 20 twoTeas.cart 0) :=
  paidFor_run (run_addedWhilePaying.snoc step_twoTeas) (by decide)

/-- Pay was tapped on one tea, and two are ordered. -/
theorem not_asTapped_addedWhilePaying : ¬ ∀ (username : String) (pre mid : List Event)
    (a b t : Screen) (r : Reply) (ordId : String) (now : Int),
    Run Step (initial username) pre a → Run Step (initial username) (pre ++ .pay :: mid) b →
      Step b (.get a.calls r ordId now) t → ∀ order ∈ t.orders, order ∉ b.orders →
        order.2.items = a.cart ∧ order.2.price = some a.subtotal := by
  intro h
  have hprice := (h "u" [.snapshot (some (singleMenu "tea" 10 true)), .add "tea"] [.add "tea"] _
    twoTeas twoTeasOrdered (walletReply 50) "a" 0 (run_exec_get (by decide)) run_addedWhilePaying
    step_twoTeas ("a", orderDoc "u" 20 twoTeas.cart 0) (by decide) (by decide)).2
  exact absurd hprice (by decide)

end Screen

end CollegeCanteens.Menu
