import CollegeCanteens.Canteen.System

/-!
# What authorises an order

Between its read and its order write a Pay call does not wait, so that the
balance it checks, the price it checks it against and the items it orders are
those of one moment.  The balance is older, it is what the server had when it
answered the read; `order_authorised` finds both moments in the run.
-/

namespace CollegeCanteens.Canteen.System

open Transition Menu

variable {users : OrderedMap String Fields} {username : Nat → String} {es : List Event}
  {s t : System} {i call : Nat} {r : Reply} {order : String × OrderDoc}

theorem username_run (h : Run Step (initial users username) es t) (i : Nat) :
    (t.screens i).username = username i :=
  h.invariant (P := fun s ↦ (s.screens i).username = username i) rfl
    fun hs hR ↦ (username_step hR i).trans hs

/-- Where the answer to a read that has not reached its Pay call comes from. -/
theorem serve_of_reply (h : Run Step (initial users username) es t)
    (hr : t.replies.get? (i, call) = some r) : ∃ pre err post a,
      es = pre ++ .serve i call err :: post ∧ Run Step (initial users username) pre a ∧
        call ∈ (a.screens i).reading ∧ r = a.answer (username i) err := by
  obtain ⟨pre, e, post, a, b, rfl, ha, hab, hna, hb, -⟩ :=
    h.exists_entry (P := fun s ↦ s.replies.get? (i, call) = some r) (by simp [initial]) hr
  obtain ⟨err, rfl, hread, rfl⟩ := reply_step hab hb hna
  exact ⟨pre, err, post, a, rfl, ha, hread, by rw [username_run ha i]⟩

/-- The order was written by a Pay call whose read was answered with a balance
`b`, in state `a`, and reached it in state `c`, whose subtotal is not zero and
at most `b`; it is the order of the cart and the subtotal of `c`. -/
def Authorised (users : OrderedMap String Fields) (username : Nat → String) (es : List Event)
    (i : Nat) (order : String × OrderDoc) : Prop :=
  ∃ pre mid post call now a c user b,
    es = pre ++ .serve i call none :: mid ++ .resume i call order.1 now :: post ∧
    Run Step (initial users username) pre a ∧
    Run Step (initial users username) (pre ++ .serve i call none :: mid) c ∧
    call ∈ (a.screens i).reading ∧
    a.users.get? (username i) = some user ∧ user.field "Balance" = .int b ∧
    (c.screens i).subtotal ≠ 0 ∧ (c.screens i).subtotal ≤ b ∧
    order.2 = orderDoc (username i) (c.screens i).subtotal (c.screens i).cart now

/-- Every order a screen has written was authorised for its own price. -/
theorem order_authorised (h : Run Step (initial users username) es t)
    (ho : order ∈ (t.screens i).orders) : Authorised users username es i order := by
  obtain ⟨pre, e, post, c, d, rfl, hc, hcd, hnc, hd, -⟩ :=
    h.exists_entry (P := fun s ↦ order ∈ (s.screens i).orders) List.not_mem_nil ho
  obtain ⟨call, r, now, rfl, hr, ⟨user, b, rfl, hb, h0, hle⟩, horder⟩ := order_step hcd hd hnc
  obtain ⟨pre, err, mid, a, rfl, ha, hread, hanswer⟩ := serve_of_reply hc hr
  cases err with
  | some e => cases hanswer
  | none =>
      refine ⟨pre, mid, post, call, now, a, c, user, b, rfl, ha, hc, hread, ?_, hb, h0, hle, ?_⟩
      · exact (Except.ok.inj hanswer).symm
      · rw [horder, username_run hc i]

/-- Two Pay calls of one screen overlap, and the cart grows while both wait. -/
def overlapping : List Event :=
  [.screen 0 (.snapshot (some (singleMenu "tea" 10 true))), .screen 0 (.add "tea"), .screen 0 .pay,
    .screen 0 .pay, .serve 0 1 none, .recharge "u" 5, .serve 0 0 none, .screen 0 (.add "tea"),
    .resume 0 0 "a" 0, .resume 0 1 "b" 1, .land 1]

theorem order_authorised_overlapping : Authorised (wallet "u" 50) (fun _ ↦ "u") overlapping 0
    ("a", orderDoc "u" 20 ((∅ : Cart).set "tea" ⟨2, 10, 20⟩) 0) :=
  order_authorised (run_exec_get (by decide)) (by decide)

end CollegeCanteens.Canteen.System
