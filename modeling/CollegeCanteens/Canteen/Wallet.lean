import CollegeCanteens.Canteen.Accounts
import CollegeCanteens.Canteen.Authorisation
import CollegeCanteens.Canteen.Lifecycle

/-!
# Balances and what is spent

Pay compares the subtotal with a Balance and takes nothing off it: the app does
not write the Balance of an account that is there.  A Balance is therefore what
it was at the start and what it has been recharged with, each order is within
it (`affordable`), and nothing bounds what several orders come to
(`not_within_wallet`).
-/

namespace CollegeCanteens.Canteen

open Transition Menu FixedWidth

/-- What a user's wallet is recharged with. -/
def rechargeOf (user : String) : Event → Int
  | .recharge user' amount => if user' = user then amount else 0
  | _ => 0

/-- What a user's wallet is recharged with in all. -/
def recharges (user : String) (es : List Event) : Int := (es.map (rechargeOf user)).sum

/-- The field `Balance` of a user's document. -/
def balance (users : OrderedMap String Fields) (user : String) : Option Scalar :=
  (users.get? user).map fun doc ↦ doc.field "Balance"

/-- The Balance that a user starts with; zero if there is none. -/
def startingBalance (users : OrderedMap String Fields) (user : String) : Int :=
  match balance users user with
  | some (.int b) => b.toInt
  | _ => 0

/-- The second Balance is the first one after recharges of so much in all. -/
def ToppedUp (amount : Int) : Scalar → Scalar → Prop
  | .int b, v => ∃ b', v = .int b' ∧ b'.toInt = b.toInt + amount
  | v, v' => v' = v

namespace System

/-- What others write leaves every Balance as it is. -/
def BalanceKept (s : System) : Event → Prop
  | .otherWrite user doc => (doc.map fun doc ↦ doc.field "Balance") = balance s.users user
  | _ => True

instance (s : System) (e : Event) : Decidable (BalanceKept s e) :=
  match e with
  | .otherWrite user doc =>
    inferInstanceAs (Decidable ((doc.map fun doc ↦ doc.field "Balance") = balance s.users user))
  | .screen _ _ | .serve _ _ _ | .resume _ _ _ _ | .land _ | .list | .check _ _ | .signIn _
  | .authenticate _ _ _ | .serveSignIn _ _ | .resumeSignIn _ | .landSignIn _ _
  | .recharge _ _ => .isTrue trivial

/-- The prices of all orders of a user. -/
def spent (s : System) (user : String) : Int :=
  s.orders.sum fun _ order ↦
    if order.user = some (.scalar (.string user)) then (order.price.getD 0).toInt else 0

variable {users : OrderedMap String Fields} {username : Nat → String} {es : List Event}
  {s t : System} {e : Event} {user : String}

/-! ## What changes a Balance -/

theorem recharged_eq {doc doc' : Fields} {amount : Int} (h : recharged doc amount = some doc') :
    ∃ b b', doc.field "Balance" = .int b ∧ 0 < amount ∧ doc'.field "Balance" = .int b' ∧
      b'.toInt = b.toInt + amount := by
  unfold recharged at h
  split at h
  · next b hb =>
      split at h
      · next hamount =>
          obtain rfl := Option.some.inj h
          refine ⟨b, .ofInt (b.toInt + amount), hb, hamount.1, by simp [Fields.field], ?_⟩
          exact toInt_ofInt_iff.mpr hamount.2
      · cases h
  · cases h

theorem balance_set {user' : String} {doc : Fields} : balance (users.set user' doc) user =
    if user = user' then some (doc.field "Balance") else balance users user := by
  unfold balance
  rw [OrderedMap.get?_set]
  split <;> rfl

theorem balance_elim {user' : String} {doc : Option Fields} :
    balance (doc.elim (users.remove user') (users.set user')) user =
      if user = user' then doc.map fun d ↦ d.field "Balance" else balance users user := by
  unfold balance
  rw [OrderedMap.get?_elim]
  split <;> rfl

/-- A Balance changes only by a recharge, and by a sign-in that creates the
account. -/
theorem balance_step (hkept : BalanceKept s e) (h : Step s e t) (user : String) :
    balance t.users user = balance s.users user ∧ rechargeOf user e = 0 ∨
    s.Creating user ∧ balance t.users user = some (.int 0) ∧ rechargeOf user e = 0 ∨
    ∃ b b', balance s.users user = some (.int b) ∧ 0 < rechargeOf user e ∧
      balance t.users user = some (.int b') ∧ b'.toInt = b.toInt + rechargeOf user e := by
  rcases users_step h with ⟨heq, hnot⟩ | ⟨call, phone, reply, rfl, hcall, heq⟩ |
      ⟨user', amount, doc, doc', rfl, hdoc, hre, heq⟩ | ⟨user', doc, rfl, heq⟩ <;> rw [heq]
  · refine .inl ⟨rfl, ?_⟩
    cases e with
    | recharge user' amount => exact absurd rfl (hnot user' amount)
    | _ => rfl
  · rw [balance_set]
    rcases eq_or_ne user phone with rfl | hne
    · exact .inr (.inl ⟨creating_of_get? hcall rfl, if_pos rfl, rfl⟩)
    · exact .inl ⟨if_neg hne, rfl⟩
  · obtain ⟨b, b', hb, hpos, hb', hsum⟩ := recharged_eq hre
    rw [balance_set]
    rcases eq_or_ne user user' with rfl | hne
    · refine .inr (.inr ⟨b, b', ?_, ?_, ?_, ?_⟩) <;>
        simp [balance, rechargeOf, hdoc, hb, hpos, hb', hsum]
    · exact .inl ⟨if_neg hne, if_neg (Ne.symm hne)⟩
  · refine .inl ⟨?_, rfl⟩
    rw [balance_elim]
    split
    · obtain rfl := ‹user = user'›
      exact hkept
    · rfl

/-! ## Balances over a run -/

theorem recharges_append (user : String) (es : List Event) (e : Event) :
    recharges user (es ++ [e]) = recharges user es + rechargeOf user e := by
  simp [recharges]

/-- An account that was there at the start has its starting Balance and what it
was recharged with, and no sign-in creates it; one that was not has at most what
it was recharged with. -/
def Accounted (users : OrderedMap String Fields) (es : List Event) (s : System) (user : String) :
    Prop :=
  (∃ v v', balance users user = some v ∧ balance s.users user = some v' ∧
      ToppedUp (recharges user es) v v' ∧ ¬ s.Creating user) ∨
    balance users user = none ∧
      ∀ b, balance s.users user = some (.int b) → b.toInt ≤ recharges user es

theorem toppedUp_zero {v : Scalar} : ToppedUp 0 v v := by
  cases v with
  | int b => exact ⟨b, rfl, (add_zero b.toInt).symm⟩
  | null | bool | double | string | timestamp => rfl

theorem toppedUp_add {u v w : Scalar} {m n : Int} (h : ToppedUp m u v) (h' : ToppedUp n v w) :
    ToppedUp (m + n) u w := by
  cases u with
  | int b =>
      obtain ⟨b', rfl, hb'⟩ := h
      obtain ⟨b'', rfl, hb''⟩ := h'
      exact ⟨b'', rfl, by rw [hb'', hb', add_assoc]⟩
  | null | bool | double | string | timestamp =>
      obtain rfl := h
      exact h'

theorem rechargeOf_nonneg (hkept : BalanceKept s e) (h : Step s e t) (user : String) :
    0 ≤ rechargeOf user e := by
  rcases balance_step hkept h user with ⟨-, h0⟩ | ⟨-, -, h0⟩ | ⟨b, b', -, hpos, -⟩
  · exact h0.ge
  · exact h0.ge
  · exact hpos.le

/-- Recharges only ever add up. -/
theorem recharges_nonneg (h : Run (Guarded BalanceKept Step) s es t) (user : String) :
    0 ≤ recharges user es := by
  refine h.invariantOn (P := fun es _ ↦ 0 ≤ recharges user es) (by simp [recharges]) ?_
  intro es a e b _ hes hR
  rw [recharges_append]
  exact Int.add_nonneg hes (rechargeOf_nonneg hR.1 hR.2 user)

/-- What `balance_step` says, but for a sign-in that creates the account. -/
theorem toppedUp_step (hkept : BalanceKept s e) (h : Step s e t) (hc : ¬ s.Creating user)
    {v : Scalar} (hv : balance s.users user = some v) :
    ∃ v', balance t.users user = some v' ∧ ToppedUp (rechargeOf user e) v v' := by
  rcases balance_step hkept h user with ⟨heq, h0⟩ | ⟨hcreating, -⟩ | ⟨b, b', hb, -, hb', hsum⟩
  · exact ⟨v, heq.trans hv, h0 ▸ toppedUp_zero⟩
  · exact absurd hcreating hc
  · obtain rfl := Option.some.inj (hv.symm.trans hb)
    exact ⟨.int b', hb', b', rfl, hsum⟩

theorem accounted_run (h : Run (Guarded BalanceKept Step) (initial users username) es t)
    (user : String) : Accounted users es t user := by
  refine h.invariantOn (P := fun es s ↦ Accounted users es s user) ?_ ?_
  · cases hv : balance users user with
    | none => exact .inr ⟨hv, fun b hb ↦ by cases hv.symm.trans hb⟩
    | some v =>
        refine .inl ⟨v, v, hv, hv, toppedUp_zero, ?_⟩
        rintro ⟨e, he, -⟩
        cases he
  · intro es a e b hr ha hR
    rcases ha with ⟨v, v', hv, hbal, htop, hc⟩ | ⟨hnone, hle⟩
    · obtain ⟨v'', hbal', htop'⟩ := toppedUp_step hR.1 hR.2 hc hbal
      refine .inl ⟨v, v'', hv, hbal', ?_, fun hcb ↦ ?_⟩
      · rw [recharges_append]
        exact toppedUp_add htop htop'
      · rcases creating_step hR.2 hcb with hca | ⟨hnone, -⟩
        · exact hc hca
        · rw [balance, hnone] at hbal
          cases hbal
    · refine .inr ⟨hnone, fun n hn ↦ ?_⟩
      rw [recharges_append]
      rcases balance_step hR.1 hR.2 user with ⟨heq, h0⟩ | ⟨-, heq, h0⟩ | ⟨m, m', hm, -, heq, hsum⟩
      · rw [heq] at hn
        rw [h0, add_zero]
        exact hle n hn
      · cases heq.symm.trans hn
        rw [h0, add_zero]
        exact recharges_nonneg hr user
      · cases heq.symm.trans hn
        rw [hsum]
        exact Int.add_le_add_right (hle m hm) _

/-- A Balance is at most what the wallet started with and was recharged with. -/
theorem balance_le (h : Run (Guarded BalanceKept Step) (initial users username) es t) {b : Int64}
    (hb : balance t.users user = some (.int b)) :
    b.toInt ≤ startingBalance users user + recharges user es := by
  rcases accounted_run h user with ⟨v, v', hv, hbal, htop, -⟩ | ⟨hnone, hle⟩
  · cases hbal.symm.trans hb
    cases v with
    | int b₀ =>
        obtain ⟨_, ⟨⟩, hsum⟩ := htop
        rw [startingBalance, hv]
        exact hsum.le
    | null | bool | double | string | timestamp => cases htop
  · rw [startingBalance, hnone, zero_add]
    exact hle b hb

/-! ## Orders and the wallet -/

/-- The price of an order is within what the wallet held when its Pay call read
it. -/
theorem price_le (h : Run (Guarded BalanceKept Step) (initial users username) es t) {i : Nat}
    {order : String × OrderDoc} (ho : order ∈ (t.screens i).orders) {p : Int64}
    (hp : order.2.price = some p) :
    p.toInt ≤ startingBalance users (username i) + recharges (username i) es := by
  obtain ⟨pre, mid, post, call, now, a, c, doc, b, rfl, ha, -, -, hdoc, hb, -, hle, horder⟩ :=
    order_authorised h.of_guarded ho
  have hes : pre ++ .serve i call none :: mid ++ .resume i call order.1 now :: post =
      pre ++ (.serve i call none :: mid ++ .resume i call order.1 now :: post) := by simp
  rw [hes] at h ⊢
  obtain ⟨a', ha', hrest⟩ := h.split
  obtain rfl := ha.det ha'.of_guarded
  have hread : balance a.users (username i) = some (.int b) := by simp [balance, hdoc, hb]
  rw [horder, OrderDoc.price_orderDoc] at hp
  obtain rfl := Option.some.inj hp
  calc (c.screens i).subtotal.toInt ≤ b.toInt := Int64.le_iff_toInt_le.mp hle
    _ ≤ startingBalance users (username i) + recharges (username i) pre := balance_le ha' hread
    _ ≤ _ := by
      rw [recharges, recharges, List.map_append, List.sum_append, ← add_assoc]
      exact Int.le_add_of_nonneg_right (recharges_nonneg hrest _)

/-- Every order recorded for a user is within the wallet's starting Balance and
recharges, and these are what an account's Balance comes to, whatever has been
paid. -/
theorem affordable (h : Run (Guarded BalanceKept Step) (initial users username) es t) :
    (∀ id doc user p, t.orders.get? id = some doc →
      doc.user = some (.scalar (.string user)) → doc.price = some p →
      p.toInt ≤ startingBalance users user + recharges user es) ∧
    ∀ user b, balance users user = some (.int b) →
      ∃ b', balance t.users user = some (.int b') ∧ b'.toInt = b.toInt + recharges user es := by
  constructor
  · intro id doc user p hdoc huser hp
    obtain ⟨i, order, ho, hsame, -⟩ := (written_run h.of_guarded).2 id doc hdoc
    have hprice : order.price = some p := by rwa [OrderDoc.price, ← hsame "price" (by decide)]
    obtain ⟨pre, mid, post, call, now, a, c, _, _, -, -, -, -, -, -, -, -, horder⟩ :=
      order_authorised h.of_guarded ho
    have hname : username i = user := by
      have huser' : order.user = some (.scalar (.string user)) := by
        rwa [OrderDoc.user, ← hsame "user" (by decide)]
      rw [show order = _ from horder, OrderDoc.user_orderDoc] at huser'
      simpa using huser'
    exact hname ▸ price_le h ho hprice
  · intro user b hb
    rcases accounted_run h user with ⟨v, v', hv, hbal, htop, -⟩ | ⟨hnone, -⟩
    · obtain rfl := Option.some.inj (hb.symm.trans hv)
      obtain ⟨b', rfl, hsum⟩ := htop
      exact ⟨b', hbal, hsum⟩
    · cases hb.symm.trans hnone

/-- A wallet of 10, and a tea for 10 paid twice, one after the other. -/
def paidTwice : List Event :=
  [.screen 0 (.snapshot (some (singleMenu "tea" 10 true))), .screen 0 (.add "tea"), .screen 0 .pay,
    .serve 0 0 none, .resume 0 0 "a" 0, .land 0, .screen 0 .dismiss, .screen 0 (.add "tea"),
    .screen 0 .pay, .serve 0 1 none, .resume 0 1 "b" 1, .land 0]

theorem affordable_paidTwice :
    let t := (exec (restrict BalanceKept step) (initial (wallet "u" 10) fun _ ↦ "u") paidTwice).get
      (by decide)
    (∀ id doc user p, t.orders.get? id = some doc →
      doc.user = some (.scalar (.string user)) → doc.price = some p →
      p.toInt ≤ startingBalance (wallet "u" 10) user + recharges user paidTwice) ∧
    ∀ user b, balance (wallet "u" 10) user = some (.int b) →
      ∃ b', balance t.users user = some (.int b') ∧
        b'.toInt = b.toInt + recharges user paidTwice :=
  affordable (run_guarded_exec_get (by decide))

/-- Every item of a snapshot has its price in the table. -/
def PricedBy (table : String → Int64) : Event → Prop
  | .screen _ (.snapshot (some menu)) =>
    ∀ item ∈ menu.entries, item.2.field "Price" = .int (table item.1)
  | _ => True

instance (table : String → Int64) (e : Event) : Decidable (PricedBy table e) := by
  unfold PricedBy
  split <;> infer_instance

/-- What is spent may exceed what the wallet held. -/
theorem not_within_wallet : ¬ ∀ (users : OrderedMap String Fields) (username : Nat → String)
    (table : String → Int64) (es : List Event) (t : System), (∀ key, 0 ≤ table key) →
      Run (Guarded BalanceKept Step) (initial users username) es t → (∀ e ∈ es, PricedBy table e) →
      ∀ user, t.spent user ≤ startingBalance users user + recharges user es := by
  intro h
  have hspent := h (wallet "u" 10) (fun _ ↦ "u") (fun _ ↦ 10) paidTwice _
    (fun _ ↦ by decide) (run_guarded_exec_get (by decide)) (by decide) "u"
  exact absurd hspent (by decide)

end System

end CollegeCanteens.Canteen
