import CollegeCanteens.Canteen.System

/-!
# Sign-ins and the accounts they find

A sign-in reads the document of its phone number and sets a new one if there is
none, and does nothing in between to keep others from setting it.  From its read
to the landing of its `set` the call is `Creating`; whatever account comes to be
in that time is set back to that of a new user.

If nobody else writes an account while a call is creating it (`Undisturbed`), no
sign-in resets one (`kept_of_undisturbed`), not even one that races with another
sign-in, since both set the same document.
-/

namespace CollegeCanteens.Canteen

open Transition Menu SignIn

/-- The account of a user who has just signed in for the first time. -/
def IsNew (doc : Fields) : Prop :=
  doc.field "Balance" = .int 0 ∧ doc.field "isAdmin" = .bool false

instance : DecidablePred IsNew := fun doc ↦
  inferInstanceAs (Decidable (doc.field "Balance" = .int 0 ∧ doc.field "isAdmin" = .bool false))

/-- The call has found no document of the phone number, and its `set` has not
landed. -/
def Call.Creates : Call → String → Prop
  | ⟨.set phone', _⟩, phone => phone' = phone
  | ⟨.get phone', some (.ok none)⟩, phone => phone' = phone
  | _, _ => False

instance (c : Call) (phone : String) : Decidable (c.Creates phone) := by
  unfold Call.Creates
  split <;> infer_instance

namespace System

/-- A sign-in call is creating the account. -/
def Creating (s : System) (phone : String) : Prop := ∃ e ∈ s.signIns.entries, e.2.Creates phone

instance (s : System) (phone : String) : Decidable (s.Creating phone) :=
  inferInstanceAs (Decidable (∃ e ∈ s.signIns.entries, e.2.Creates phone))

/-- Nobody else makes an account other than a new one of one that a sign-in call
is creating. -/
def Undisturbed (s : System) : Event → Prop
  | .recharge user _ => ¬ s.Creating user
  | .otherWrite user doc => (∀ d ∈ doc, IsNew d) ∨ ¬ s.Creating user
  | _ => True

instance (s : System) (e : Event) : Decidable (Undisturbed s e) :=
  match e with
  | .recharge user _ => inferInstanceAs (Decidable (¬ s.Creating user))
  | .otherWrite user doc =>
    inferInstanceAs (Decidable ((∀ d ∈ doc, IsNew d) ∨ ¬ s.Creating user))
  | .screen _ _ | .serve _ _ _ | .resume _ _ _ _ | .land _ | .list | .check _ _ | .signIn _
  | .authenticate _ _ _ | .serveSignIn _ _ | .resumeSignIn _ | .landSignIn _ _ => .isTrue trivial

/-- Every account that is there keeps its Balance and its isAdmin. -/
def Kept (s t : System) : Prop := ∀ phone doc, s.users.get? phone = some doc →
  ∃ doc', t.users.get? phone = some doc' ∧ doc'.field "Balance" = doc.field "Balance" ∧
    doc'.field "isAdmin" = doc.field "isAdmin"

variable {users : OrderedMap String Fields} {username : Nat → String} {es : List Event}
  {s t : System} {e : Event} {call : Nat} {phone : String}

/-! ## The accounts being created -/

theorem isNew_newUser : IsNew newUser := by decide

theorem creating_iff : s.Creating phone ↔
    ∃ call c, s.signIns.get? call = some c ∧ c.Creates phone := by
  simp only [Creating, OrderedMap.get?_eq_some_iff, Prod.exists]

theorem creates_of_no_reply {await : Await} :
    Call.Creates ⟨await, none⟩ phone ↔ await = .set phone := by
  cases await <;> simp [Call.Creates]

theorem creating_of_set {c : Call}
    (h : { s with signIns := s.signIns.set call c }.Creating phone) :
    s.Creating phone ∨ c.Creates phone := by
  obtain ⟨call', c', hc, hcreates⟩ := creating_iff.mp h
  change (s.signIns.set call c).get? call' = some c' at hc
  rw [OrderedMap.get?_set] at hc
  split at hc
  · exact .inr (Option.some.inj hc ▸ hcreates)
  · exact .inl (creating_iff.mpr ⟨call', c', hc, hcreates⟩)

/-- A call that goes on creates an account only if it waits for its `set` next. -/
theorem creating_of_advance {next : Except DartError (Option Await)}
    (h : (s.advance call next).Creating phone) :
    s.Creating phone ∨ next = .ok (some (.set phone)) := by
  unfold advance at h
  split at h
  · refine (creating_of_set h).imp_right fun hc ↦ ?_
    rw [creates_of_no_reply.mp hc]
  · obtain ⟨call', c, hc, hcreates⟩ := creating_iff.mp h
    change (s.signIns.remove call).get? call' = some c at hc
    rw [OrderedMap.get?_remove] at hc
    split at hc
    · cases hc
    · exact .inl (creating_iff.mpr ⟨call', c, hc, hcreates⟩)

theorem creating_of_get? {c : Call} (hc : s.signIns.get? call = some c) (h : c.Creates phone) :
    s.Creating phone :=
  creating_iff.mpr ⟨call, c, hc, h⟩

/-- A call begins to create an account when the server answers its read while
there is no document. -/
theorem creating_step (h : Step s e t) (ht : t.Creating phone) :
    s.Creating phone ∨ s.users.get? phone = none ∧ t.users = s.users := by
  rcases signIns_step h with he | heq
  · cases e with
    | signIn call =>
        rw [(step_signIn h).2] at ht
        refine .inl ((creating_of_set ht).resolve_right fun hc ↦ ?_)
        cases creates_of_no_reply.mp hc
    | authenticate call reply currentUser =>
        rw [step_authenticate h] at ht
        refine .inl ((creating_of_advance ht).resolve_right fun hnext ↦ ?_)
        obtain ⟨b, -, hnext⟩ := bind_eq_ok.mp hnext
        cases b <;> cases currentUser <;> cases hnext
    | serveSignIn call err =>
        obtain ⟨phone', -, rfl⟩ := step_serveSignIn h
        refine (creating_of_set ht).imp_right fun hc ↦ ?_
        cases err with
        | some e => exact hc.elim
        | none =>
            cases hdoc : s.users.get? phone' with
            | some doc => simp [answer, hdoc, Call.Creates] at hc
            | none =>
                obtain rfl : phone' = phone := by simpa [answer, hdoc, Call.Creates] using hc
                exact ⟨hdoc, rfl⟩
    | resumeSignIn call =>
        obtain ⟨phone', reply, hcall, rfl⟩ := step_resumeSignIn h
        refine .inl ((creating_of_advance ht).elim (fun hs ↦ hs) fun hnext ↦ ?_)
        obtain ⟨rfl, rfl⟩ := SignIn.afterGet_eq_set_iff.mp hnext
        exact creating_of_get? hcall rfl
    | landSignIn call err =>
        obtain ⟨phone', reply, hcall, ⟨-, rfl⟩ | ⟨e, -, rfl⟩⟩ := step_landSignIn h
        · refine .inl ((creating_of_advance ht).resolve_right fun hnext ↦ ?_)
          cases hnext
        · refine .inl ((creating_of_advance ht).resolve_right fun hnext ↦ ?_)
          cases hnext
    | _ => exact he.elim
  · rw [Creating, heq] at ht
    exact .inl ht

/-! ## Undisturbed sign-ins -/

/-- The accounts being created are new ones, if they are there at all. -/
def CreatesNew (s : System) : Prop :=
  ∀ phone, s.Creating phone → ∀ doc ∈ s.users.get? phone, IsNew doc

theorem createsNew_step (hs : s.CreatesNew) (hu : Undisturbed s e) (h : Step s e t) :
    t.CreatesNew := by
  intro phone ht doc hdoc
  rcases creating_step h ht with hcreating | ⟨hnone, heq⟩
  · have hold := hs phone hcreating
    rcases users_step h with ⟨heq, -⟩ | ⟨call, phone', reply, rfl, hcall, heq⟩ |
        ⟨user, amount, d, d', rfl, -, -, heq⟩ | ⟨user, d, rfl, heq⟩ <;> rw [heq] at hdoc
    · exact hold doc hdoc
    · rw [OrderedMap.get?_set] at hdoc
      split at hdoc
      · exact Option.some.inj hdoc ▸ isNew_newUser
      · exact hold doc hdoc
    · rcases eq_or_ne phone user with rfl | hne
      · exact absurd hcreating hu
      · exact hold doc (by rwa [OrderedMap.get?_set_of_ne hne] at hdoc)
    · rcases eq_or_ne phone user with rfl | hne
      · have hnew : ∀ d₀ ∈ d, IsNew d₀ := hu.resolve_right (not_not_intro hcreating)
        rw [OrderedMap.get?_elim, if_pos rfl] at hdoc
        exact hnew doc hdoc
      · rw [OrderedMap.get?_elim, if_neg hne] at hdoc
        exact hold doc hdoc
  · rw [heq, hnone] at hdoc
    cases hdoc

theorem createsNew_run (h : Run (Guarded Undisturbed Step) (initial users username) es t) :
    t.CreatesNew :=
  h.invariant (fun _ hc ↦ by obtain ⟨e, he, -⟩ := hc; cases he)
    fun hs hR ↦ createsNew_step hs hR.1 hR.2

theorem kept_of_users_eq (h : t.users = s.users) : Kept s t :=
  fun _ doc hd ↦ ⟨doc, h ▸ hd, rfl, rfl⟩

/-- Setting the document of a new user keeps every account exactly if the one
it sets, if any, is a new one. -/
theorem kept_set_newUser_iff (h : t.users = s.users.set phone newUser) :
    Kept s t ↔ ∀ doc ∈ s.users.get? phone, IsNew doc := by
  constructor
  · intro hkept doc hdoc
    obtain ⟨doc', hdoc', hb, ha⟩ := hkept phone doc hdoc
    rw [h, OrderedMap.get?_set_self] at hdoc'
    obtain rfl := Option.some.inj hdoc'
    exact ⟨hb.symm, ha.symm⟩
  · intro hnew phone' doc hdoc
    rw [h, OrderedMap.get?_set]
    rcases eq_or_ne phone' phone with rfl | hne
    · obtain ⟨hb, ha⟩ := hnew doc hdoc
      exact ⟨newUser, if_pos rfl, hb.symm, ha.symm⟩
    · exact ⟨doc, by rwa [if_neg hne], rfl, rfl⟩

/-- A sign-in never resets an account, in any run in which nobody else makes an
account other than a new one of one that a sign-in is creating. -/
theorem kept_of_undisturbed (h : Run (Guarded Undisturbed Step) (initial users username) es s)
    (he : e.IsSignIn) (hstep : Step s e t) : Kept s t := by
  rcases users_step hstep with ⟨heq, -⟩ | ⟨call, phone, reply, rfl, hcall, heq⟩ |
      ⟨_, _, _, _, rfl, -⟩ | ⟨_, _, rfl, -⟩
  · exact kept_of_users_eq heq
  · exact (kept_set_newUser_iff heq).mpr (createsNew_run h phone (creating_of_get? hcall rfl))
  · exact he.elim
  · exact he.elim

/-- Two sign-ins for one phone number, which both find no document; the first
one sets it. -/
def signInsRace : List Event :=
  [.signIn 0, .signIn 1, .authenticate 0 (.ok true) (some "u"), .authenticate 1 (.ok true) (some "u"),
    .serveSignIn 0 none, .serveSignIn 1 none, .resumeSignIn 0, .resumeSignIn 1, .landSignIn 0 none]

/-- The state after `signInsRace`. -/
def raced : System := (exec (restrict Undisturbed step) (initial ∅ fun _ ↦ "u") signInsRace).get
  (by decide)

/-- The second `set` lands too. -/
def racedTwice : System := (raced.step (.landSignIn 1 none)).get (by decide)

theorem kept_signInsRace : Kept raced racedTwice :=
  kept_of_undisturbed (e := .landSignIn 1 none) (run_guarded_exec_get (by decide)) trivial
    (Option.some_get _).symm

/-- The wallet is recharged before the second `set` lands. -/
def recharged50 : List Event := signInsRace ++ [.recharge "u" 50]

/-- The state after `recharged50`. -/
def beforeReset : System := (exec step (initial ∅ fun _ ↦ "u") recharged50).get (by decide)

/-- The second `set` takes the recharge away. -/
theorem not_kept : ¬ ∀ (users : OrderedMap String Fields) (username : Nat → String)
    (es : List Event) (s t : System) (e : Event), Run Step (initial users username) es s →
      e.IsSignIn → Step s e t → Kept s t := by
  intro h
  have hkept := h ∅ (fun _ ↦ "u") recharged50 beforeReset
    ((beforeReset.step (.landSignIn 1 none)).get (by decide)) (.landSignIn 1 none)
    (run_exec_get (by decide)) trivial (Option.some_get _).symm
  obtain ⟨doc, hdoc, hbalance, -⟩ := hkept "u"
    (newUser.set "Balance" (.int 50)) (by decide)
  have hreset : doc = newUser := Option.some.inj (hdoc.symm.trans (by decide))
  exact absurd (hreset ▸ hbalance) (by decide)

end System

end CollegeCanteens.Canteen
