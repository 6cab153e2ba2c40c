import CollegeCanteens.Deployment.Components

/-!
# What stands behind a page and an account

A page shows a home page because a document has been read for it, it reads that
document because an account was signed in when it was opened, and what it finds
was stored or is being set.  Here these links are followed back through a run, from the end to
the causes: a Menu screen is one of an account that was signed in on its device
(`menu_run`), an AdminHomePage is shown because the document of such an account
made it an admin (`showsAdmin_run`), and an account that the app has made is that
of a phone number that was signed in and had none (`account_run`).
-/

namespace CollegeCanteens

open Transition Menu SignIn

namespace App

/-- The home page is the one of an account with this name and this `isAdmin`. -/
def Home.Of (username : String) (isAdmin : Bool) : Home → Prop
  | .admin => isAdmin = true
  | .user menu => isAdmin = false ∧ menu.username = username

theorem Home.of_opened {username : String} {b : Bool} :
    Home.Of username b (if b then .admin else .user (.initial username)) := by
  cases b with
  | true => exact rfl
  | false => exact ⟨rfl, rfl⟩

namespace Device

variable {s : Device} {e : Event} {call : Nat} {phone : String}

/-- A call sets the document of a new user when its read has found none. -/
theorem setUser_eq (h : s.setUser e = some (call, phone)) :
    e = .reply call (.document (.ok none)) ∧ s.reads? call = some phone := by
  unfold setUser at h
  split at h
  · split at h
    · rename_i reply _ _ _ htask
      split at h
      · rename_i hget
        obtain ⟨rfl, rfl⟩ := afterGet_eq_set_iff.mp hget
        cases h
        exact ⟨rfl, by rw [reads?, htask]; rfl⟩
      · cases h
    · cases h
  · cases h

theorem answered_of_reads? {data : Option Fields} (h : s.reads? call = some phone) :
    s.answered (.reply call (.document (.ok data))) = some (phone, data) := by
  obtain ⟨task, htask, hreads⟩ := Option.bind_eq_some_iff.mp h
  cases task with
  | signIn i phone' await => cases await <;> cases hreads; simp [answered, htask]
  | verify | pushed | signOut => cases hreads

end Device

end App

namespace Deployment.System

open App

variable {accounts : Nat → Option String} {users : OrderedMap String Fields} {menu : MenuMap}
  {es : List Event} {t : System} {d i call : Nat} {phone user : String} {home : Home}
  {screen : Screen} {write : UserWrite} {doc : Fields}

theorem waiting_run (h : Run Step (initial accounts users menu) es t) : (t.devices d).Waiting :=
  Device.waiting_run (device_run h d)

/-- A page that reads the document of an account was opened when the account was
signed in. -/
theorem route_run (h : Run Step (initial accounts users menu) es t)
    (ht : (t.devices d).route? i = some (.get phone)) :
    Visited Step (initial accounts users menu) es fun s ↦
      (s.devices d).currentUser = some phone := by
  refine h.visited (F := fun s ↦ (s.devices d).route? i = some (.get phone))
    Device.currentUser_of_launch (fun {pre e a b} _ hR hb ↦ ?_) ht
  rcases device_step hR d with ⟨e', -, -, hstep⟩ | ⟨-, heq⟩
  · exact (Device.route_from hstep hb).imp_right .inr
  · exact .inl (heq ▸ hb)

/-- A sign-in call that reads the document of an account does so because the
account was signed in. -/
theorem reads_run (h : Run Step (initial accounts users menu) es t)
    (ht : (t.devices d).reads? call = some phone) :
    Visited Step (initial accounts users menu) es fun s ↦
      (s.devices d).currentUser = some phone := by
  refine h.visited (F := fun s ↦ (s.devices d).reads? call = some phone) nofun
    (fun {pre e a b} _ hR hb ↦ ?_) ht
  rcases device_step hR d with ⟨e', -, -, hstep⟩ | ⟨-, heq⟩
  · exact (Device.reads_from hstep hb).imp_right .inr
  · exact .inl (heq ▸ hb)

/-! ## The home pages -/

/-- The page `i` of the device `d` is about to show the home page of the account
that is signed in, as it is stored that it should. -/
def Opens (d i : Nat) (home : Home) (s : System) : Prop :=
  ∃ phone data username b, (s.devices d).route? i = some (.get phone) ∧
    (s.devices d).currentUser = some username ∧ s.Finds d phone (some data) ∧
    data.field "isAdmin" = .bool b ∧ home.Of username b

theorem answered_routeReply {s : Device} {data : Option Fields}
    (h : s.route? i = some (.get phone)) :
    s.answered (.routeReply i (.ok data)) = some (phone, data) := by
  simp [Device.answered, h]

/-- Every home page has been opened. -/
theorem opened_run (h : Run Step (initial accounts users menu) es t)
    (ht : (t.devices d).home? i = some home) :
    Visited Step (initial accounts users menu) es (Opens d i home) := by
  refine h.visited (F := fun s ↦ ∃ home', (s.devices d).home? i = some home' ∧
    ∀ username b, home'.Of username b → home.Of username b) ?_ ?_ ⟨home, ht, fun _ _ ↦ id⟩
  · rintro ⟨home', hhome', -⟩
    cases i <;> cases hhome'
  · rintro pre e a b ha hR ⟨home', hhome', hof⟩
    rcases device_step hR d with ⟨e', -, hgenuine, hstep⟩ | ⟨-, heq⟩
    · cases Device.home_from (waiting_run ha) hstep hhome' with
      | same hsame => exact .inl ⟨home', hsame, hof⟩
      | @opened phone username data b he hroute hu hb =>
          subst he
          have hanswer : (a.devices d).answered (.routeReply i (.ok (some data))) =
              some (phone, some data) := answered_routeReply hroute
          exact .inr (.inl ⟨phone, data, username, b, hroute, hu, hgenuine.answer _ hanswer, hb,
            hof username b Home.of_opened⟩)
      | dismissed hsame hdismiss =>
          refine .inl ⟨_, hsame, fun username b h' ↦ hof username b ⟨h'.1, ?_⟩⟩
          exact (Screen.username_step hdismiss).trans h'.2
      | event _ hsame hevent =>
          refine .inl ⟨_, hsame, fun username b h' ↦ hof username b ⟨h'.1, ?_⟩⟩
          exact (Screen.username_step hevent).trans h'.2
    · exact .inl ⟨home', heq ▸ hhome', hof⟩

/-- Whoever has a Menu screen was signed in on its device. -/
theorem menu_run (h : Run Step (initial accounts users menu) es t)
    (ht : (t.devices d).menu? i = some screen) :
    Visited Step (initial accounts users menu) es fun s ↦
      (s.devices d).currentUser = some screen.username := by
  refine (opened_run h (Device.menu?_eq_some_iff.mp ht)).imp fun a ha ↦ ?_
  obtain ⟨phone, data, username, b, -, hu, -, -, -, rfl⟩ := ha
  exact hu

/-- The document of the user makes them an admin, or did so once. -/
def WasAdmin (user : String) (s : System) : Prop :=
  ∃ data, s.Stored user (some data) ∧ data.field "isAdmin" = .bool true

/-- A new user is no admin, so that a document that makes one an admin was stored. -/
theorem wasAdmin_of_finds {s : System} (h : s.Finds d user (some doc))
    (hadmin : doc.field "isAdmin" = .bool true) : WasAdmin user s := by
  rcases h with hstored | ⟨hnew, -⟩
  · exact ⟨doc, hstored, hadmin⟩
  · obtain rfl := Option.some.inj hnew
    exact absurd hadmin (by decide)

/-- Behind an AdminHomePage is an account that was signed in on its device and
was an admin. -/
theorem showsAdmin_run (h : Run Step (initial accounts users menu) es t)
    (ht : (t.devices d).ShowsAdmin i) : ∃ phone,
      Visited Step (initial accounts users menu) es (WasAdmin phone) ∧
      Visited Step (initial accounts users menu) es fun s ↦
        (s.devices d).currentUser = some phone := by
  obtain ⟨-, home, hhome, hadmin⟩ := ht
  obtain ⟨pre, a, hpre, ha, phone, data, username, b, hroute, -, hfinds, hb, hof⟩ :=
    opened_run h hhome
  refine ⟨phone, ⟨pre, a, hpre, ha, wasAdmin_of_finds hfinds ?_⟩,
    (route_run ha hroute).extend hpre⟩
  cases home with
  | admin => exact hb.trans (congrArg Scalar.bool hof)
  | user => cases hadmin

/-! ## The accounts -/

/-- The `set` of a sign-in is of a phone number that was signed in on its device
and had no document. -/
theorem userWrites_run (h : Run Step (initial accounts users menu) es t)
    (ht : write ∈ t.userWrites) :
    Visited Step (initial accounts users menu) es (fun s ↦ s.Stored write.phone none) ∧
      Visited Step (initial accounts users menu) es fun s ↦
        (s.devices write.device).currentUser = some write.phone := by
  have hsent : Visited Step (initial accounts users menu) es fun s ↦
      s.Stored write.phone none ∧
        (s.devices write.device).reads? write.call = some write.phone := by
    refine h.visited (F := fun s ↦ write ∈ s.userWrites) nofun (fun {pre e a b} _ hR hb ↦ ?_) ht
    rcases userWrites_step hR hb with hw | ⟨e', -, hgenuine, hset⟩
    · exact .inl hw
    · obtain ⟨rfl, hreads⟩ := Device.setUser_eq hset
      have hnone : a.Finds write.device write.phone none :=
        hgenuine.answer _ (Device.answered_of_reads? hreads)
      exact .inr (.inl ⟨hnone.resolve_right nofun, hreads⟩)
  exact ⟨hsent.imp fun _ ha ↦ ha.1, hsent.bind fun ha hs ↦ reads_run ha hs.2⟩

/-- A document that `Users` has held was there at the start, or was written by
others, or is that of a new user and was sent by a sign-in. -/
theorem stored_run (h : Run Step (initial accounts users menu) es t)
    (ht : t.Stored user (some doc)) :
    users.get? user = some doc ∨ .otherUser user (some doc) ∈ es ∨ doc = newUser ∧
      ∃ write : UserWrite, write.phone = user ∧
        Visited Step (initial accounts users menu) es fun s ↦ write ∈ s.userWrites := by
  induction h with
  | refl =>
      obtain ⟨users', hmem, hdoc⟩ := ht
      exact .inl (Register.mem_init.mp hmem ▸ hdoc)
  | @snoc es a e b ha hR ih =>
      have hprefix : es <+: es ++ [e] := List.prefix_append es [e]
      rcases stored_step hR ht with hs | ⟨write, hw, hphone, hdoc⟩ | rfl
      · rcases ih hs with h | h | ⟨hnew, write, hphone, hw⟩
        · exact .inl h
        · exact .inr (.inl (List.mem_append_left _ h))
        · exact .inr (.inr ⟨hnew, write, hphone, hw.extend hprefix⟩)
      · exact .inr (.inr ⟨Option.some.inj hdoc, write, hphone, es, a, hprefix, ha, hw⟩)
      · exact .inr (.inl (by simp))

/-- The document was there at the start, or was written by others, or is that of a
new user, set for a phone number that was signed in on some device and had none. -/
def AccountFrom (accounts : Nat → Option String) (users : OrderedMap String Fields) (menu : MenuMap)
    (es : List Event) (user : String) (doc : Fields) : Prop :=
  users.get? user = some doc ∨ .otherUser user (some doc) ∈ es ∨ doc = newUser ∧
    Visited Step (initial accounts users menu) es (fun s ↦ s.Stored user none) ∧
      ∃ d, Visited Step (initial accounts users menu) es fun s ↦
        (s.devices d).currentUser = some user

theorem AccountFrom.extend {fs : List Event} (h : AccountFrom accounts users menu es user doc)
    (hes : es <+: fs) : AccountFrom accounts users menu fs user doc := by
  rcases h with hfirst | hother | ⟨hnew, hnone, d, hsigned⟩
  · exact .inl hfirst
  · exact .inr (.inl (hes.subset hother))
  · exact .inr (.inr ⟨hnew, hnone.extend hes, d, hsigned.extend hes⟩)

/-- Where every document comes from that a read may find. -/
theorem account_of_finds (h : Run Step (initial accounts users menu) es t)
    (ht : t.Finds d user (some doc)) : AccountFrom accounts users menu es user doc := by
  rcases ht with hstored | ⟨hnew, write, hw, -, rfl⟩
  · rcases stored_run h hstored with hfirst | hother | ⟨hnew, write, rfl, hw⟩
    · exact .inl hfirst
    · exact .inr (.inl hother)
    · exact .inr (.inr ⟨hnew, hw.bind fun ha hs ↦ (userWrites_run ha hs).1, write.device,
        hw.bind fun ha hs ↦ (userWrites_run ha hs).2⟩)
  · obtain ⟨hnone, hsigned⟩ := userWrites_run h hw
    exact .inr (.inr ⟨Option.some.inj hnew, hnone, write.device, hsigned⟩)

/-- Where every document comes from that `Users` has held. -/
theorem account_run (h : Run Step (initial accounts users menu) es t)
    (ht : t.Stored user (some doc)) : AccountFrom accounts users menu es user doc :=
  account_of_finds h (.inl ht : t.Finds 0 user (some doc))

/-- A phone number signs in for the first time, while another writer adds a tea. -/
def firstSignIn : List Event :=
  [.device 0 (.frame 0), .device 0 (.verify 1 0 "u"), .device 0 (.codeSent 0),
    .device 0 (.confirm 1 1), .device 0 (.reply 1 (.credential (.ok true))),
    .addItem "tea" ((∅ : Fields).set "isAvailable" (.bool true)),
    .device 0 (.reply 1 (.document (.ok none))), .landUser 0,
    .device 0 (.reply 1 (.written (.ok ()))), .device 0 (.routeReply 2 (.ok (some newUser)))]

/-- The state after `firstSignIn`. -/
def afterFirstSignIn : System :=
  (exec step (initial (fun _ ↦ none) ∅ ∅) firstSignIn).get (by decide)

theorem run_firstSignIn : Run Step (initial (fun _ ↦ none) ∅ ∅) firstSignIn afterFirstSignIn :=
  run_exec_get (by decide)

theorem account_run_firstSignIn : AccountFrom (fun _ ↦ none) ∅ ∅ firstSignIn "u" newUser :=
  account_run run_firstSignIn (by decide)

end Deployment.System

end CollegeCanteens
