import CollegeCanteens.App.Navigation

/-!
# Disposed pages

`setState`, navigation, dialogs and snackbars all throw if the page they are
called from has been disposed.  No handler asks whether it has: what keeps a
page from being used after it is gone is only that the handler gets there in
time.

Taps are always in time, and so is a Pay call that resumes when its dialog is
taken off, by whatever takes it off: a dialog lies over its page (`Layered`).
`InTime` says what is left, one line for each callback and each await: the page
is still there when the code that comes next uses it.  `undisposed_run_iff` says
that nothing else is needed, and nothing less will do.  How long a page is there is
told by the events that take it off (`mounted_run_iff`): those of the back button and
of navigation, while it is the topmost layer.
-/

namespace CollegeCanteens.App

open Transition Menu SignIn

/-- The code of a sign-in call comes to another Firebase call, or throws what the
handler does not catch. -/
def LeavesPage : Except DartError (Option Await) → Prop
  | .ok (some .pushReplacementNamed) | .ok none | .error .firebaseAuthException => False
  | _ => True

instance : DecidablePred LeavesPage
  | .ok (some .pushReplacementNamed) | .ok none | .error .firebaseAuthException =>
    .isFalse not_false
  | .ok (some .signInWithCredential) | .ok (some (.get _)) | .ok (some (.set _))
  | .error .typeError | .error .firebaseException => .isTrue trivial

/-- Every dialog of a Menu screen lies over its page. -/
def Layered : List Layer → Prop
  | [] => True
  | .dialog i :: layers => .page i ∈ layers ∧ Layered layers
  | .page _ :: layers | .picker :: layers => Layered layers

namespace Device

/-- The event uses no page that has been disposed. -/
def Undisposed (s : Device) (e : Event) : Prop := ∀ use ∈ s.uses e, s.Mounted use.2

instance (s : Device) (e : Event) : Decidable (s.Undisposed e) :=
  inferInstanceAs (Decidable (∀ use ∈ s.uses e, s.Mounted use.2))

/-- The page of a call is still there. -/
def PageLeft (s : Device) (id : Nat) : Prop := ∀ task ∈ s.tasks.get? id, s.Mounted task.page

instance (s : Device) (id : Nat) : Decidable (s.PageLeft id) :=
  inferInstanceAs (Decidable (∀ task ∈ s.tasks.get? id, s.Mounted task.page))

/-- The callbacks of `verifyPhoneNumber`, the end of the first frame and the
completion of an await come while their page is still there, unless the code up
to the next await does not touch it. -/
def InTime (s : Device) : Event → Prop
  | .frame i => s.Mounted i
  | .routeReply i reply => reply.isOk → s.Mounted i
  | .codeSent id | .verificationCompleted id _ | .verificationFailed id | .popped id =>
    s.PageLeft id
  | .reply call completion =>
    ∀ next ∈ s.next call completion, LeavesPage next.2 ∨ s.Mounted next.1
  | .signOutReply id err => err = none → s.PageLeft id
  | .menu i (.get _ r _ now) => ∀ menu ∈ s.menu? i,
      (r >>= payAfterGet menu.username menu.toMenuState now).isOk → s.Mounted i
  | _ => True

instance (s : Device) (e : Event) : Decidable (s.InTime e) :=
  match e with
  | .frame i => inferInstanceAs (Decidable (s.Mounted i))
  | .routeReply i reply => inferInstanceAs (Decidable (reply.isOk → s.Mounted i))
  | .codeSent id | .verificationCompleted id _ | .verificationFailed id | .popped id =>
    inferInstanceAs (Decidable (s.PageLeft id))
  | .reply call completion => inferInstanceAs (Decidable
      (∀ next ∈ s.next call completion, LeavesPage next.2 ∨ s.Mounted next.1))
  | .signOutReply id err => inferInstanceAs (Decidable (err = none → s.PageLeft id))
  | .menu i (.get _ r _ now) => inferInstanceAs (Decidable (∀ menu ∈ s.menu? i,
      (r >>= payAfterGet menu.username menu.toMenuState now).isOk → s.Mounted i))
  | .menu _ (.snapshot _) | .menu _ (.add _) | .menu _ (.remove _) | .menu _ .pay
  | .menu _ .dismiss | .restart _ | .verify _ _ _ | .pick _ | .verifyThrows _ | .confirm _ _
  | .signOut _ _ | .back => .isTrue trivial

/-! ## Dialogs lie over their pages -/

variable {s t : Device} {e : Event} {es : List Event} {i id : Nat} {currentUser : Option String}

theorem Layered.tail {layers : List Layer} (h : Layered layers) : Layered layers.tail := by
  cases layers with
  | nil => exact h
  | cons layer layers =>
      cases layer with
      | dialog i => exact h.2
      | page i => exact h
      | picker => exact h

theorem layered_step (hs : Layered s.stack) (h : Step s e t) : Layered t.stack := by
  rcases stacked_step h with hstacked | ⟨currentUser, -, rfl⟩
  · generalize t.pages.length = n, t.stack = stack at hstacked ⊢
    cases hstacked with
    | same => exact hs
    | pop => exact Layered.tail hs
    | picker => exact hs
    | dialog _ hm => exact ⟨hm, hs⟩
    | replace => exact Layered.tail hs
  · trivial

/-- The Pay call of a dialog that is taken off finds its page. -/
theorem mounted_of_mem_popUses (hs : Layered s.stack) {use : Use × Nat} (hu : use ∈ s.popUses) :
    s.Mounted use.2 := by
  unfold popUses at hu
  split at hu
  · next i layers hstack =>
      split at hu
      · obtain rfl := List.mem_singleton.mp hu
        rw [hstack] at hs
        rw [Mounted, hstack]
        exact List.mem_cons_of_mem _ hs.1
      · cases hu
  · cases hu

/-! ## Being in time -/

theorem mounted_of_head? (h : s.stack.head? = some (.page i)) : s.Mounted i := List.mem_of_head? h

theorem forall_navigateUses_iff (hs : Layered s.stack) :
    (∀ use ∈ s.navigateUses i, s.Mounted use.2) ↔ s.Mounted i := by
  simp only [navigateUses, List.forall_mem_cons, and_iff_left_iff_imp]
  exact fun _ use ↦ mounted_of_mem_popUses hs

theorem forall_advanceUses_iff (hs : Layered s.stack) {next : Except DartError (Option Await)} :
    (∀ use ∈ s.advanceUses i next, s.Mounted use.2) ↔ LeavesPage next ∨ s.Mounted i := by
  rcases next with err | _ | await
  · cases err <;> simp [advanceUses, LeavesPage]
  · simp [advanceUses, LeavesPage]
  · cases await with
    | pushReplacementNamed => simpa [advanceUses, LeavesPage] using forall_navigateUses_iff hs
    | signInWithCredential | get | set => simp [advanceUses, LeavesPage]

theorem forall_taskUses_iff {uses : List Use} (huses : uses ≠ []) :
    (∀ use ∈ s.taskUses id uses, s.Mounted use.2) ↔ s.PageLeft id := by
  unfold taskUses PageLeft
  split
  · next task htask =>
      obtain ⟨use, uses, rfl⟩ := List.exists_cons_of_ne_nil huses
      simp only [htask, List.map_cons, List.forall_mem_cons, List.forall_mem_map, Option.mem_some]
      exact ⟨fun h ↦ by rintro task rfl; exact h.1, fun h ↦ ⟨h task rfl, fun _ _ ↦ h task rfl⟩⟩
  · next htask => simp [htask]

/-- An event uses no disposed page exactly if it is in time. -/
theorem inTime_iff_undisposed (hs : Layered s.stack) (h : Step s e t) :
    InTime s e ↔ s.Undisposed e := by
  unfold Undisposed
  cases e with
  | restart | verifyThrows | signOut => exact iff_of_true trivial (by simp [uses])
  | frame i => exact (forall_navigateUses_iff hs).symm
  | routeReply i reply => cases reply <;> simp [InTime, uses, Except.isOk, Except.toBool]
  | verify i task phone =>
      have hm : s.Mounted i := mounted_of_head? (step_verify h).1.1
      exact iff_of_true trivial (by simp [uses, hm])
  | pick i =>
      have hm : s.Mounted i := mounted_of_head? (step_pick h).1.1
      exact iff_of_true trivial (by simp [uses, hm])
  | codeSent id | verificationCompleted id call | verificationFailed id | popped id =>
      exact (forall_taskUses_iff (List.cons_ne_nil _ _)).symm
  | confirm i call =>
      have hm : s.Mounted i := mounted_of_head? (step_confirm h).1.1
      exact iff_of_true trivial (by simp [uses, hm])
  | reply call completion =>
      simp only [InTime, uses]
      cases hnext : s.next call completion with
      | none => simp
      | some next => simpa using (forall_advanceUses_iff hs).symm
  | signOutReply id err =>
      obtain ⟨i, htask, -⟩ := step_signOutReply h
      cases err with
      | some err => exact iff_of_true (fun herr ↦ by cases herr) (by simp [uses])
      | none => simpa [InTime, uses, PageLeft, htask] using (forall_navigateUses_iff hs).symm
  | menu i menuEvent =>
      obtain ⟨hdismiss, htap, p, menu, -, hp, hhome, -⟩ := step_menu h
      have hmenu : s.menu? i = some menu := by simp [menu?, hp, hhome]
      cases menuEvent with
      | snapshot | pay => exact iff_of_true trivial (by simp [uses, hmenu, menuUses])
      | add key =>
          have hm : s.Mounted i := mounted_of_head? (htap trivial)
          exact iff_of_true trivial (by simp [uses, hmenu, menuUses, hm])
      | remove key =>
          have hm : s.Mounted i := mounted_of_head? (htap trivial)
          refine iff_of_true trivial ?_
          simp only [uses, hmenu, menuUses]
          split
          · simp
          · split <;> simp [hm]
      | get call r ordId now =>
          simp only [InTime, uses, hmenu, menuUses, Option.mem_some]
          cases hpay : r >>= payAfterGet menu.username menu.toMenuState now with
          | error err => simp [hpay, Except.isOk, Except.toBool]
          | ok result => simp [hpay, Except.isOk, Except.toBool]
      | dismiss => exact absurd trivial hdismiss
  | back => exact iff_of_true trivial fun use ↦ mounted_of_mem_popUses hs

/-- No handler uses a disposed page in a run exactly if every callback and every
completion of the run is in time. -/
theorem undisposed_run_iff :
    Run (Guarded InTime Step) (launch currentUser) es t ↔ Run Step (launch currentUser) es t ∧
      ∀ pre e a b, pre ++ [e] <+: es → Run Step (launch currentUser) pre a → Step a e b →
        a.Undisposed e :=
  Run.guarded_iff_steps (I := fun s : Device ↦ Layered s.stack)
    (C := fun (s : Device) e _ ↦ s.Undisposed e) id trivial layered_step inTime_iff_undisposed

/-! ## How long a page is there -/

/-- The event takes the page off the Navigator, as the topmost layer: the back button
is pressed, or another page replaces it. -/
def TakesOff (i : Nat) (s : Device) (e : Event) : Prop :=
  s.stack.head? = some (.page i) ∧ (e = .back ∨ s.Navigates e)

/-- A step that does not launch the app anew. -/
abbrev Going : Device → Event → Device → Prop :=
  Guarded (fun _ e ↦ ∀ currentUser, e ≠ .restart currentUser) Step

/-- A layer that is taken off is that of a page if and only if it is the topmost one,
since no page is there twice. -/
theorem mounted_tail_iff (ho : s.Ordered) (hi : s.Mounted i) :
    .page i ∈ s.stack.tail ↔ s.stack.head? ≠ some (.page i) := by
  have hpairwise := ho.pairwise
  rw [pageIds] at hpairwise
  rw [Mounted] at hi
  cases hstack : s.stack with
  | nil => simp [hstack] at hi
  | cons layer layers =>
      rw [hstack] at hi hpairwise
      simp only [List.tail_cons, List.head?_cons, ne_eq, Option.some.injEq]
      constructor
      · rintro hmem rfl
        have hlt : (i :: layers.filterMap Layer.page?).Pairwise (· > ·) := hpairwise
        have hmem' : i ∈ layers.filterMap Layer.page? := List.mem_filterMap.mpr ⟨_, hmem, rfl⟩
        exact absurd ((List.pairwise_cons.mp hlt).1 i hmem') (lt_irrefl i)
      · exact fun hne ↦ (List.mem_cons.mp hi).resolve_left fun heq ↦ hne heq.symm

/-- A page that is there stays, unless the event takes it off. -/
theorem mounted_step_iff (ho : s.Ordered) (hi : s.Mounted i) (h : Going s e t) :
    ¬ TakesOff i s e ↔ t.Mounted i := by
  obtain ⟨hno, h⟩ := h
  have hstays (hnav : ¬ s.Navigates e) (hback : e ≠ .back) : ¬ TakesOff i s e :=
    fun htakes ↦ htakes.2.elim hback hnav
  have hlt : i ≠ s.pages.length := (ho.lt_length hi).ne
  rcases stacked_step h with hstacked | ⟨currentUser, he, -⟩
  · have hback : e = .back → t.stack = s.stack.tail := by
      rintro rfl
      rw [(step_back h).2, pop_stack]
    rw [Mounted]
    by_cases he : e = .back
    · rw [hback he, mounted_tail_iff ho hi]
      simp [TakesOff, he]
    · generalize t.pages.length = n, t.stack = stack at hstacked ⊢
      cases hstacked with
      | same hnav => exact iff_of_true (hstays hnav he) hi
      | pop _ heq => exact absurd heq he
      | picker hnav | dialog hnav =>
          exact iff_of_true (hstays hnav he) (List.mem_cons_of_mem _ hi)
      | replace hnav =>
          simp only [List.mem_cons, Layer.page.injEq, hlt, false_or, mounted_tail_iff ho hi]
          simp [TakesOff, hnav]
  · exact absurd he (hno currentUser)

/-- From where a page is there on, it is so in every state of a run in which the app is
not launched anew if and only if no event of the run takes it off. -/
theorem mounted_run_iff (ho : s.Ordered) (hi : s.Mounted i) :
    Run (Guarded (fun s e ↦ ¬ TakesOff i s e) Going) s es t ↔
      Run Going s es t ∧ ∀ pre a, pre <+: es → Run Going s pre a → a.Mounted i :=
  Run.guarded_iff (fun h ↦ h.2) ho hi (fun ho h ↦ ordered_step ho h.2)
    fun ho hi h ↦ mounted_step_iff ho hi h

/-- A sign-in call is left with its page, to come back to when the page that it pushes
is popped, if and only if another layer was on top of it, such as the country picker. -/
theorem inTime_popped_iff {home : Nat} {completion : Completion} (ho : s.Ordered)
    (hi : s.Mounted i) (h : Step s (.reply id completion) t)
    (hnext : s.next id completion = some (i, .ok (some .pushReplacementNamed)))
    (ht : t.tasks.get? id = some (.pushed i home)) :
    t.InTime (.popped id) ↔ s.stack.head? ≠ some (.page i) := by
  have hgoing : Going s (.reply id completion) t := ⟨by rintro currentUser ⟨⟩, h⟩
  have hnav : s.Navigates (.reply id completion) := by
    refine (navigates_navigateUses_iff ?_).mpr hi
    simp only [uses, hnext, advanceUses]
  have hleft : t.InTime (.popped id) ↔ t.Mounted i := by
    simp [InTime, PageLeft, ht, Task.page]
  rw [hleft, ← mounted_step_iff ho hi hgoing]
  simp [TakesOff, hnav]

/-- A sign-in, and a sign-out from the page it has pushed. -/
def signedInAndOut : List Event :=
  [.frame 0, .verify 1 0 "u", .codeSent 0, .confirm 1 1, .reply 1 (.credential (.ok true)),
    .reply 1 (.document (.ok (some newUser))), .routeReply 2 (.ok (some newUser)), .signOut 2 2,
    .signOutReply 2 none]

/-- The state after `signedInAndOut`. -/
def signedOut : Device := (exec step (launch none) signedInAndOut).get (by decide)

example : (exec (restrict InTime step) (launch none) signedInAndOut).isSome := by decide

/-- The sign-in call goes on when the page that it has pushed is popped, and sets
the state of a page that it has itself replaced. -/
theorem not_undisposed_signedOut : ¬ ∀ (currentUser : Option String) (es : List Event)
    (s t : Device) (e : Event), Run Step (launch currentUser) es s → Step s e t →
      s.Undisposed e := by
  intro h
  obtain ⟨t, ht⟩ : ∃ t, signedOut.step (.popped 1) = some t :=
    Option.isSome_iff_exists.mp (by decide)
  have hpopped := h none signedInAndOut signedOut t (.popped 1) (run_exec_get (by decide)) ht
  exact absurd hpopped (by decide)

end Device

end CollegeCanteens.App
