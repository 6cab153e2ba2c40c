import Mathlib.Init

/-!
# Handlers

The code of a handler between two awaits reads and assigns the fields of a State
and may throw; what it has assigned before it throws stays assigned.  `Handler`
is the monad for that, and `Handler.exec` runs it, step by step through the
lemmas below.
-/

namespace CollegeCanteens

/-- What a handler can throw.  `signInWithPhoneAuthCredential` catches the
`FirebaseAuthException`s and nothing else does any catching, so that the other
exceptions need no finer distinction than where they come from. -/
inductive DartError where
  /-- A failed cast, a null check on `null`, a method missing on `null`. -/
  | typeError
  | firebaseAuthException
  /-- Any other exception of a Firebase call. -/
  | firebaseException
deriving DecidableEq, Repr

/-- A computation that may throw ends with a value if both of its parts do. -/
theorem bind_eq_ok {α β : Type} {x : Except DartError α} {f : α → Except DartError β} {b : β} :
    (x >>= f) = .ok b ↔ ∃ a, x = .ok a ∧ f a = .ok b := by
  rcases x with e | a
  · exact ⟨fun h ↦ (by cases h), fun ⟨_, h, _⟩ ↦ (by cases h)⟩
  · exact ⟨fun h ↦ ⟨a, rfl, h⟩, fun ⟨_, h, h'⟩ ↦ (by cases h; exact h')⟩

/-- A loop of computations that may throw ends if each round of it does. -/
theorem foldlM_ok {α β : Type} {f : β → α → Except DartError β} {l : List α} {b : β}
    (h : ∀ a ∈ l, ∀ b, ∃ b', f b a = .ok b') : ∃ b', l.foldlM f b = .ok b' := by
  induction l generalizing b with
  | nil => exact ⟨b, rfl⟩
  | cons a l ih =>
      obtain ⟨b₁, hround⟩ := h a List.mem_cons_self b
      obtain ⟨b', hrest⟩ := ih (b := b₁) fun a' ha' ↦ h a' (List.mem_cons_of_mem a ha')
      exact ⟨b', by rw [List.foldlM_cons]; exact bind_eq_ok.mpr ⟨b₁, hround, hrest⟩⟩

/-- Code that reads and assigns the fields `σ` and may throw. -/
abbrev Handler (σ : Type) := ExceptT DartError (StateM σ)

namespace Handler

variable {σ α : Type} {s : σ}

/-- The outcome of a handler and the fields it leaves behind. -/
def exec (handler : Handler σ α) (s : σ) : Except DartError α × σ := (ExceptT.run handler).run s

@[simp] theorem exec_pure {a : α} : (pure a : Handler σ α).exec s = (.ok a, s) := rfl

@[simp] theorem exec_throw {e : DartError} : (throw e : Handler σ α).exec s = (.error e, s) := rfl

@[simp] theorem exec_modify {f : σ → σ} : (modify f : Handler σ PUnit).exec s = (.ok ⟨⟩, f s) := rfl

@[simp] theorem exec_get_bind {k : σ → Handler σ α} : (get >>= k).exec s = (k s).exec s := rfl

@[simp] theorem exec_modify_bind {f : σ → σ} {k : PUnit → Handler σ α} :
    (modify f >>= k).exec s = (k ⟨⟩).exec (f s) := rfl

@[simp] theorem exec_ok_bind {β : Type} {b : β} {k : β → Handler σ α} :
    ((liftM (Except.ok b : Except DartError β) : Handler σ β) >>= k).exec s = (k b).exec s := rfl

@[simp] theorem exec_error_bind {β : Type} {e : DartError} {k : β → Handler σ α} :
    ((liftM (Except.error e : Except DartError β) : Handler σ β) >>= k).exec s = (.error e, s) := rfl

end Handler

end CollegeCanteens
