import CollegeCanteens.Firestore

/-!
# The sign-in handler, await by await

`signInWithPhoneAuthCredential` of `lib/screens/authenticate.dart`, cut at its
awaits.  Each function below is the code between two of them, inside the `try`:
it is given what the await completed with, and says what the call waits for
next, `none` if it has reached the end of the `try`.

What surrounds this code, `showLoading` and the screens, is modelled where it
matters; the documents it writes are not read back by it.
-/

namespace CollegeCanteens.SignIn

/-- What a call waits for. -/
inductive Await where
  | signInWithCredential
  /-- `user.get()`, of the document of a phone number. -/
  | get (phone : String)
  /-- `user.set(...)`. -/
  | set (phone : String)
  /-- The route pushed by `Navigator.pushReplacementNamed` is popped. -/
  | pushReplacementNamed
deriving DecidableEq

/-- The document that a first sign-in sets. -/
def newUser : Fields := ((∅ : Fields).set "isAdmin" (.bool false)).set "Balance" (.int 0)

/-- `signInWithCredential` completes: `reply` says whether the credential has a
user, and `currentUser` is the phone number of `_auth.currentUser`. -/
def afterSignInWithCredential (reply : Except DartError Bool) (currentUser : Option String) :
    Except DartError (Option Await) := do
  if ← reply then
    match currentUser with
    | some phone => return some (.get phone)
    | none => throw .typeError
  else
    return none

/-- The read of the user's document completes. -/
def afterGet (phone : String) (reply : Reply) : Except DartError (Option Await) := do
  match ← reply with
  | none => return some (.set phone)
  | some _ => return some .pushReplacementNamed

/-- The write of a new user's document completes. -/
def afterSet (reply : Except DartError Unit) : Except DartError (Option Await) := do
  reply
  return some .pushReplacementNamed

/-- What an await completes with. -/
inductive Completion where
  | credential (reply : Except DartError Bool)
  | document (reply : Reply)
  | written (reply : Except DartError Unit)

/-- The exception that an await completes with. -/
def Completion.exception : Completion → Option DartError
  | .credential (.error e) | .document (.error e) | .written (.error e) => some e
  | _ => none

/-- The code after an await; `none` if that is not what it completes with. -/
def Await.resume (currentUser : Option String) :
    Await → Completion → Option (Except DartError (Option Await))
  | .signInWithCredential, .credential reply => some (afterSignInWithCredential reply currentUser)
  | .get phone, .document reply => some (afterGet phone reply)
  | .set _, .written reply => some (afterSet reply)
  | _, _ => none

/-- What a call throws is what its await has thrown, if a credential with a user
makes someone the current user. -/
theorem exception_of_resume {currentUser : Option String} {await : Await}
    {completion : Completion} {e : DartError}
    (hu : completion = .credential (.ok true) → currentUser.isSome)
    (h : await.resume currentUser completion = some (.error e)) : completion.exception = some e := by
  cases await with
  | signInWithCredential =>
      rcases completion with (err | b) | _ | _
      · cases h
        rfl
      · cases b with
        | true =>
            obtain ⟨phone, rfl⟩ := Option.isSome_iff_exists.mp (hu rfl)
            cases h
        | false => cases h
      · cases h
      · cases h
  | get phone => rcases completion with _ | (err | _ | doc) | _ <;> cases h; rfl
  | set phone => rcases completion with _ | _ | (err | _) <;> cases h; rfl
  | pushReplacementNamed => cases completion <;> cases h

/-- A call goes on to read the document of the current user only. -/
theorem currentUser_of_resume_get {currentUser : Option String} {await : Await}
    {completion : Completion} {phone : String}
    (h : await.resume currentUser completion = some (.ok (some (.get phone)))) :
    currentUser = some phone := by
  cases await with
  | signInWithCredential =>
      rcases completion with (err | _ | _) | _ | _
      · cases h
      · cases h
      · cases currentUser <;> cases h
        rfl
      · cases h
      · cases h
  | get phone' => rcases completion with _ | (err | _ | doc) | _ <;> cases h
  | set phone' => rcases completion with _ | _ | (err | _) <;> cases h
  | pushReplacementNamed => cases completion <;> cases h

theorem afterGet_eq_set_iff {phone phone' : String} {reply : Reply} :
    afterGet phone reply = .ok (some (.set phone')) ↔ phone' = phone ∧ reply = .ok none := by
  rcases reply with err | _ | doc
  · exact ⟨fun h ↦ (by cases h), fun h ↦ (by cases h.2)⟩
  · exact ⟨fun h ↦ (by cases h; exact ⟨rfl, rfl⟩), fun h ↦ by rw [h.1]; rfl⟩
  · exact ⟨fun h ↦ (by cases h), fun h ↦ (by cases h.2)⟩

end CollegeCanteens.SignIn
