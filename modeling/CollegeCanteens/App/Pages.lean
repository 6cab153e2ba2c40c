import CollegeCanteens.Menu.Screen
import CollegeCanteens.SignIn

/-!
# The pages of the app

The fields of `_InitializerWidgetState` (`lib/main.dart`) and of
`_AuthenticateState` (`lib/screens/authenticate.dart`), and the code of the
first one that `route()` runs: what it does when it is called, and what it does
when the document it has read arrives.
-/

namespace CollegeCanteens.App

open Menu

/-! ## InitializerWidget -/

/-- What a call of `route()` waits for, or how it has ended. -/
inductive RouteState where
  /-- There is no user, and a callback waits for the frame to end. -/
  | postFrame
  /-- There is one, and `route()` waits for the document of a phone number. -/
  | get (phone : String)
  | returned
  | failed
deriving DecidableEq

/-- The home page that an InitializerWidget shows. -/
inductive Home where
  /-- `AdminHomePage`. -/
  | admin
  /-- `UserHomePage`, with the Menu screen on it. -/
  | user (menu : Screen)

/-- The fields of `_InitializerWidgetState`, the state of its call of `route()`
and what its last build has shown. -/
structure InitializerState where
  user : Option String
  isLoading : Bool
  isAdmin : Bool
  usrdata : Fields
  route : RouteState
  /-- The document that `route()` has read, with the phone number it is of. -/
  userData : Option (String × Fields)
  /-- The account that was signed in when that read completed. -/
  signedIn : Option String
  /-- The home page, or `none` for the loading indicator. -/
  home : Option Home

namespace InitializerState

/-- `initState`, and the microtasks after it: without a user `route()` has
returned by then, and `isLoading` is false. -/
def initState (currentUser : Option String) : InitializerState :=
  { user := currentUser
    isLoading := currentUser.isSome
    isAdmin := false
    usrdata := ∅
    route := currentUser.elim .postFrame .get
    userData := none
    signedIn := none
    home := none }

/-- The argument of `setState` in `route()`. -/
def routeSetState (data : Option Fields) (currentUser : Option String) :
    Handler InitializerState Unit := do
  let usrdata ← dataAsMap data
  modify fun s ↦ { s with usrdata := usrdata }
  match currentUser with
  | none => throw .typeError
  | some phone => modify fun s ↦ { s with usrdata := s.usrdata.set "username" (.string phone) }
  let isAdmin ← ((← get).usrdata.field "isAdmin").asBool
  if !isAdmin then
    return
  else
    modify fun s ↦ { s with isAdmin := true }

/-- `build`, when it first leaves the loading indicator; the build of
`UserHomePage` fails without a user name. -/
def build (s : InitializerState) : Option Home :=
  if s.isLoading then none
  else if s.isAdmin then some .admin
  else match s.usrdata.field "username" with
    | .string username => some (.user (.initial username))
    | _ => none

/-- `route()` goes on with the reply to its read: if nothing throws, the future
it returns completes, `isLoading` is set to false, and the page is built. -/
def resume (s : InitializerState) (phone : String) (currentUser : Option String) (reply : Reply) :
    InitializerState :=
  match reply with
  | .error _ => { s with route := .failed }
  | .ok data =>
    let s := { s with
      userData := data.map fun fields ↦ (phone, fields), signedIn := currentUser }
    match (routeSetState data currentUser).exec s with
    | (.ok (), s) =>
      let s := { s with isLoading := false, route := .returned }
      { s with home := s.build }
    | (.error _, s) => { s with route := .failed }

end InitializerState

/-! ## Authenticate -/

/-- Which of its two forms an Authenticate page shows. -/
inductive ScreenState where
  | mobileNoState
  | otpState
deriving DecidableEq

/-- The fields of `_AuthenticateState`.  A verification id stands for the phone
number it was sent for. -/
structure AuthenticateState where
  currState : ScreenState
  showLoading : Bool
  verificationId : Option String
deriving DecidableEq

/-- The fields of a page just opened. -/
def AuthenticateState.initial : AuthenticateState :=
  { currState := .mobileNoState, showLoading := false, verificationId := none }

/-- A page of the app. -/
inductive Page where
  | initializer (s : InitializerState)
  | authenticate (s : AuthenticateState)

/-! ## What a read makes of a page -/

namespace InitializerState

variable {s : InitializerState} {phone : String} {currentUser : Option String} {reply : Reply}

theorem field_set_username {data : Fields} {username : String} :
    Fields.field (data.set "username" (.string username)) "isAdmin" = data.field "isAdmin" := by
  simp [Fields.field, OrderedMap.get?_set]

/-- An existing document with a bool `isAdmin`, while someone is signed in. -/
theorem routeSetState_bool {data : Fields} {username : String} {b : Bool}
    (hadmin : data.field "isAdmin" = .bool b) :
    (routeSetState (some data) (some username)).exec s =
      (.ok ⟨⟩, { s with
        usrdata := data.set "username" (.string username), isAdmin := b || s.isAdmin }) := by
  cases b <;> simp [routeSetState, dataAsMap, field_set_username, hadmin, Scalar.asBool]

/-- With such a document `route()` succeeds. -/
theorem resume_ok {data : Fields} {username : String} {b : Bool}
    (hadmin : data.field "isAdmin" = .bool b) (hs : s.isAdmin = false) :
    s.resume phone (some username) (.ok (some data)) =
      { s with
        usrdata := data.set "username" (.string username), userData := some (phone, data)
        signedIn := some username, isAdmin := b, isLoading := false, route := .returned
        home := some (if b then .admin else .user (.initial username)) } := by
  simp only [resume, Option.map_some, routeSetState_bool hadmin, hs, Bool.or_false]
  cases b <;> simp [build, Fields.field]

/-- Anything else throws, and assigns `usrdata` at most. -/
theorem routeSetState_failed {data : Option Fields} (h : ∀ fields username b, data = some fields →
      currentUser = some username → fields.field "isAdmin" ≠ .bool b) :
    ∃ e usrdata, (routeSetState data currentUser).exec s =
      (.error e, { s with usrdata := usrdata }) := by
  cases data with
  | none => exact ⟨.typeError, s.usrdata, by simp [routeSetState, dataAsMap]⟩
  | some fields =>
      cases currentUser with
      | none => exact ⟨.typeError, fields, by simp [routeSetState, dataAsMap]⟩
      | some username =>
          have hb : (fields.field "isAdmin").asBool = .error .typeError :=
            Scalar.asBool_of_not_bool fun b ↦ h fields username b rfl rfl
          exact ⟨.typeError, fields.set "username" (.string username),
            by simp [routeSetState, dataAsMap, field_set_username, hb]⟩

/-- Any other reply leaves what is shown as it is. -/
theorem resume_failed (h : ∀ data username b, reply = .ok (some data) →
      currentUser = some username → data.field "isAdmin" ≠ .bool b) :
    ∃ usrdata userData signedIn, s.resume phone currentUser reply =
      { s with
        usrdata := usrdata, userData := userData, signedIn := signedIn, route := .failed } := by
  rcases reply with e | data
  · exact ⟨s.usrdata, s.userData, s.signedIn, rfl⟩
  · obtain ⟨e, usrdata, hfail⟩ := @routeSetState_failed
      { s with userData := data.map fun fields ↦ (phone, fields), signedIn := currentUser }
      currentUser data fun fields username b hd ↦ h fields username b (congrArg Except.ok hd)
    exact ⟨usrdata, data.map fun fields ↦ (phone, fields), currentUser,
      by simp only [resume, hfail]⟩

/-- Either the reply has all that a home page needs, or nothing new is shown. -/
theorem resume_cases (s : InitializerState) (phone : String) (currentUser : Option String)
    (reply : Reply) :
    (∃ data username b, reply = .ok (some data) ∧ currentUser = some username ∧
      data.field "isAdmin" = .bool b) ∨
    ∃ usrdata userData signedIn, s.resume phone currentUser reply =
      { s with
        usrdata := usrdata, userData := userData, signedIn := signedIn, route := .failed } := by
  by_cases h : ∃ data username b, reply = .ok (some data) ∧ currentUser = some username ∧
      data.field "isAdmin" = .bool b
  · exact .inl h
  · exact .inr (resume_failed fun data username b hr hu hb ↦ h ⟨data, username, b, hr, hu, hb⟩)

end InitializerState

end CollegeCanteens.App
