import CollegeCanteens.App.Numbers
import CollegeCanteens.Library.Latest

/-!
# The forms of an Authenticate page

The phone number that `App.Device` is given with a tap on Verify is what the fields
`countryCode` and `mob_no` of `_AuthenticateState` (`lib/screens/authenticate.dart`)
make of what has been picked and typed.  Here the device has these fields and what
is on the screen: the country picker and the text fields of the forms, which keep
what was picked and typed only as long as they are not taken off the screen.

The picker is of a package, and a parameter here (`CountryCodePicker`).  What the
device verifies does not depend on it (`entered_run`), but what is on the screen does.
A form is taken off while the spinner is shown.  When it comes back it has a new
picker, which shows the initial country if it does what is documented, but
`countryCode` is still what was picked before: the number that is verified is then
not the one on the screen (`as_shown_iff`).
-/

namespace CollegeCanteens.App

open Transition SignIn

universe u

/-! ## The country picker -/

/-- The widget `CountryCodePicker` of its package, with the states that it may have. -/
structure CountryCodePicker (σ : Type u) where
  /-- A picker new on the screen, with its `initialSelection`. -/
  initState : String → σ
  /-- The form around it is built again. -/
  didUpdateWidget : σ → σ
  /-- A country is chosen in the dialog, and `onChanged` called with this `toString()`. -/
  select : String → σ → σ
  /-- The code that it shows. -/
  code : σ → String
  /-- It also calls `onChanged` when it has been taken off the screen. -/
  callsLate : Bool

/-- The initial value of `countryCode`. -/
def initialCode : String := "+91"

/-- What the form takes for granted of its picker. -/
structure CountryCodePicker.Documented {σ : Type u} (picker : CountryCodePicker σ) : Prop where
  /-- The code of India. -/
  code_initState : picker.code (picker.initState "IN") = initialCode
  code_didUpdateWidget : ∀ state, picker.code (picker.didUpdateWidget state) = picker.code state
  code_select : ∀ code state, picker.code (picker.select code state) = code
  /-- A `State` that is disposed cannot take the choice over. -/
  callsLate_eq : picker.callsLate = false

/-! ## What is on the screen -/

variable {σ : Type u} {picker : CountryCodePicker σ}

/-- What `build` of an Authenticate page can put on the screen. -/
inductive Body where
  /-- The progress indicator. -/
  | spinner
  /-- The form of `get_mob_state`. -/
  | mobile
  /-- The form of `get_otp_state`. -/
  | otp
deriving DecidableEq

/-- `build` of `_AuthenticateState`. -/
def AuthenticateState.build (p : AuthenticateState) : Body :=
  if p.showLoading then .spinner
  else match p.currState with
    | .mobileNoState => .mobile
    | .otpState => .otp

/-- What is on the screen. -/
inductive Shown (σ : Type u) where
  | spinner
  /-- The country picker, and the text in the field. -/
  | mobile (state : σ) (text : String)
  | otp (text : String)

/-- What kind of body is on the screen. -/
def Shown.body : Shown σ → Body
  | .spinner => .spinner
  | .mobile _ _ => .mobile
  | .otp _ => .otp

/-- A body that is new on the screen. -/
def Body.mount (picker : CountryCodePicker σ) : Body → Shown σ
  | .spinner => .spinner
  | .mobile => .mobile (picker.initState "IN") ""
  | .otp => .otp ""

/-- A body that stays on the screen and is built again. -/
def Shown.rebuild (picker : CountryCodePicker σ) : Shown σ → Shown σ
  | .mobile state text => .mobile (picker.didUpdateWidget state) text
  | .spinner => .spinner
  | .otp text => .otp text

/-- The code that the picker shows, or would show if it were put on the screen. -/
def Shown.code (picker : CountryCodePicker σ) : Shown σ → String
  | .mobile state _ => picker.code state
  | .spinner | .otp _ => picker.code (picker.initState "IN")

/-- The number on the screen, if the form for it is there. -/
def Shown.number (picker : CountryCodePicker σ) : Shown σ → Option String
  | .mobile state text => some (picker.code state ++ text)
  | .spinner | .otp _ => none

/-- The text is typed into the text field, if there is one. -/
def Shown.enter (text : String) : Shown σ → Option (Shown σ)
  | .mobile state _ => some (.mobile state text)
  | .otp _ => some (.otp text)
  | .spinner => none

theorem Body.code_mount {body : Body} :
    (body.mount picker).code picker = picker.code (picker.initState "IN") := by
  cases body <;> rfl

theorem Shown.code_rebuild {shown : Shown σ} (hpicker : picker.Documented) :
    (shown.rebuild picker).code picker = shown.code picker := by
  cases shown with
  | mobile state text => exact hpicker.code_didUpdateWidget state
  | spinner | otp => rfl

theorem Shown.code_enter {text : String} {shown shown' : Shown σ}
    (h : shown.enter text = some shown') : shown'.code picker = shown.code picker := by
  cases shown <;> cases h <;> rfl

/-- The other fields of `_AuthenticateState`, and what is on the screen. -/
structure Form (σ : Type u) where
  countryCode : String
  mobNo : String
  otp : String
  shown : Shown σ
  /-- The dialog that is open, if one is, is of the picker on the screen. -/
  picking : Bool

/-- The form of a page just opened. -/
def Form.initial (picker : CountryCodePicker σ) : Form σ :=
  { countryCode := initialCode, mobNo := "", otp := "", shown := Body.mobile.mount picker
    picking := false }

/-- A frame is drawn: the body stays on the screen if it is of the same kind. -/
def Form.draw (picker : CountryCodePicker σ) (p : AuthenticateState) (form : Form σ) : Form σ :=
  if p.build = form.shown.body then { form with shown := form.shown.rebuild picker }
  else { form with shown := p.build.mount picker, picking := false }

theorem Form.countryCode_draw {p : AuthenticateState} {form : Form σ} :
    (form.draw picker p).countryCode = form.countryCode := by
  unfold Form.draw
  split <;> rfl

theorem Form.code_draw {p : AuthenticateState} {form : Form σ} (hpicker : picker.Documented) :
    (form.draw picker p).shown.code picker =
      if p.build = form.shown.body then form.shown.code picker else initialCode := by
  unfold Form.draw
  split
  · exact Shown.code_rebuild hpicker
  · exact Body.code_mount.trans hpicker.code_initState

/-- The length of a string in Dart, in UTF-16 code units. -/
def utf16Length (s : String) : Nat :=
  (s.toList.map fun c ↦ if c.toNat < 0x10000 then 1 else 2).sum

/-- The validator of the OTP field; that of the phone number accepts any text. -/
def ValidOtp (otp : String) : Prop := utf16Length otp = 6

instance : DecidablePred ValidOtp := fun otp ↦ inferInstanceAs (Decidable (utf16Length otp = 6))

/-! ## The machine -/

/-- A device with the forms of its Authenticate pages. -/
structure Forms (σ : Type u) where
  device : Device
  /-- The forms, by the places of their pages. -/
  form : Nat → Form σ

namespace Forms

/-- What can happen. -/
inductive Event where
  /-- An event of the device that is not a tap on a form. -/
  | app (e : App.Event)
  /-- A frame is drawn, and the body of the page is new on the screen or not. -/
  | draw (i : Nat) (anew : Bool)
  | enter (i : Nat) (text : String)
  /-- A tap on the country picker. -/
  | pick (i : Nat)
  /-- A country is chosen in its dialog, and `onChanged` called with its code. -/
  | select (i : Nat) (code : String)
  /-- A tap on Verify, with the number that is passed to `verifyPhoneNumber`. -/
  | verify (i task : Nat) (phone : String)
  /-- A tap on Confirm, with the OTP in the text field. -/
  | confirm (i call : Nat) (otp : String)

/-- The event is a tap on a form. -/
def IsTapOnForm : App.Event → Prop
  | .verify _ _ _ | .pick _ | .confirm _ _ => True
  | _ => False

instance : DecidablePred IsTapOnForm := fun e ↦ by
  unfold IsTapOnForm
  split <;> infer_instance

/-- The app is launched. -/
def launch (picker : CountryCodePicker σ) (currentUser : Option String) : Forms σ :=
  { device := .launch currentUser, form := fun _ ↦ .initial picker }

/-- Change the form of a page. -/
def modify (s : Forms σ) (i : Nat) (f : Form σ → Form σ) : Forms σ :=
  { s with form := Function.update s.form i (f (s.form i)) }

/-- An event of the device. -/
def onDevice (s : Forms σ) (e : App.Event) : Option (Forms σ) :=
  (s.device.step e).map fun device ↦ { s with device := device }

/-- The fields of an Authenticate page. -/
def authenticate? (s : Forms σ) (i : Nat) : Option AuthenticateState :=
  match s.device.pages[i]? with
  | some (.authenticate p) => some p
  | _ => none

/-- One event; `none` if it cannot happen. -/
def step (picker : CountryCodePicker σ) (s : Forms σ) : Event → Option (Forms σ)
  | .app e =>
    if IsTapOnForm e then none
    else (s.onDevice e).map fun s ↦
      match e with
      | .restart _ => { s with form := fun _ ↦ .initial picker }
      | _ => s
  | .draw i anew =>
    match s.authenticate? i with
    | some p =>
      if s.device.Mounted i ∧ (anew = true ↔ p.build ≠ (s.form i).shown.body) then
        some (s.modify i (.draw picker p))
      else none
    | none => none
  | .enter i text =>
    if s.device.stack.head? = some (.page i) ∧ (s.authenticate? i).isSome then
      ((s.form i).shown.enter text).map fun shown ↦
        s.modify i fun form ↦ { form with shown := shown }
    else none
  | .pick i =>
    match (s.form i).shown with
    | .mobile _ _ =>
      (s.onDevice (.pick i)).map fun s ↦ s.modify i fun form ↦ { form with picking := true }
    | _ => none
  | .select i code =>
    if s.device.stack.take 2 = [.picker, .page i] then
      if (s.form i).picking then
        match (s.form i).shown with
        | .mobile state text =>
          (s.onDevice .back).map fun s ↦ s.modify i fun form ↦
            { form with
              countryCode := code, shown := .mobile (picker.select code state) text
              picking := false }
        | _ => none
      else if picker.callsLate then
        (s.onDevice .back).map fun s ↦ s.modify i fun form ↦ { form with countryCode := code }
      else none
    else none
  | .verify i task phone =>
    match (s.form i).shown with
    | .mobile _ text =>
      if phone = (s.form i).countryCode ++ text then
        (s.onDevice (.verify i task phone)).map fun s ↦
          s.modify i fun form ↦ { form with mobNo := text }
      else none
    | _ => none
  | .confirm i call otp =>
    match (s.form i).shown with
    | .otp text =>
      if otp = text then
        if ValidOtp otp then
          (s.onDevice (.confirm i call)).map fun s ↦ s.modify i fun form ↦ { form with otp := otp }
        else if s.device.ShowsForm i .otpState then some s
        else none
      else none
    | _ => none

/-- The steps of the machine. -/
abbrev Step (picker : CountryCodePicker σ) : Forms σ → Event → Forms σ → Prop :=
  Fires (step picker)

/-! ## What each event does -/

variable {s t : Forms σ} {e : Event} {es : List Event} {i j task call : Nat}
  {text code phone otp : String} {anew : Bool} {f : Form σ → Form σ} {currentUser : Option String}

/-- The event of the device that an event is, if it is one. -/
def Event.device? : Event → Option App.Event
  | .app e => some e
  | .draw _ _ | .enter _ _ => none
  | .pick i => some (.pick i)
  | .select _ _ => some .back
  | .verify i task phone => some (.verify i task phone)
  | .confirm i call otp => if ValidOtp otp then some (.confirm i call) else none

theorem form_modify : (s.modify i f).form j = if j = i then f (s.form i) else s.form j :=
  Function.update_apply ..

theorem onDevice_eq_some_iff {e : App.Event} : s.onDevice e = some t ↔
    ∃ device, Device.Step s.device e device ∧ t = { s with device := device } := by
  rw [onDevice, Option.map_eq_some_iff]
  constructor
  · rintro ⟨device, hstep, rfl⟩
    exact ⟨device, hstep, rfl⟩
  · rintro ⟨device, hstep, rfl⟩
    exact ⟨device, hstep, rfl⟩

/-- What an event does to the device and to the forms. -/
inductive Effect (picker : CountryCodePicker σ) (s : Forms σ) : Event → Forms σ → Prop
  | restart {currentUser : Option String} {device : Device} :
      Device.Step s.device (.restart currentUser) device →
      Effect picker s (.app (.restart currentUser))
        { device := device, form := fun _ ↦ .initial picker }
  | app {e : App.Event} {device : Device} : ¬ IsTapOnForm e →
      (∀ currentUser, e ≠ .restart currentUser) → Device.Step s.device e device →
      Effect picker s (.app e) { s with device := device }
  | draw {p : AuthenticateState} {i : Nat} {anew : Bool} :
      (anew = true ↔ p.build ≠ (s.form i).shown.body) →
      Effect picker s (.draw i anew) (s.modify i (.draw picker p))
  | enter {i : Nat} {text : String} {shown : Shown σ} : (s.form i).shown.enter text = some shown →
      Effect picker s (.enter i text) (s.modify i fun form ↦ { form with shown := shown })
  | pick {i : Nat} {device : Device} : Device.Step s.device (.pick i) device →
      Effect picker s (.pick i) (modify { s with device := device } i fun form ↦
        { form with picking := true })
  | select {i : Nat} {code text : String} {state : σ} {device : Device} :
      (s.form i).shown = .mobile state text → Device.Step s.device .back device →
      Effect picker s (.select i code) (modify { s with device := device } i fun form ↦
        { form with
          countryCode := code, shown := .mobile (picker.select code state) text
          picking := false })
  | /-- The picker of the dialog is not on the screen any more. -/
    selectLate {i : Nat} {code : String} {device : Device} : picker.callsLate = true →
      Device.Step s.device .back device →
      Effect picker s (.select i code) (modify { s with device := device } i fun form ↦
        { form with countryCode := code })
  | verify {i task : Nat} {phone text : String} {state : σ} {device : Device} :
      (s.form i).shown = .mobile state text → phone = (s.form i).countryCode ++ text →
      Device.Step s.device (.verify i task phone) device →
      Effect picker s (.verify i task phone) (modify { s with device := device } i fun form ↦
        { form with mobNo := text })
  | confirm {i call : Nat} {otp : String} {device : Device} : ValidOtp otp →
      Device.Step s.device (.confirm i call) device →
      Effect picker s (.confirm i call otp) (modify { s with device := device } i fun form ↦
        { form with otp := otp })
  | /-- The OTP is not accepted. -/
    reject {i call : Nat} {otp : String} : ¬ ValidOtp otp → Effect picker s (.confirm i call otp) s

theorem effect_step (h : Step picker s e t) : Effect picker s e t := by
  cases e with
  | app e =>
      simp only [Fires, step] at h
      split at h
      · cases h
      · obtain ⟨s', hs', rfl⟩ := Option.map_eq_some_iff.mp h
        obtain ⟨device, hdevice, rfl⟩ := onDevice_eq_some_iff.mp hs'
        cases e with
        | restart currentUser => exact .restart hdevice
        | _ => exact .app ‹_› (by rintro currentUser ⟨⟩) hdevice
  | draw i anew =>
      simp only [Fires, step] at h
      split at h
      · split at h
        · cases h
          exact .draw (‹_ ∧ _›).2
        · cases h
      · cases h
  | enter i text =>
      simp only [Fires, step] at h
      split at h
      · obtain ⟨shown, hshown, rfl⟩ := Option.map_eq_some_iff.mp h
        exact .enter hshown
      · cases h
  | pick i =>
      simp only [Fires, step] at h
      split at h
      · obtain ⟨s', hs', rfl⟩ := Option.map_eq_some_iff.mp h
        obtain ⟨device, hdevice, rfl⟩ := onDevice_eq_some_iff.mp hs'
        exact .pick hdevice
      · cases h
  | select i code =>
      simp only [Fires, step] at h
      split at h
      · split at h
        · split at h
          · obtain ⟨s', hs', rfl⟩ := Option.map_eq_some_iff.mp h
            obtain ⟨device, hdevice, rfl⟩ := onDevice_eq_some_iff.mp hs'
            exact .select ‹_› hdevice
          · cases h
        · split at h
          · obtain ⟨s', hs', rfl⟩ := Option.map_eq_some_iff.mp h
            obtain ⟨device, hdevice, rfl⟩ := onDevice_eq_some_iff.mp hs'
            exact .selectLate ‹_› hdevice
          · cases h
      · cases h
  | verify i task phone =>
      simp only [Fires, step] at h
      split at h
      · split at h
        · obtain ⟨s', hs', rfl⟩ := Option.map_eq_some_iff.mp h
          obtain ⟨device, hdevice, rfl⟩ := onDevice_eq_some_iff.mp hs'
          exact .verify ‹_› ‹_› hdevice
        · cases h
      · cases h
  | confirm i call otp =>
      simp only [Fires, step] at h
      split at h
      · split at h
        · split at h
          · obtain ⟨s', hs', rfl⟩ := Option.map_eq_some_iff.mp h
            obtain ⟨device, hdevice, rfl⟩ := onDevice_eq_some_iff.mp hs'
            exact .confirm ‹_› hdevice
          · split at h
            · cases h
              exact .reject ‹_›
            · cases h
        · cases h
      · cases h

/-- Without its forms the machine is the device. -/
theorem device_step (h : Step picker s e t) :
    (∃ e', e.device? = some e' ∧ Device.Step s.device e' t.device) ∨
      e.device? = none ∧ t.device = s.device := by
  cases effect_step h with
  | restart hdevice | pick hdevice => exact .inl ⟨_, rfl, hdevice⟩
  | draw | enter => exact .inr ⟨rfl, rfl⟩
  | select _ hdevice | selectLate _ hdevice => exact .inl ⟨_, rfl, hdevice⟩
  | app _ _ hdevice | verify _ _ hdevice => exact .inl ⟨_, rfl, hdevice⟩
  | confirm hvalid hdevice => exact .inl ⟨_, if_pos hvalid, hdevice⟩
  | reject hvalid => exact .inr ⟨if_neg hvalid, rfl⟩

theorem device_run (h : Run (Step picker) s es t) :
    Run Device.Step s.device (es.filterMap Event.device?) t.device :=
  h.simulate Forms.device Event.device? device_step

/-! ## The country code -/

/-- The country code that an event sets `countryCode` of a page to. -/
def sets (i : Nat) : Event → Option String
  | .select j code => if j = i then some code else none
  | .app (.restart _) => some initialCode
  | _ => none

/-- The body of the page is drawn anew. -/
def Redraws (i : Nat) : Event → Prop
  | .draw j anew => j = i ∧ anew = true
  | _ => False

instance (i : Nat) : DecidablePred (Redraws i) := fun e ↦ by
  unfold Redraws
  split <;> infer_instance

theorem sets_of_redraws (h : Redraws i e) : sets i e = none := by
  cases e with
  | draw => rfl
  | app | enter | pick | select | verify | confirm => cases h

theorem sets_eq_some_iff (hcode : code ≠ initialCode) :
    sets i e = some code ↔ e = .select i code := by
  constructor
  · intro h
    cases e with
    | select j code' =>
        simp only [sets] at h
        split at h
        · cases h
          subst ‹j = i›
          rfl
        · cases h
    | app e =>
        cases e with
        | restart => exact absurd (Option.some.inj h).symm hcode
        | _ => cases h
    | draw | enter | pick | verify | confirm => cases h
  · rintro rfl
    exact if_pos rfl

/-- `countryCode` is what was picked last. -/
theorem countryCode_step (h : Step picker s e t) :
    (t.form i).countryCode = (sets i e).getD (s.form i).countryCode := by
  cases effect_step h with
  | restart | reject => rfl
  | @app e device _ hne =>
      cases e with
      | restart currentUser => exact absurd rfl (hne currentUser)
      | _ => rfl
  | @draw p j anew =>
      rw [form_modify]
      split
      · subst ‹i = j›
        exact Form.countryCode_draw
      · rfl
  | enter | pick | verify | confirm =>
      rw [form_modify]
      split
      · subst ‹i = _›
        rfl
      · rfl
  | @select j code | @selectLate j code =>
      rw [form_modify]
      split
      · subst ‹i = j›
        simp [sets]
      · simp [sets, Ne.symm ‹i ≠ j›]

/-- The picker shows what was picked last, unless it was drawn anew. -/
theorem code_step (hpicker : picker.Documented) (h : Step picker s e t) :
    (t.form i).shown.code picker =
      (reset (Redraws i) initialCode (sets i) e).getD ((s.form i).shown.code picker) := by
  cases effect_step h with
  | restart => exact hpicker.code_initState
  | reject => rfl
  | selectLate hlate =>
      rw [hpicker.callsLate_eq] at hlate
      cases hlate
  | @app e device _ hne =>
      cases e with
      | restart currentUser => exact absurd rfl (hne currentUser)
      | _ => rfl
  | @draw p j anew hanew =>
      have hreset : reset (Redraws i) initialCode (sets i) (.draw j anew) =
          if j = i ∧ anew = true then some initialCode else none :=
        if_congr Iff.rfl rfl rfl
      rw [form_modify, hreset]
      split
      · subst ‹i = j›
        rw [Form.code_draw hpicker]
        cases anew with
        | true => simp [hanew.mp rfl]
        | false => simp [not_not.mp (mt hanew.mpr Bool.false_ne_true)]
      · rw [if_neg fun h ↦ ‹¬ i = j› h.1.symm]
        rfl
  | @enter j text shown hshown =>
      rw [form_modify]
      split
      · subst ‹i = j›
        exact Shown.code_enter hshown
      · rfl
  | pick | confirm =>
      rw [form_modify]
      split
      · subst ‹i = _›
        rfl
      · rfl
  | @verify j =>
      rw [form_modify]
      split
      · subst ‹i = j›
        rfl
      · rfl
  | @select j code =>
      rw [form_modify]
      split
      · subst ‹i = j›
        simp [reset, Redraws, sets, Shown.code, hpicker.code_select]
      · simp [reset, Redraws, sets, Ne.symm ‹i ≠ j›]

theorem countryCode_run (h : Run (Step picker) (launch picker currentUser) es t) :
    (t.form i).countryCode = latest (sets i) initialCode es :=
  h.latest_eq (f := fun s ↦ (s.form i).countryCode) countryCode_step

theorem code_run (hpicker : picker.Documented)
    (h : Run (Step picker) (launch picker currentUser) es t) : (t.form i).shown.code picker =
      latest (reset (Redraws i) initialCode (sets i)) initialCode es := by
  have hlatest := h.latest_eq (f := fun s ↦ (s.form i).shown.code picker) (code_step hpicker)
  rw [hlatest]
  exact congrArg (latest _ · es) hpicker.code_initState

/-! ## The number that is verified -/

theorem step_verify (h : Step picker s (.verify i task phone) t) : ∃ state text,
    (s.form i).shown = .mobile state text ∧ phone = (s.form i).countryCode ++ text := by
  cases effect_step h with
  | verify hshown hphone => exact ⟨_, _, hshown, hphone⟩

/-- A country other than the initial one was picked on a form of the page that has
been taken off the screen since, and none was picked since. -/
def Outlived (es : List Event) (i : Nat) : Prop :=
  ∃ pre code post, es = pre ++ .select i code :: post ∧ code ≠ initialCode ∧
    (∀ e ∈ post, sets i e = none) ∧ ∃ e ∈ post, Redraws i e

theorem countryCode_ne_iff (hpicker : picker.Documented)
    (h : Run (Step picker) (launch picker currentUser) es s) :
    (s.form i).countryCode ≠ (s.form i).shown.code picker ↔ Outlived es i := by
  rw [countryCode_run h, code_run hpicker h, latest_ne_latest_reset_iff fun e ↦ sets_of_redraws]
  constructor
  · rintro ⟨pre, e, post, code, rfl, he, hcode, hpost, hredraws⟩
    obtain rfl := (sets_eq_some_iff hcode).mp he
    exact ⟨pre, code, post, rfl, hcode, hpost, hredraws⟩
  · rintro ⟨pre, code, post, rfl, hcode, hpost, hredraws⟩
    exact ⟨pre, _, post, code, rfl, (sets_eq_some_iff hcode).mpr rfl, hcode, hpost, hredraws⟩

/-- The number that is verified is the one on the screen, with a picker that does what
is documented, if and only if no country picked earlier has outlived the form that it
was picked on. -/
theorem as_shown_iff (hpicker : picker.Documented)
    (h : Run (Step picker) (launch picker currentUser) es s)
    (hR : Step picker s (.verify i task phone) t) :
    (s.form i).shown.number picker = some phone ↔ ¬ Outlived es i := by
  obtain ⟨state, text, hshown, rfl⟩ := step_verify hR
  rw [← countryCode_ne_iff hpicker h, not_not, hshown]
  constructor
  · intro hnumber
    have happend : picker.code state ++ text = (s.form i).countryCode ++ text := Option.some.inj hnumber
    exact ((String.append_left_inj text).mp happend).symm
  · intro hcode
    rw [hcode]
    rfl

/-- An event that is a tap on Verify for the device is one here. -/
theorem eq_verify_of_device? (h : Step picker s e t) (he : e.device? = some (.verify i task phone)) :
    e = .verify i task phone := by
  cases effect_step h with
  | app hnot =>
      cases he
      exact absurd trivial hnot
  | verify =>
      cases he
      rfl
  | confirm | reject =>
      simp only [Event.device?] at he
      split at he <;> cases he
  | restart | draw | enter | pick | select | selectLate => cases he

/-- The number was verified, and is what had been picked last and what was then in
the text field of the form. -/
def Entered (picker : CountryCodePicker σ) (currentUser : Option String) (es : List Event)
    (phone : String) : Prop :=
  ∃ pre i task a state text, pre ++ [.verify i task phone] <+: es ∧
    Run (Step picker) (launch picker currentUser) pre a ∧
    (a.form i).shown = .mobile state text ∧ phone = latest (sets i) initialCode pre ++ text

/-- Whoever is signed in was so at the launch, or has had the number entered. -/
theorem entered_run (h : Run (Step picker) (launch picker currentUser) es t)
    (ht : t.device.currentUser = some phone) :
    currentUser = some phone ∨ Entered picker currentUser es phone := by
  rcases Device.currentUser_run (device_run h) ht with hlaunch | ⟨i, task, hmem⟩
  · exact .inl hlaunch
  · right
    obtain ⟨e, he, hdevice⟩ := List.mem_filterMap.mp hmem
    obtain ⟨pre, post, rfl⟩ := List.append_of_mem he
    rw [List.append_cons] at h
    obtain ⟨b, hb, -⟩ := h.split
    obtain ⟨a, ha, hab⟩ := hb.of_snoc
    obtain rfl := eq_verify_of_device? hab hdevice
    obtain ⟨state, text, hshown, hphone⟩ := step_verify hab
    refine ⟨pre, i, task, a, state, text, ?_, ha, hshown, ?_⟩
    · exact ⟨post, by simp⟩
    · rw [hphone, countryCode_run ha]

/-- A picker that shows the code of the country chosen last, and knows of India and of
the first country of its list. -/
def codePicker : CountryCodePicker String :=
  { initState := fun selection ↦ if selection = "IN" then "+91" else "+93"
    didUpdateWidget := fun code ↦ code
    select := fun code _ ↦ code
    code := fun code ↦ code
    callsLate := false }

theorem codePicker_documented : codePicker.Documented :=
  { code_initState := rfl
    code_didUpdateWidget := fun _ ↦ rfl
    code_select := fun _ _ ↦ rfl
    callsLate_eq := rfl }

/-- A country is picked and a number typed, the verification fails, and the digits
are typed again. -/
def typedAgain : List Event :=
  [.app (.frame 0), .pick 1, .select 1 "+1", .enter 1 "5", .verify 1 0 "+15", .draw 1 true,
    .app (.verificationFailed 0), .draw 1 true, .enter 1 "5"]

/-- The state after `typedAgain`. -/
def afterTypedAgain : Forms String :=
  (exec (step codePicker) (launch codePicker none) typedAgain).get (by decide)

theorem run_typedAgain :
    Run (Step codePicker) (launch codePicker none) typedAgain afterTypedAgain :=
  run_exec_get (by decide)

theorem step_typedAgain : Step codePicker afterTypedAgain (.verify 1 1 "+15")
    ((afterTypedAgain.step codePicker (.verify 1 1 "+15")).get (by decide)) :=
  (Option.some_get _).symm

/-- The number on the screen is not the one that is verified. -/
theorem as_shown_iff_typedAgain :
    (afterTypedAgain.form 1).shown.number codePicker = some "+15" ↔ ¬ Outlived typedAgain 1 :=
  as_shown_iff codePicker_documented run_typedAgain step_typedAgain

/-- And then the number is signed in. -/
def signedInAgain : List Event :=
  typedAgain ++ [.verify 1 1 "+15", .app (.verificationCompleted 1 2),
    .app (.reply 2 (.credential (.ok true)))]

theorem entered_run_signedInAgain :
    none = some "+15" ∨ Entered codePicker none signedInAgain "+15" :=
  entered_run (t := (exec (step codePicker) (launch codePicker none) signedInAgain).get (by decide))
    (run_exec_get (by decide)) (by decide)

end Forms

end CollegeCanteens.App
