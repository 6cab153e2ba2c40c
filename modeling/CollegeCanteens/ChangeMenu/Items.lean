import CollegeCanteens.ChangeMenu.Rendered

/-!
# What holds of every item on the server

A Menu that the server has had is the first one, or the edit of another writer, or
the map that some screen has sent, and a screen sends what it has rendered with
one item changed.  So a property of single items that the buttons keep holds of
every Menu, on the server, on the screens and on the way, if it holds at first and
of what others write (`kept_step`), whatever is lost in between.

One such property is that `isAvailable` is a bool: a Menu that some screen cannot
render comes from the start or from other writers only (`renders_run_iff`).
-/

namespace CollegeCanteens.ChangeMenu

open Transition Menu

variable {q : String → Fields → Prop} {menu menu' : MenuMap} {button : Button} {key : String}

/-- An event of another writer. -/
def Event.IsEdit : Event → Prop
  | .setPrice _ _ | .addItem _ _ => True
  | _ => False

/-- What another writer does to an item keeps the property. -/
def Event.Keeps (q : String → Fields → Prop) : Event → Prop
  | .setPrice key price => ∀ item, q key item → q key (item.set "Price" price)
  | .addItem key item => q key item
  | _ => True

/-- The property does not depend on whether the item is available. -/
def Toggles (q : String → Fields → Prop) : Prop :=
  ∀ key item b, q key item → q key (item.set "isAvailable" (.bool b))

theorem all_onPressed (ht : Toggles q) (hm : menu.All q)
    (h : button.onPressed menu key = .ok menu') : menu'.All q := by
  have htoggle : toggleOnPressed menu key = .ok menu' := by cases button <;> exact h
  obtain ⟨b, -, hmenu⟩ := bind_eq_ok.mp htoggle
  obtain rfl := Except.ok.inj hmenu
  exact hm.modify fun item ↦ ht key item !b

theorem all_build (hm : menu.All q) (h : build menu = .ok menu') : menu'.All q :=
  hm.same (same_of_build h)

namespace System

variable {s t : System} {e : Event} {es : List Event} {screen : Nat × Nat} {write : Write}

/-! ## Where the Menus come from -/

theorem step_setPrice {price : Scalar} (h : s.step (.setPrice key price) = some t) :
    t = s.commit (s.server.modify key fun item ↦ item.set "Price" price) :=
  (Option.some.inj h).symm

/-- A tap on a button that throws changes nothing. -/
theorem tap_eq (h : s.step (.tap screen button key) = some t) : t = s ∨
    ∃ shown menu', (s.screens screen).menu = some shown ∧ button.onPressed shown key = .ok menu' ∧
      t = { s with
        screens := Function.update s.screens screen { s.screens screen with menu := some menu' }
        pending := s.pending ++ [⟨screen.1, menu', key, shown⟩] } := by
  obtain ⟨shown, hshown, hkey, ⟨err, herr⟩ | ⟨menu', hok, ht⟩⟩ := step_tap h
  · simp only [step, hshown, if_pos hkey, herr] at h
    exact .inl (Option.some.inj h).symm
  · exact .inr ⟨shown, menu', hshown, hok, ht⟩

/-- What a step does at the server: nothing, or it has a new Menu, which was on its
way or is the edit of another writer. -/
theorem server_step (h : Step s e t) : t.server = s.server ∧ t.history = s.history ∨
    ∃ menu, t.server = menu ∧ t.history = s.history ++ [menu] ∧
      ((∃ write ∈ s.pending, menu = write.menu) ∨ e.IsEdit ∧ menu = carryOut s.server e) := by
  cases e with
  | deliver screen position =>
      obtain ⟨menu, -, rfl⟩ := step_deliver h
      exact .inl ⟨rfl, rfl⟩
  | tap screen button key =>
      rcases tap_eq h with rfl | ⟨shown, menu', -, -, rfl⟩ <;> exact .inl ⟨rfl, rfl⟩
  | land device =>
      obtain ⟨write, hnext, rfl⟩ := step_land h
      exact .inr ⟨write.menu, rfl, rfl, .inl ⟨write, List.mem_of_find?_eq_some hnext, rfl⟩⟩
  | setPrice key price =>
      obtain rfl := step_setPrice h
      exact .inr ⟨_, rfl, rfl, .inr ⟨trivial, rfl⟩⟩
  | addItem key item =>
      obtain ⟨-, rfl⟩ := step_addItem h
      exact .inr ⟨_, rfl, rfl, .inr ⟨trivial, rfl⟩⟩

/-- A write is sent by a tap on a button of a row, and sends what the button has
made of the map that the screen had rendered. -/
theorem pending_step (h : Step s e t) (hw : write ∈ t.pending) : write ∈ s.pending ∨
    ∃ screen button shown, e = .tap screen button write.key ∧ screen.1 = write.device ∧
      (s.screens screen).menu = some shown ∧ button.onPressed shown write.key = .ok write.menu := by
  cases e with
  | deliver screen position =>
      obtain ⟨menu, -, rfl⟩ := step_deliver h
      exact .inl hw
  | tap screen button key =>
      rcases tap_eq h with rfl | ⟨shown, menu', hshown, hok, rfl⟩
      · exact .inl hw
      · rcases List.mem_append.mp hw with hw | hw
        · exact .inl hw
        · obtain rfl := List.mem_singleton.mp hw
          exact .inr ⟨screen, button, shown, rfl, rfl, hshown, hok⟩
  | land device =>
      obtain ⟨write', -, rfl⟩ := step_land h
      exact .inl (List.mem_of_mem_erase hw)
  | setPrice key price =>
      obtain rfl := step_setPrice h
      exact .inl hw
  | addItem key item =>
      obtain ⟨-, rfl⟩ := step_addItem h
      exact .inl hw

/-- A screen shows what it has shown before, a Menu of the server, or what one of
its buttons has made of the map. -/
theorem shown_step (h : Step s e t) (hm : (t.screens screen).menu = some menu) :
    (s.screens screen).menu = some menu ∨ (∃ menu₀ ∈ s.history, build menu₀ = .ok menu) ∨
      ∃ button key shown, (s.screens screen).menu = some shown ∧
        Button.onPressed button shown key = .ok menu := by
  cases e with
  | deliver screen' position =>
      obtain ⟨menu₀, hmenu₀, rfl⟩ := step_deliver h
      rcases eq_or_ne screen screen' with rfl | hne
      · refine .inr (.inl ⟨menu₀, hmenu₀, ?_⟩)
        simp only [Function.update_self] at hm
        cases hb : build menu₀ with
        | error err => simp [hb, Except.toOption] at hm
        | ok menu₁ => simpa [hb, Except.toOption] using hm
      · exact .inl (by simpa [Function.update_of_ne hne] using hm)
  | tap screen' button key =>
      rcases tap_eq h with rfl | ⟨shown, menu', hshown, hok, rfl⟩
      · exact .inl hm
      · rcases eq_or_ne screen screen' with rfl | hne
        · simp only [Function.update_self, Option.some.injEq] at hm
          exact .inr (.inr ⟨button, key, shown, hshown, hm ▸ hok⟩)
        · exact .inl (by simpa [Function.update_of_ne hne] using hm)
  | land device =>
      obtain ⟨write', -, rfl⟩ := step_land h
      exact .inl hm
  | setPrice key price =>
      obtain rfl := step_setPrice h
      exact .inl hm
  | addItem key item =>
      obtain ⟨-, rfl⟩ := step_addItem h
      exact .inl hm

theorem history_mono (h : Step s e t) (hm : menu ∈ s.history) : menu ∈ t.history := by
  rcases server_step h with ⟨-, heq⟩ | ⟨menu', -, heq, -⟩ <;> rw [heq]
  · exact hm
  · exact List.mem_append_left _ hm

theorem history_run (h : Run Step s es t) (hm : menu ∈ s.history) : menu ∈ t.history :=
  h.invariant (P := fun s ↦ menu ∈ s.history) hm fun ha hR ↦ history_mono hR ha

/-- A write stays on its way until it lands. -/
theorem pending_mono (h : Step s e t) (hw : write ∈ s.pending) :
    write ∈ t.pending ∨ write.menu ∈ t.history := by
  cases e with
  | deliver screen position =>
      obtain ⟨menu, -, rfl⟩ := step_deliver h
      exact .inl hw
  | tap screen button key =>
      rcases tap_eq h with rfl | ⟨shown, menu', -, -, rfl⟩
      · exact .inl hw
      · exact .inl (List.mem_append_left _ hw)
  | land device =>
      obtain ⟨write', -, rfl⟩ := step_land h
      rcases eq_or_ne write write' with rfl | hne
      · exact .inr (List.mem_append_right _ List.mem_cons_self)
      · exact .inl ((List.mem_erase_of_ne hne).mpr hw)
  | setPrice key price =>
      obtain rfl := step_setPrice h
      exact .inl hw
  | addItem key item =>
      obtain ⟨-, rfl⟩ := step_addItem h
      exact .inl hw

/-! ## A property of every item -/

/-- Every item of every Menu has the property, on the server, on the screens and
on the way. -/
structure Kept (q : String → Fields → Prop) (s : System) : Prop where
  server : s.server ∈ s.history
  history : ∀ menu ∈ s.history, menu.All q
  shown : ∀ screen menu, (s.screens screen).menu = some menu → menu.All q
  pending : ∀ write ∈ s.pending, write.menu.All q

theorem kept_initial (h : menu.All q) : (initial menu).Kept q where
  server := List.mem_cons_self
  history menu' hm := List.mem_singleton.mp hm ▸ h
  shown screen menu' hm := by cases hm
  pending write hw := by cases hw

theorem all_carryOut (hs : s.Kept q) (he : e.Keeps q) (hedit : e.IsEdit) :
    (carryOut s.server e).All q := by
  have hserver := hs.history s.server hs.server
  cases e with
  | setPrice key price => exact hserver.modify he
  | addItem key item => exact hserver.set_iff.mpr he
  | deliver | tap | land => cases hedit

/-- A step keeps a property that does not depend on availability, if other writers
do. -/
theorem kept_step (ht : Toggles q) (hs : s.Kept q) (he : e.Keeps q) (h : Step s e t) :
    t.Kept q where
  server := by
    rcases server_step h with ⟨hserver, heq⟩ | ⟨menu, hserver, heq, -⟩ <;> rw [hserver, heq]
    · exact hs.server
    · exact List.mem_append_right _ List.mem_cons_self
  history menu hm := by
    rcases server_step h with ⟨-, heq⟩ | ⟨menu', -, heq, hmenu'⟩ <;> rw [heq] at hm
    · exact hs.history menu hm
    · rcases List.mem_append.mp hm with hm | hm
      · exact hs.history menu hm
      · obtain rfl := List.mem_singleton.mp hm
        rcases hmenu' with ⟨write, hw, rfl⟩ | ⟨hedit, rfl⟩
        · exact hs.pending write hw
        · exact all_carryOut hs he hedit
  shown screen menu hm := by
    rcases shown_step h hm with hm | ⟨menu₀, hmenu₀, hbuild⟩ | ⟨button, key, shown, hshown, hok⟩
    · exact hs.shown screen menu hm
    · exact all_build (hs.history menu₀ hmenu₀) hbuild
    · exact all_onPressed ht (hs.shown screen shown hshown) hok
  pending write hw := by
    rcases pending_step h hw with hw | ⟨screen, button, shown, -, -, hshown, hok⟩
    · exact hs.pending write hw
    · exact all_onPressed ht (hs.shown screen shown hshown) hok

theorem kept_run (ht : Toggles q) (h : Run Step (initial menu) es t) (hmenu : menu.All q)
    (hes : ∀ e ∈ es, e.Keeps q) : t.Kept q := by
  induction h with
  | refl => exact kept_initial hmenu
  | @snoc es a e b _ hR ih =>
      refine kept_step ht (ih fun e' he' ↦ hes e' (List.mem_append_left _ he')) ?_ hR
      exact hes e (by simp)

/-! ## Menus that every screen can render -/

/-- Both the Menu screen and the ChangeMenu screen build their lists of the Menu. -/
def Renders (menu : MenuMap) : Prop :=
  ∃ shown rendered, availableItems menu = .ok shown ∧ build menu = .ok rendered

theorem renders_iff : Renders menu ↔ AllBool menu := by
  constructor
  · rintro ⟨-, rendered, -, hrendered⟩
    exact (allBool_of_build hrendered).same fun k ↦ (same_of_build hrendered k).symm
  · intro h
    obtain ⟨⟨shown, hshown⟩, rendered, hrendered⟩ := builds_ok h
    exact ⟨shown, rendered, hshown, hrendered⟩

theorem toggles_bool : Toggles fun _ item ↦ ∃ b, item.field "isAvailable" = .bool b :=
  fun _ _ b _ ↦ ⟨b, by simp [Fields.field]⟩

/-- Both screens render every Menu that the server ever has, exactly if they render
the first one and every item that other writers add has a bool `isAvailable`.  No
tap on a ChangeMenu screen leads to a Menu that cannot be rendered, whatever the
screen was shown and in whichever order the writes land. -/
theorem renders_run_iff (h : Run Step (initial menu) es t) :
    (∀ menu' ∈ t.history, Renders menu') ↔ Renders menu ∧
      ∀ key item, .addItem key item ∈ es → ∃ b, item.field "isAvailable" = .bool b := by
  constructor
  · intro hall
    refine ⟨hall menu (history_run h List.mem_cons_self), fun key item hitem ↦ ?_⟩
    obtain ⟨pre, post, rfl⟩ := List.append_of_mem hitem
    rw [List.append_cons] at h
    obtain ⟨b, hb, hpost⟩ := h.split
    obtain ⟨a, -, hab⟩ := hb.of_snoc
    obtain ⟨-, rfl⟩ := step_addItem hab
    have hmem : a.server.set key item ∈ t.history :=
      history_run hpost (List.mem_append_right _ List.mem_cons_self)
    exact renders_iff.mp (hall _ hmem) key item OrderedMap.get?_set_self
  · rintro ⟨hmenu, hadded⟩ menu' hm
    refine renders_iff.mpr ((kept_run toggles_bool h (renders_iff.mp hmenu) fun e he ↦ ?_).history
      menu' hm)
    cases e with
    | setPrice key price =>
        rintro item ⟨b, hb⟩
        exact ⟨b, by simpa [Fields.field, OrderedMap.get?_set] using hb⟩
    | addItem key item => exact hadded key item he
    | deliver | tap | land => trivial

/-- An item is added that the admin who hides another one has not been shown. -/
def hiddenUnseen : List Event :=
  [.deliver (0, 0) 0, .addItem "milk" (∅ : Fields), .tap (0, 0) .visibility "tea", .land 0]

theorem renders_run_iff_hiddenUnseen :
    (∀ menu' ∈ ((exec step (initial teaAndCoffee) hiddenUnseen).get (by decide)).history,
      Renders menu') ↔ Renders teaAndCoffee ∧
        ∀ key item, .addItem key item ∈ hiddenUnseen → ∃ b, item.field "isAvailable" = .bool b :=
  renders_run_iff (run_exec_get (by decide))

end System

end CollegeCanteens.ChangeMenu
