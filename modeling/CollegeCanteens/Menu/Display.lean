import CollegeCanteens.Menu.Conservation
import CollegeCanteens.Menu.Failure

/-!
# What the Menu screen shows

The rows and the subtotal on the page are those of the last build, and a build
follows a snapshot, every `setState` that returns, and a tap on the bottom bar of the
UserHomePage around it.  Apart from that a row is built anew when it is scrolled into
view.  A handler that throws within `setState` is not followed by a build: what it has
assigned by then is in the cart, but not on the page.

That happens with one branch of the two buttons, the one that takes the last unit of
an item out and then casts the price.  `current_run_iff` says that it is the only
way for the page to differ from the fields.
-/

namespace CollegeCanteens.Menu

open Transition

/-- A row of the page: an item, its quantity in the cart and its price. -/
structure Display.Row where
  item : String
  quantity : Int
  price : Scalar
deriving DecidableEq

/-- What is on the page. -/
structure Display.Page where
  rows : List Display.Row
  subtotal : Int64
deriving DecidableEq

namespace Screen

/-- What `itemBuilder` makes of an item. -/
def itemBuilder (s : Screen) (item : String × Fields) : Display.Row :=
  { item := item.1, quantity := quantity s.cart item.1, price := item.2.field "Price" }

/-- `build` of `_MenuState`; `none` if it shows no rows. -/
def build (s : Screen) : Option Display.Page :=
  s.menu.map fun menu ↦ { rows := menu.entries.map s.itemBuilder, subtotal := s.subtotal }

/-- A build follows the event: it delivers a snapshot, or calls `setState`, which
returns. -/
def Rebuilds (s : Screen) : Event → Prop
  | .snapshot _ => True
  | .add key => ((addOnPressed s.rows key).exec s.toMenuState).1.isOk
  | .remove key => (∃ entry ∈ s.cart.get? key, entry.quantity ≠ 0) ∧
      ((removeOnPressed s.rows key).exec s.toMenuState).1.isOk
  | .dismiss => s.resets
  | .pay | .get _ _ _ _ => False

instance (s : Screen) : DecidablePred s.Rebuilds
  | .snapshot _ => .isTrue trivial
  | .add key => inferInstanceAs
      (Decidable (((addOnPressed s.rows key).exec s.toMenuState).1.isOk = true))
  | .remove key => inferInstanceAs (Decidable ((∃ entry ∈ s.cart.get? key, entry.quantity ≠ 0) ∧
      ((removeOnPressed s.rows key).exec s.toMenuState).1.isOk = true))
  | .dismiss => inferInstanceAs (Decidable (s.resets = true))
  | .pay | .get _ _ _ _ => .isFalse not_false

end Screen

/-- A Menu screen and what is on its page. -/
structure Display where
  screen : Screen
  page : Option Display.Page

namespace Display

/-- What can happen on a page. -/
inductive Action where
  | event (e : Event)
  /-- The row of an item comes into view. -/
  | scroll (key : String)
  /-- The bottom bar is tapped: `setState` of `_UserHomePageState`. -/
  | tab

/-- A screen just opened. -/
def initial (username : String) : Display := { screen := .initial username, page := none }

/-- The row of `key` is built anew, with the menu of the last build and the cart. -/
def Page.scroll (s : Screen) (key : String) (page : Page) : Page :=
  { page with rows := page.rows.map fun row ↦
      if row.item = key then { row with quantity := quantity s.cart key } else row }

/-- One action; `none` if it cannot happen. -/
def step (s : Display) : Action → Option Display
  | .event e => (s.screen.step e).map fun screen ↦
      { screen := screen, page := if s.screen.Rebuilds e then screen.build else s.page }
  | .scroll key => some { s with page := s.page.map (.scroll s.screen key) }
  | .tab => some { s with page := s.screen.build }

/-- The steps of the machine. -/
abbrev Step : Display → Action → Display → Prop := Fires step

/-- What is on the page is what the fields hold. -/
def Current (s : Display) : Prop := s.page = s.screen.build

/-- The action is not a remove tap that throws after it has changed the cart. -/
def Whole (s : Display) : Action → Prop
  | .event (.remove key) => ¬ UncastLast .remove s.screen.rows key s.screen.toMenuState
  | _ => True

variable {s t : Display} {e : Event} {es : List Action} {username key : String}

theorem step_event (h : Step s (.event e) t) : Screen.Step s.screen e t.screen ∧
    t.page = if s.screen.Rebuilds e then t.screen.build else s.page := by
  obtain ⟨screen, hscreen, rfl⟩ := Option.map_eq_some_iff.mp h
  exact ⟨hscreen, rfl⟩

theorem step_scroll (h : Step s (.scroll key) t) :
    t = { s with page := s.page.map (.scroll s.screen key) } :=
  (Option.some.inj h).symm

theorem step_tab (h : Step s .tab t) : t = { s with page := s.screen.build } :=
  (Option.some.inj h).symm

/-! ## The page and the fields -/

/-- The page depends on the menu, the cart and the subtotal only. -/
theorem build_congr {s t : Screen} (hmenu : t.menu = s.menu)
    (hstate : t.toMenuState = s.toMenuState) : t.build = s.build := by
  have hrow : t.itemBuilder = s.itemBuilder := by
    funext item
    rw [Screen.itemBuilder, Screen.itemBuilder, hstate]
  rw [Screen.build, Screen.build, hmenu, hrow, hstate]

/-- After a build the page is what the fields hold. -/
theorem current_of_rebuilds (h : Step s (.event e) t) (he : s.screen.Rebuilds e) : t.Current := by
  rw [Current, (step_event h).2, if_pos he]

/-- It stays so without a build, as long as the fields stay the same. -/
theorem current_of_same (hs : s.Current) (h : Step s (.event e) t)
    (hmenu : t.screen.menu = s.screen.menu) (hstate : t.screen.toMenuState = s.screen.toMenuState) :
    t.Current := by
  rw [Current, (step_event h).2, build_congr hmenu hstate]
  split
  · rfl
  · exact hs

/-- A row that is built anew is as it was. -/
theorem scroll_build {s : Screen} : s.build.map (.scroll s key) = s.build := by
  unfold Screen.build
  rw [Option.map_map]
  congr 1
  funext menu
  simp only [Function.comp_apply, Page.scroll, List.map_map]
  congr 1
  apply List.map_congr_left
  intro item _
  rw [Function.comp_apply]
  split
  · next h => rw [← h, Screen.itemBuilder]
  · rfl

/-- The row of an item that is taken out of the cart changes. -/
theorem build_ne_of_remove {s t : Screen} {entry : CartEntry} (hrow : key ∈ s.rows)
    (hk : s.cart.get? key = some entry) (h1 : entry.quantity = 1) (hmenu : t.menu = s.menu)
    (hcart : t.cart = s.cart.remove key) : t.build ≠ s.build := by
  intro h
  rw [Screen.build, Screen.build, hmenu] at h
  rw [Screen.rows] at hrow
  cases hs : s.menu with
  | none =>
      rw [hs] at hrow
      exact OrderedMap.notMem_empty hrow
  | some menu =>
      rw [hs] at h hrow
      obtain ⟨item, hitem⟩ := OrderedMap.mem_iff.mp hrow
      rw [OrderedMap.get?_eq_some_iff] at hitem
      have hrows := congrArg Page.rows (Option.some.inj h)
      have hquantity := congrArg Row.quantity (List.map_inj_left.mp hrows _ hitem)
      simp only [Screen.itemBuilder, hcart, quantity_remove, quantity_of_get? hk, h1] at hquantity
      cases hquantity

/-- An add tap assigns nothing unless a build follows it. -/
theorem current_of_add (hs : s.Current) (h : Step s (.event (.add key)) t) : t.Current := by
  obtain ⟨-, hscreen⟩ := Screen.step_add (step_event h).1
  obtain ⟨r, m, hexec, htap⟩ := addOnPressed_tap s.screen.rows key s.screen.toMenuState
  cases htap with
  | int hp =>
      apply current_of_rebuilds h
      rw [Screen.Rebuilds, hexec]
      rfl
  | uncast hp =>
      apply current_of_same hs h
      · rw [hscreen]
        rfl
      · rw [hscreen, Screen.tap, hexec]

/-- So does a remove tap, except for the one that throws halfway: it changes the row
of its item. -/
theorem remove_iff_current (hs : s.Current) (h : Step s (.event (.remove key)) t) :
    ¬ UncastLast .remove s.screen.rows key s.screen.toMenuState ↔ t.Current := by
  obtain ⟨hscreen, hpage⟩ := step_event h
  obtain ⟨hrow, hscreen⟩ := Screen.step_remove hscreen
  obtain ⟨r, m, hexec, htap⟩ := removeOnPressed_tap s.screen.rows key s.screen.toMenuState
  have hmenu : t.screen.menu = s.screen.menu := by
    rw [hscreen]
    rfl
  have hstate : t.screen.toMenuState = m := by rw [hscreen, Screen.tap, hexec]
  cases htap with
  | none hk =>
      refine iff_of_true ?_ (current_of_same hs h hmenu hstate)
      rintro ⟨-, ⟨entry, he, -⟩, -⟩
      cases hk.symm.trans he
  | zero hk h0 =>
      refine iff_of_true ?_ (current_of_same hs h hmenu hstate)
      exact not_uncastLast_of_ne_one hk (by omega)
  | last hk h1 hp =>
      refine iff_of_true (not_uncastLast_of_int hp) (current_of_rebuilds h ⟨?_, ?_⟩)
      · exact ⟨_, hk, by omega⟩
      · rw [hexec]
        rfl
  | lastUncast hk h1 hp =>
      refine iff_of_false (not_not_intro ⟨rfl, ⟨_, hk, h1⟩, hp⟩) ?_
      have hnot : ¬ s.screen.Rebuilds (.remove key) := by
        rintro ⟨-, hok⟩
        rw [hexec] at hok
        cases hok
      rw [Current, hpage, if_neg hnot, hs]
      exact (build_ne_of_remove hrow hk h1 hmenu (congrArg MenuState.cart hstate)).symm
  | many hk h0 h1 hp =>
      refine iff_of_true (not_uncastLast_of_int hp) (current_of_rebuilds h ⟨⟨_, hk, h0⟩, ?_⟩)
      rw [hexec]
      rfl
  | manyUncast hk h0 h1 hp =>
      refine iff_of_true ?_ (current_of_same hs h hmenu hstate)
      exact not_uncastLast_of_ne_one hk h1

/-- A dismissal resets the fields only by a `setState`. -/
theorem current_of_dismiss (hs : s.Current) (h : Step s (.event .dismiss) t) : t.Current := by
  rcases Screen.step_dismiss (step_event h).1 with
    ⟨call, dialogs, hd, -⟩ | ⟨dialog, dialogs, -, -, heq⟩
  · apply current_of_rebuilds h
    simp [Screen.Rebuilds, Screen.resets, hd, Dialog.IsConfirmed]
  · apply current_of_same hs h
    · rw [heq]
    · rw [heq]

/-- A step from a page that shows the fields leads to one that does, unless it is the
remove tap that throws halfway. -/
theorem whole_iff_current {a : Action} (hs : s.Current) (h : Step s a t) :
    s.Whole a ↔ t.Current := by
  cases a with
  | scroll key =>
      refine iff_of_true trivial ?_
      rw [Current, step_scroll h, hs]
      exact scroll_build
  | tab =>
      refine iff_of_true trivial ?_
      obtain rfl := step_tab h
      rfl
  | event e =>
      cases e with
      | snapshot data => exact iff_of_true trivial (current_of_rebuilds h trivial)
      | add key => exact iff_of_true trivial (current_of_add hs h)
      | remove key => exact remove_iff_current hs h
      | pay =>
          refine iff_of_true trivial (current_of_same hs h ?_ ?_)
          · rw [Screen.step_pay (step_event h).1]
          · rw [Screen.step_pay (step_event h).1]
      | get call r ordId now =>
          refine iff_of_true trivial (current_of_same hs h ?_ ?_)
          · rw [(Screen.step_get (step_event h).1).2, Screen.resumePay_menu]
          · rw [(Screen.step_get (step_event h).1).2, Screen.resumePay_toMenuState]
      | dismiss => exact iff_of_true trivial (current_of_dismiss hs h)

/-- The page shows the fields in every state of a run if and only if no remove tap of
the run takes out the last unit of an item whose price is not an int. -/
theorem current_run_iff : Run (Guarded Whole Step) (initial username) es t ↔
    Run Step (initial username) es t ∧
      ∀ pre a, pre <+: es → Run Step (initial username) pre a → a.Current :=
  Run.guarded_iff (I := fun _ ↦ True) id trivial rfl (fun _ _ ↦ trivial)
    fun _ ha hR ↦ whole_iff_current ha hR

end Display

end CollegeCanteens.Menu
