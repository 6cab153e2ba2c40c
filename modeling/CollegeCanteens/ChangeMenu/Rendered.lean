import CollegeCanteens.ChangeMenu

/-!
# The rendered list and the writes sent from it

What an admin sees is the snapshot in another order, and its first part is what
a user sees of the same snapshot (`lists_of_build`): the two screens filter the map
independently of each other, by the same test.

The buttons change the rendered map in place, so that the writes sent from one
rendered list build on each other.  The `n`-th one has each item as it was in the
snapshot with its availability flipped once for each tap on it until then
(`writes_of_taps`).
-/

namespace CollegeCanteens.ChangeMenu

open Transition Menu

variable {menu menu' shown rendered : MenuMap} {key : String} {item : Fields}

/-! ## The rendered list -/

/-- The rounds of both loops end if the item has a bool `isAvailable`. -/
theorem round_ok {b : Bool} (h : item.field "isAvailable" = .bool b) :
    (∀ submenu, ∃ submenu', keepAvailable submenu (key, item) = .ok submenu') ∧
      ∀ menus, ∃ menus', partition menus (key, item) = .ok menus' := by
  cases b with
  | false =>
      exact ⟨fun submenu ↦ ⟨submenu, bind_eq_ok.mpr ⟨false, by rw [h]; rfl, rfl⟩⟩,
        fun menus ↦ ⟨_, bind_eq_ok.mpr ⟨false, by rw [h]; rfl, rfl⟩⟩⟩
  | true =>
      exact ⟨fun submenu ↦ ⟨_, bind_eq_ok.mpr ⟨true, by rw [h]; rfl, rfl⟩⟩,
        fun menus ↦ ⟨_, bind_eq_ok.mpr ⟨true, by rw [h]; rfl, rfl⟩⟩⟩

/-- If every item has a bool `isAvailable`, both screens build their lists. -/
theorem builds_ok (h : AllBool menu) :
    (∃ shown, availableItems menu = .ok shown) ∧ ∃ rendered, build menu = .ok rendered := by
  have hround : ∀ e ∈ menu.entries, ∃ b, e.2.field "isAvailable" = .bool b := fun e he ↦
    h e.1 e.2 (OrderedMap.get?_eq_some_iff.mpr he)
  constructor
  · refine foldlM_ok fun e he ↦ ?_
    obtain ⟨b, hb⟩ := hround e he
    exact (round_ok hb).1
  · have hfold : ∃ menus, menu.entries.foldlM partition (∅, ∅) = .ok menus := by
      refine foldlM_ok fun e he ↦ ?_
      obtain ⟨b, hb⟩ := hround e he
      exact (round_ok hb).2
    obtain ⟨menus, hmenus⟩ := hfold
    exact ⟨_, bind_eq_ok.mpr ⟨menus, hmenus, rfl⟩⟩

/-- The list has the items of the snapshot, each once; first the available ones,
which are what the Menu screen shows. -/
structure Lists (menu shown rendered : MenuMap) : Prop where
  perm : rendered.entries.Perm menu.entries
  shown_first : ∃ rest, rendered.entries = shown.entries ++ rest ∧
    ∀ e ∈ rest, ¬ isAvailable e.2
  available : ∀ e ∈ shown.entries, isAvailable e.2

theorem lists_of_build (hshown : availableItems menu = .ok shown)
    (hrendered : build menu = .ok rendered) : Lists menu shown rendered := by
  have hentries := entries_build hrendered
  obtain rfl := availableItems_eq hshown
  refine ⟨?_, ⟨_, hentries, fun e he ↦ ?_⟩, fun e he ↦ (List.mem_filter.mp he).2⟩
  · rw [hentries]
    exact List.filter_append_perm _ _
  · simpa using (List.mem_filter.mp he).2

/-! ## The items after a number of taps -/

/-- The number of taps on an item. -/
def tapsOn (key : String) (taps : List (Button × String)) : ℕ := (taps.map Prod.snd).count key

/-- The map has the items of the snapshot, with the availability of each flipped
once for each tap on it and every other field as it was. -/
structure Flipped (menu : MenuMap) (taps : List (Button × String)) (sent : MenuMap) : Prop where
  mem_iff : ∀ key, key ∈ sent ↔ key ∈ menu
  isAvailable : ∀ key item item', menu.get? key = some item → sent.get? key = some item' →
    ∀ b, item.field "isAvailable" = .bool b →
      item'.field "isAvailable" = .bool ((not^[tapsOn key taps]) b)
  others : ∀ key item item', menu.get? key = some item → sent.get? key = some item' →
    ∀ name, name ≠ "isAvailable" → item'.get? name = item.get? name

/-- Flip the availability of the item of each tap. -/
def flips (menu : MenuMap) (taps : List (Button × String)) : MenuMap :=
  taps.foldl (fun menu tap ↦ flip menu tap.2) menu

theorem flips_append {taps taps' : List (Button × String)} :
    flips menu (taps ++ taps') = flips (flips menu taps) taps' := List.foldl_append

theorem flips_same {taps : List (Button × String)} (h : menu.Same menu') :
    (flips menu taps).Same (flips menu' taps) := by
  induction taps generalizing menu menu' with
  | nil => exact h
  | cons tap taps ih => exact ih h.modify

theorem get?_flips {taps : List (Button × String)} :
    (flips menu taps).get? key = (menu.get? key).map (flipAvailable^[tapsOn key taps]) := by
  induction taps using List.reverseRecOn with
  | nil => simp [flips, tapsOn]
  | append_singleton taps tap ih =>
      rw [flips_append]
      simp only [flips, List.foldl_cons, List.foldl_nil, flip, OrderedMap.get?_modify] at ih ⊢
      rw [ih]
      rcases eq_or_ne key tap.2 with rfl | hne
      · have hcount : tapsOn tap.2 (taps ++ [tap]) = tapsOn tap.2 taps + 1 := by simp [tapsOn]
        rw [if_pos rfl, hcount, Function.iterate_succ', Option.map_map]
      · simp [tapsOn, hne, hne.symm]

theorem mem_flips {taps : List (Button × String)} : key ∈ flips menu taps ↔ key ∈ menu := by
  rw [OrderedMap.mem_iff, OrderedMap.mem_iff, get?_flips]
  cases menu.get? key <;> simp

theorem allBool_flips {taps : List (Button × String)} (h : AllBool menu) :
    AllBool (flips menu taps) := by
  induction taps generalizing menu with
  | nil => exact h
  | cons tap taps ih => exact ih h.flip

theorem field_iterate_flipAvailable {b : Bool} (h : item.field "isAvailable" = .bool b) (n : ℕ) :
    (flipAvailable^[n] item).field "isAvailable" = .bool ((not^[n]) b) := by
  induction n with
  | zero => exact h
  | succ n ih =>
      rw [Function.iterate_succ_apply', Function.iterate_succ_apply']
      exact field_flipAvailable ih

theorem get?_flipAvailable {name : String} (hname : name ≠ "isAvailable") :
    (flipAvailable item).get? name = item.get? name := by
  unfold flipAvailable
  split
  · exact OrderedMap.get?_set_of_ne hname
  · rfl

theorem get?_iterate_flipAvailable {name : String} (hname : name ≠ "isAvailable") (n : ℕ) :
    (flipAvailable^[n] item).get? name = item.get? name := by
  induction n with
  | zero => rfl
  | succ n ih => rw [Function.iterate_succ_apply', get?_flipAvailable hname, ih]

theorem flipped_of_same {taps : List (Button × String)} {sent : MenuMap}
    (h : sent.Same (flips menu taps)) : Flipped menu taps sent := by
  have hget : ∀ key, sent.get? key = (menu.get? key).map (flipAvailable^[tapsOn key taps]) :=
    fun key ↦ (h key).trans get?_flips
  refine ⟨fun key ↦ h.mem_iff.trans mem_flips, fun key item item' hitem hitem' b hb ↦ ?_,
    fun key item item' hitem hitem' name hname ↦ ?_⟩
  · rw [hget, hitem] at hitem'
    obtain rfl := Option.some.inj hitem'
    exact field_iterate_flipAvailable hb _
  · rw [hget, hitem] at hitem'
    obtain rfl := Option.some.inj hitem'
    exact get?_iterate_flipAvailable hname _

namespace System

/-! ## The writes -/

variable {s : System} {screen : Nat × Nat} {taps : List (Button × String)}

/-- Taps on one screen. -/
def tapEvents (screen : Nat × Nat) (taps : List (Button × String)) : List Event :=
  taps.map fun tap ↦ .tap screen tap.1 tap.2

/-- A tap on a row of a rendered list sends the list with one item flipped, and
leaves it so. -/
theorem tap_of_mem {button : Button} (hmenu : (s.screens screen).menu = some menu)
    (hbool : AllBool menu) (hkey : key ∈ menu) :
    ∃ menu' t, Step s (.tap screen button key) t ∧ menu'.Same (flip menu key) ∧
      (t.screens screen).menu = some menu' ∧
      t.pending = s.pending ++ [⟨screen.1, menu', key, menu⟩] := by
  have hpressed : ∃ menu', button.onPressed menu key = .ok menu' := onPressed_ok hbool hkey
  obtain ⟨menu', hok⟩ := hpressed
  refine ⟨menu', { s with
    screens := Function.update s.screens screen { s.screens screen with menu := some menu' }
    pending := s.pending ++ [⟨screen.1, menu', key, menu⟩] }, ?_, same_flip_of_onPressed hkey hok,
    by simp, rfl⟩
  simp only [Fires, step, hmenu, hkey, if_true, hok]

/-- Taps on rows of one rendered list, with no rebuild in between, all take
effect, and each sends the list with the taps so far carried out. -/
theorem writes_of_taps (hmenu : (s.screens screen).menu = some rendered) (hbool : AllBool rendered)
    (htaps : ∀ tap ∈ taps, tap.2 ∈ rendered) :
    ∃ (t : System) (writes : List Write) (current : MenuMap),
      Run Step s (tapEvents screen taps) t ∧ (t.screens screen).menu = some current ∧
      current.Same (flips rendered taps) ∧ t.pending = s.pending ++ writes ∧
      writes.length = taps.length ∧
      ∀ (n : ℕ) (write : Write), writes[n]? = some write →
        write.menu.Same (flips rendered (taps.take (n + 1))) := by
  induction taps using List.reverseRecOn with
  | nil => exact ⟨s, [], rendered, .refl, hmenu, .refl _, by simp, rfl, by simp⟩
  | append_singleton taps tap ih =>
      obtain ⟨t, writes, current, hrun, hcurrent, hsame, hpending, hlength, hwrites⟩ :=
        ih fun tap' htap' ↦ htaps tap' (List.mem_append_left _ htap')
      have hkey : tap.2 ∈ current :=
        hsame.mem_iff.mpr (mem_flips.mpr (htaps tap (by simp)))
      have htap : ∃ menu' u, Step t (.tap screen tap.1 tap.2) u ∧ menu'.Same (flip current tap.2) ∧
          (u.screens screen).menu = some menu' ∧
          u.pending = t.pending ++ [⟨screen.1, menu', tap.2, current⟩] :=
        tap_of_mem hcurrent ((allBool_flips hbool).same hsame) hkey
      obtain ⟨menu', u, hstep, hflip, hshown, hsent⟩ := htap
      have hsame' : menu'.Same (flips rendered (taps ++ [tap])) := by
        rw [flips_append]
        exact hflip.trans hsame.modify
      refine ⟨u, writes ++ [⟨screen.1, menu', tap.2, current⟩], menu', ?_, hshown, hsame',
        ?_, ?_, ?_⟩
      · rw [tapEvents, List.map_append]
        exact hrun.snoc hstep
      · rw [hsent, hpending, List.append_assoc]
      · simp [hlength]
      · intro n write hn
        rcases lt_or_ge n writes.length with hlt | hge
        · rw [List.getElem?_append_left hlt] at hn
          rw [List.take_append_of_le_length (by omega)]
          exact hwrites n write hn
        · -- the last write, after all the taps
          rw [List.getElem?_append_right hge] at hn
          obtain ⟨hzero, rfl⟩ : n - writes.length = 0 ∧ _ = write := by
            simpa [List.getElem?_singleton] using hn
          rw [List.take_of_length_le (by simp; omega)]
          exact hsame'

/-- The reordered menu is faithful: for every Menu whose items have a bool
`isAvailable`, the rendered list has its items, first those that the Menu screen
shows; and taps on rows of the list, with no rebuild in between, each send the
Menu with the availability of every item flipped once for each tap on it so
far. -/
theorem rendered_faithful (h : AllBool menu) :
    ∃ shown rendered, availableItems menu = .ok shown ∧ build menu = .ok rendered ∧
      Lists menu shown rendered ∧
      ∀ (s : System) (screen : Nat × Nat) (taps : List (Button × String)),
        (s.screens screen).menu = some rendered → (∀ tap ∈ taps, tap.2 ∈ rendered) →
        ∃ (t : System) (writes : List Write), Run Step s (tapEvents screen taps) t ∧
          t.pending = s.pending ++ writes ∧ writes.length = taps.length ∧
          ∀ (n : ℕ) (write : Write), writes[n]? = some write →
            Flipped menu (taps.take (n + 1)) write.menu := by
  obtain ⟨⟨shown, hshown⟩, rendered, hrendered⟩ := builds_ok h
  refine ⟨shown, rendered, hshown, hrendered, lists_of_build hshown hrendered, ?_⟩
  intro s screen taps hmenu htaps
  obtain ⟨t, writes, -, hrun, -, -, hpending, hlength, hwrites⟩ :=
    writes_of_taps hmenu (allBool_of_build hrendered) htaps
  refine ⟨t, writes, hrun, hpending, hlength, fun n write hn ↦ flipped_of_same ?_⟩
  exact (hwrites n write hn).trans (flips_same (same_of_build hrendered))

/-- A screen that shows a tea and a coffee. -/
def delivered : System :=
  (exec step (initial teaAndCoffee) [.deliver (0, 0) 0]).get (by decide)

/-- The tea is hidden and shown again, and the coffee hidden. -/
def threeTaps : List (Button × String) :=
  [(.visibility, "tea"), (.edit, "tea"), (.visibility, "coffee")]

theorem rendered_faithful_teaAndCoffee :
    ∃ (t : System) (writes : List Write), Run Step delivered (tapEvents (0, 0) threeTaps) t ∧
      t.pending = delivered.pending ++ writes ∧ writes.length = threeTaps.length ∧
      ∀ (n : ℕ) (write : Write), writes[n]? = some write →
        Flipped teaAndCoffee (threeTaps.take (n + 1)) write.menu := by
  have hbool : teaAndCoffee.All fun _ item ↦ ∃ b, item.field "isAvailable" = .bool b := by decide
  have hbuild : build teaAndCoffee = .ok teaAndCoffee := by rfl
  obtain ⟨shown, rendered, -, hrendered, -, hwrites⟩ := rendered_faithful hbool
  obtain rfl : teaAndCoffee = rendered := Except.ok.inj (hbuild.symm.trans hrendered)
  exact hwrites delivered (0, 0) threeTaps (by decide) (by decide)

end System

end CollegeCanteens.ChangeMenu
