import CollegeCanteens.Library.Run
import CollegeCanteens.Menu.Screen

/-!
# The ChangeMenu screens and the Menu they write

`lib/screens/AdminHomePage/change_menu.dart`: a screen renders the Menu of the
last snapshot delivered to it with the available items first, and each of the
two buttons of a row flips `isAvailable` in the rendered map and sends the whole
map.

The machine has any number of screens on any number of devices.  A screen is
shown some Menu the server has had, none older than the one it was shown before;
the writes of a device land in the order in which they were sent.  Others change
prices and add items at the server.

A write that lands puts back everything its sender did not know of.  If each
write lands while the server has the Menu that its sender saw when the button
was tapped (`Fresh`), none is lost: the server has the Menu on which every tap
and every edit has been carried out (`intended`) as soon as all writes have
landed (`no_update_lost`).
-/

namespace CollegeCanteens.ChangeMenu

open Transition Menu

/-! ## The rendered menu and its buttons -/

/-- One round of the loop of `_ChangeMenuState.build`. -/
def partition (menus : MenuMap × MenuMap) (item : String × Fields) :
    Except DartError (MenuMap × MenuMap) := do
  if ← (item.2.field "isAvailable").asBool then
    return (menus.1.set item.1 item.2, menus.2)
  else
    return (menus.1, menus.2.set item.1 item.2)

/-- The map `_ChangeMenuState.build` renders: the available items and then the
unavailable ones.  It throws if an item's `isAvailable` is not a bool. -/
def build (menu : MenuMap) : Except DartError MenuMap := do
  let (availableMenu, unavailableMenu) ← menu.entries.foldlM partition (∅, ∅)
  return ((∅ : MenuMap).addAll availableMenu).addAll unavailableMenu

theorem partition_eq {menus menus' : MenuMap × MenuMap} {item : String × Fields}
    (h : partition menus item = .ok menus') :
    menus' = if isAvailable item.2 then (menus.1.set item.1 item.2, menus.2)
      else (menus.1, menus.2.set item.1 item.2) := by
  obtain ⟨b, hb, h⟩ := bind_eq_ok.mp h
  rw [Scalar.asBool_eq_ok_iff] at hb
  cases b with
  | true => exact (Except.ok.inj h).symm.trans (if_pos (by simp [isAvailable, hb])).symm
  | false => exact (Except.ok.inj h).symm.trans (if_neg (by simp [isAvailable, hb])).symm

theorem foldlM_partition {items : List (String × Fields)} {menus menus' : MenuMap × MenuMap}
    (h : items.foldlM partition menus = .ok menus') :
    menus' = ((items.filter fun item ↦ isAvailable item.2).foldl (fun m e ↦ m.set e.1 e.2) menus.1,
      (items.filter fun item ↦ !isAvailable item.2).foldl (fun m e ↦ m.set e.1 e.2) menus.2) := by
  induction items generalizing menus with
  | nil => exact (Except.ok.inj h).symm
  | cons item items ih =>
      rw [List.foldlM_cons] at h
      obtain ⟨menus₁, hround, hrest⟩ := bind_eq_ok.mp h
      obtain rfl := partition_eq hround
      rw [ih hrest, List.filter_cons, List.filter_cons]
      by_cases hav : isAvailable item.2 <;> simp [hav]

/-- Every item of the map has a bool `isAvailable`. -/
def AllBool (menu : MenuMap) : Prop :=
  ∀ k item, menu.get? k = some item → ∃ b, item.field "isAvailable" = .bool b

theorem bool_of_foldlM_partition {items : List (String × Fields)} {menus menus' : MenuMap × MenuMap}
    (h : items.foldlM partition menus = .ok menus') {item : String × Fields} (hi : item ∈ items) :
    ∃ b, item.2.field "isAvailable" = .bool b := by
  induction items generalizing menus with
  | nil => exact absurd hi List.not_mem_nil
  | cons item' items ih =>
      rw [List.foldlM_cons] at h
      obtain ⟨menus₁, hround, hrest⟩ := bind_eq_ok.mp h
      rcases List.mem_cons.mp hi with rfl | hi
      · obtain ⟨b, hb, -⟩ := bind_eq_ok.mp hround
        exact ⟨b, Scalar.asBool_eq_ok_iff.mp hb⟩
      · exact ih hrest hi

/-- The available items come first, and both parts keep the order of the
snapshot. -/
theorem entries_build {menu menu' : MenuMap} (h : build menu = .ok menu') :
    menu'.entries = (menu.entries.filter fun item ↦ isAvailable item.2) ++
      menu.entries.filter fun item ↦ !isAvailable item.2 := by
  obtain ⟨⟨available, unavailable⟩, hmenus, h⟩ := bind_eq_ok.mp h
  obtain ⟨ha, hu⟩ := Prod.mk.inj (foldlM_partition hmenus)
  obtain rfl : (available.addAll unavailable) = menu' := by
    rw [← Except.ok.inj h, OrderedMap.addAll_empty]
  have hnd : (((menu.entries.filter fun item ↦ isAvailable item.2) ++
      menu.entries.filter fun item ↦ !isAvailable item.2).map Prod.fst).Nodup :=
    ((List.filter_append_perm (fun item ↦ isAvailable item.2) menu.entries).map _).nodup_iff.mpr
      menu.nodup
  have hae : available.entries = menu.entries.filter fun item ↦ isAvailable item.2 := by
    rw [ha]
    exact OrderedMap.entries_foldl_set (menu.filter _).nodup
  have hue : unavailable.entries = menu.entries.filter fun item ↦ !isAvailable item.2 := by
    rw [hu]
    exact OrderedMap.entries_foldl_set (menu.filter _).nodup
  rw [OrderedMap.entries_addAll (by rwa [hae, hue]), hae, hue]

/-- The rendered map is the snapshot's, in another order. -/
theorem same_of_build {menu menu' : MenuMap} (h : build menu = .ok menu') : menu'.Same menu := by
  intro k
  apply Option.ext
  intro item
  have hperm := List.filter_append_perm (fun item : String × Fields ↦ isAvailable item.2) menu.entries
  rw [OrderedMap.get?_eq_some_iff, OrderedMap.get?_eq_some_iff, entries_build h]
  exact hperm.mem_iff

theorem allBool_of_build {menu menu' : MenuMap} (h : build menu = .ok menu') : AllBool menu' := by
  intro k item hitem
  rw [same_of_build h k, OrderedMap.get?_eq_some_iff] at hitem
  obtain ⟨menus, hmenus, -⟩ := bind_eq_ok.mp h
  exact bool_of_foldlM_partition hmenus hitem

/-- The buttons of a row. -/
inductive Button where
  | edit
  | visibility
deriving DecidableEq

/-- The assignment to `menu[key]['isAvailable']`, and the map that is sent. -/
def toggleOnPressed (menu : MenuMap) (key : String) : Except DartError MenuMap := do
  let value ← (((menu.get? key).getD ∅).field "isAvailable").asBool
  return menu.modify key fun item ↦ item.set "isAvailable" (.bool !value)

/-- The edit button. -/
def editOnPressed : MenuMap → String → Except DartError MenuMap := toggleOnPressed

/-- The visibility button. -/
def visibilityOnPressed : MenuMap → String → Except DartError MenuMap := toggleOnPressed

/-- The code of a button. -/
def Button.onPressed : Button → MenuMap → String → Except DartError MenuMap
  | edit => editOnPressed
  | visibility => visibilityOnPressed

/-! ## Screens, devices and the server -/

/-- A write on its way: the map sent, with the screen it was sent from, the item
tapped and the map as it was before that. -/
structure Write where
  device : Nat
  menu : MenuMap
  key : String
  base : MenuMap
deriving DecidableEq

/-- A screen: which of the Menus of the server it was shown last, and the map it
has rendered. -/
structure Shown where
  position : Nat
  menu : Option MenuMap

/-- The server, the screens and the writes on their way. -/
structure System where
  server : MenuMap
  /-- The Menus the server has had, oldest first. -/
  history : List MenuMap
  /-- The screens, by device and number. -/
  screens : Nat × Nat → Shown
  /-- The writes sent and not landed, in the order in which they were sent. -/
  pending : List Write

/-- What can happen. -/
inductive Event where
  /-- A snapshot is delivered to a screen, which is built anew. -/
  | deliver (screen : Nat × Nat) (position : Nat)
  | tap (screen : Nat × Nat) (button : Button) (key : String)
  /-- The first write of a device lands. -/
  | land (device : Nat)
  /-- Another writer changes the price of an item. -/
  | setPrice (key : String) (price : Scalar)
  /-- Another writer adds an item. -/
  | addItem (key : String) (item : Fields)

namespace System

/-- The canteen's document has `menu` as its Menu, and no screen is open yet. -/
def initial (menu : MenuMap) : System :=
  { server := menu, history := [menu], screens := fun _ ↦ ⟨0, none⟩, pending := [] }

/-- The server has a new Menu. -/
def commit (s : System) (menu : MenuMap) : System :=
  { s with server := menu, history := s.history ++ [menu] }

/-- The write of a device that lands next. -/
def next (s : System) (device : Nat) : Option Write := s.pending.find? (·.device = device)

/-- One event; `none` if it cannot happen. -/
def step (s : System) : Event → Option System
  | .deliver screen position =>
    if (s.screens screen).position ≤ position then
      s.history[position]?.map fun menu ↦
        { s with screens := Function.update s.screens screen ⟨position, (build menu).toOption⟩ }
    else
      none
  | .tap screen button key =>
    match (s.screens screen).menu with
    | none => none
    | some menu =>
      if key ∈ menu then
        match button.onPressed menu key with
        | .error _ => some s
        | .ok menu' =>
          some { s with
            screens := Function.update s.screens screen
              { s.screens screen with menu := some menu' }
            pending := s.pending ++ [⟨screen.1, menu', key, menu⟩] }
      else
        none
  | .land device =>
    (s.next device).map fun write ↦
      { s with pending := s.pending.erase write }.commit write.menu
  | .setPrice key price =>
    some (s.commit (s.server.modify key fun item ↦ item.set "Price" price))
  | .addItem key item => if key ∈ s.server then none else some (s.commit (s.server.set key item))

/-- The steps of the machine. -/
abbrev Step : System → Event → System → Prop := Fires step

/-- A write lands while the server has the Menu its sender saw. -/
def Fresh (s : System) : Event → Prop
  | .land device => ∀ write ∈ s.next device, write.base.Same s.server
  | _ => True

instance (s : System) (e : Event) : Decidable (Fresh s e) :=
  match e with
  | .land device => inferInstanceAs (Decidable (∀ write ∈ s.next device, write.base.Same s.server))
  | .deliver _ _ | .tap _ _ _ | .setPrice _ _ | .addItem _ _ => .isTrue trivial

end System

/-! ## The menu that should be there -/

/-- Flip the availability of an item, if it is a bool. -/
def flipAvailable (item : Fields) : Fields :=
  match item.field "isAvailable" with
  | .bool b => item.set "isAvailable" (.bool !b)
  | _ => item

/-- Flip the availability of the item of one key. -/
def flip (menu : MenuMap) (key : String) : MenuMap := menu.modify key flipAvailable

/-- What an event should do to the Menu. -/
def carryOut (menu : MenuMap) : Event → MenuMap
  | .tap _ _ key => flip menu key
  | .setPrice key price => menu.modify key fun item ↦ item.set "Price" price
  | .addItem key item => menu.set key item
  | .deliver _ _ | .land _ => menu

theorem carryOut_same {menu menu' : MenuMap} {e : Event} (h : menu.Same menu') :
    (carryOut menu e).Same (carryOut menu' e) := by
  cases e with
  | tap | setPrice => exact h.modify
  | addItem => exact h.set
  | deliver | land => exact h

/-- The Menu on which every tap and every edit has been carried out once, in the
order in which they were made. -/
def intended (menu : MenuMap) (es : List Event) : MenuMap := es.foldl carryOut menu

theorem flipAvailable_set_price {item : Fields} {price : Scalar} :
    flipAvailable (item.set "Price" price) = (flipAvailable item).set "Price" price := by
  have hfield : Fields.field (item.set "Price" price) "isAvailable" = item.field "isAvailable" := by
    simp [Fields.field, OrderedMap.get?_set]
  unfold flipAvailable
  rw [hfield]
  cases hv : item.field "isAvailable" with
  | bool b =>
      have hmem : "isAvailable" ∈ item := by
        by_contra hnot
        rw [Fields.field, OrderedMap.notMem_iff.mp hnot] at hv
        cases hv
      exact (OrderedMap.set_comm_of_mem hmem (by decide)).symm
  | null | int _ | double _ | string _ | timestamp _ => rfl

theorem flipAvailable_of_bool {item : Fields} {b : Bool} (h : item.field "isAvailable" = .bool b) :
    flipAvailable item = item.set "isAvailable" (.bool !b) := by
  unfold flipAvailable
  rw [h]

theorem field_flipAvailable {item : Fields} {b : Bool} (h : item.field "isAvailable" = .bool b) :
    (flipAvailable item).field "isAvailable" = .bool !b := by
  rw [flipAvailable_of_bool h, Fields.field, OrderedMap.get?_set_self, Option.getD_some]

theorem AllBool.flip {menu : MenuMap} {key : String} (h : AllBool menu) :
    AllBool (flip menu key) := by
  intro k item hitem
  rw [ChangeMenu.flip, OrderedMap.get?_modify] at hitem
  rcases eq_or_ne k key with rfl | hk
  · rw [if_pos rfl, Option.map_eq_some_iff] at hitem
    obtain ⟨item', hitem', rfl⟩ := hitem
    obtain ⟨b, hb⟩ := h k item' hitem'
    exact ⟨!b, field_flipAvailable hb⟩
  · exact h k item (by rwa [if_neg hk] at hitem)

theorem AllBool.same {menu menu' : MenuMap} (h : AllBool menu) (hs : menu'.Same menu) :
    AllBool menu' := fun k item hitem ↦ h k item (hs k ▸ hitem)

/-- On a rendered map the buttons do not throw. -/
theorem onPressed_ok {button : Button} {menu : MenuMap} {key : String} (h : AllBool menu)
    (hkey : key ∈ menu) : ∃ menu', button.onPressed menu key = .ok menu' := by
  obtain ⟨item, hitem⟩ := OrderedMap.mem_iff.mp hkey
  obtain ⟨b, hb⟩ := h key item hitem
  refine ⟨menu.modify key fun item ↦ item.set "isAvailable" (.bool !b), ?_⟩
  have htoggle : toggleOnPressed menu key =
      .ok (menu.modify key fun item ↦ item.set "isAvailable" (.bool !b)) :=
    bind_eq_ok.mpr ⟨b, by rw [hitem, Option.getD_some, hb]; rfl, rfl⟩
  cases button <;> exact htoggle

/-- Both buttons flip the item they stand beside. -/
theorem same_flip_of_onPressed {button : Button} {menu menu' : MenuMap} {key : String}
    (hkey : key ∈ menu) (h : button.onPressed menu key = .ok menu') : menu'.Same (flip menu key) := by
  have htoggle : toggleOnPressed menu key = .ok menu' := by cases button <;> exact h
  obtain ⟨item, hitem⟩ := OrderedMap.mem_iff.mp hkey
  obtain ⟨value, hvalue, hmenu⟩ := bind_eq_ok.mp htoggle
  rw [hitem, Option.getD_some, Scalar.asBool_eq_ok_iff] at hvalue
  obtain rfl := Except.ok.inj hmenu
  intro k
  rw [flip, OrderedMap.get?_modify, OrderedMap.get?_modify]
  rcases eq_or_ne k key with rfl | hk
  · simp [hitem, flipAvailable_of_bool hvalue]
  · simp [hk]

/-! ## Flips under way

Flips commute with each other and with the edits of others. -/

/-- Carry out the flips of the writes that have not landed. -/
def flipAll (menu : MenuMap) (pending : List Write) : MenuMap :=
  pending.foldl (fun menu write ↦ flip menu write.key) menu

theorem flip_comm {menu : MenuMap} {key key' : String} :
    flip (flip menu key) key' = flip (flip menu key') key :=
  OrderedMap.modify_comm fun _ _ ↦ rfl

theorem flipAll_perm {menu : MenuMap} {pending pending' : List Write} (h : pending.Perm pending') :
    flipAll menu pending = flipAll menu pending' :=
  h.foldl_eq' (fun _ _ _ _ _ ↦ flip_comm) menu

theorem flipAll_same {menu menu' : MenuMap} {pending : List Write} (h : menu.Same menu') :
    (flipAll menu pending).Same (flipAll menu' pending) := by
  induction pending generalizing menu menu' with
  | nil => exact h
  | cons write pending ih => exact ih h.modify

theorem flipAll_append {menu : MenuMap} {pending : List Write} {write : Write} :
    flipAll menu (pending ++ [write]) = flip (flipAll menu pending) write.key := by
  simp [flipAll]

theorem flipAll_setPrice {menu : MenuMap} {pending : List Write} {key : String} {price : Scalar} :
    flipAll (menu.modify key fun item ↦ item.set "Price" price) pending =
      (flipAll menu pending).modify key fun item ↦ item.set "Price" price := by
  induction pending generalizing menu with
  | nil => rfl
  | cons write pending ih =>
      have hcomm : flip (menu.modify key fun item ↦ item.set "Price" price) write.key =
          (flip menu write.key).modify key fun item ↦ item.set "Price" price :=
        OrderedMap.modify_comm fun _ _ ↦ flipAvailable_set_price
      simp only [flipAll, List.foldl_cons, hcomm] at ih ⊢
      exact ih

theorem flipAll_addItem {menu : MenuMap} {pending : List Write} {key : String} {item : Fields}
    (h : ∀ write ∈ pending, write.key ≠ key) :
    (flipAll (menu.set key item) pending).Same ((flipAll menu pending).set key item) := by
  induction pending generalizing menu with
  | nil => exact .refl _
  | cons write pending ih =>
      have hcomm : (flip (menu.set key item) write.key).Same ((flip menu write.key).set key item) :=
        OrderedMap.modify_set_of_ne (h write List.mem_cons_self)
      exact (flipAll_same hcomm).trans (ih fun w hw ↦ h w (List.mem_cons_of_mem _ hw))

/-! ## Runs in which every write is fresh -/

namespace System

variable {s t : System} {e : Event} {screen : Nat × Nat} {position device : Nat} {button : Button}
  {key : String} {price : Scalar} {item : Fields}

/-! ### What each event does -/

theorem step_deliver (h : s.step (.deliver screen position) = some t) :
    ∃ menu ∈ s.history, t = { s with
      screens := Function.update s.screens screen ⟨position, (build menu).toOption⟩ } := by
  simp only [step] at h
  split at h
  · obtain ⟨menu, hmenu, rfl⟩ := Option.map_eq_some_iff.mp h
    exact ⟨menu, List.mem_of_getElem? hmenu, rfl⟩
  · cases h

theorem step_tap (h : s.step (.tap screen button key) = some t) :
    ∃ menu, (s.screens screen).menu = some menu ∧ key ∈ menu ∧
      ((∃ err, button.onPressed menu key = .error err) ∨
        ∃ menu', button.onPressed menu key = .ok menu' ∧ t = { s with
          screens := Function.update s.screens screen { s.screens screen with menu := some menu' }
          pending := s.pending ++ [⟨screen.1, menu', key, menu⟩] }) := by
  simp only [step] at h
  split at h
  · cases h
  · split at h
    · refine ⟨_, ‹_›, ‹_›, ?_⟩
      split at h
      · exact .inl ⟨_, ‹_›⟩
      · exact .inr ⟨_, ‹_›, (Option.some.inj h).symm⟩
    · cases h

theorem step_land (h : s.step (.land device) = some t) : ∃ write, s.next device = some write ∧
    t = { s with pending := s.pending.erase write }.commit write.menu := by
  obtain ⟨write, hwrite, rfl⟩ := Option.map_eq_some_iff.mp h
  exact ⟨write, hwrite, rfl⟩

theorem step_addItem (h : s.step (.addItem key item) = some t) :
    key ∉ s.server ∧ t = s.commit (s.server.set key item) := by
  simp only [step] at h
  split at h
  · cases h
  · exact ⟨‹_›, (Option.some.inj h).symm⟩

/-! ### The invariant -/

/-- Every item that a screen shows or a write flips is at the server, and a write
sends what its screen showed with one item flipped. -/
structure Known (s : System) : Prop where
  history : ∀ menu ∈ s.history, ∀ k ∈ menu, k ∈ s.server
  shown : ∀ screen menu, (s.screens screen).menu = some menu →
    AllBool menu ∧ ∀ k ∈ menu, k ∈ s.server
  pending : ∀ write ∈ s.pending,
    write.key ∈ s.server ∧ write.menu.Same (flip write.base write.key)

theorem known_initial (menu : MenuMap) : (initial menu).Known :=
  ⟨by simp [initial], by simp [initial], by simp [initial]⟩

/-- A new Menu with all the items of the old one keeps every item known. -/
theorem Known.commit {menu : MenuMap} (h : s.Known) (hmenu : ∀ k ∈ s.server, k ∈ menu) :
    (s.commit menu).Known where
  history menu' hm k hk := by
    rcases List.mem_append.mp hm with hm | hm
    · exact hmenu k (h.history menu' hm k hk)
    · exact List.mem_singleton.mp hm ▸ hk
  shown screen menu' hm := (h.shown screen menu' hm).imp_right fun hk k hkm ↦ hmenu k (hk k hkm)
  pending write hw := (h.pending write hw).imp_left (hmenu _)

/-- A screen may be built anew from what it has been shown or from any Menu of
the server. -/
theorem Known.show (h : s.Known) (screen : Nat × Nat) (shown : Shown)
    (hshown : ∀ menu, shown.menu = some menu → AllBool menu ∧ ∀ k ∈ menu, k ∈ s.server) :
    { s with screens := Function.update s.screens screen shown }.Known where
  history := h.history
  shown screen' menu hm := by
    rcases eq_or_ne screen' screen with rfl | hne
    · exact hshown menu (by simpa using hm)
    · exact h.shown screen' menu (by simpa [Function.update_of_ne hne] using hm)
  pending := h.pending

/-- A fresh step keeps every item known, and changes as the event asks the Menu
that the server would have if the writes on their way had been carried out. -/
theorem known_step (hs : s.Known) (hfresh : Fresh s e) (h : Step s e t) :
    t.Known ∧ (flipAll t.server t.pending).Same (carryOut (flipAll s.server s.pending) e) := by
  cases e with
  | deliver screen position =>
      obtain ⟨menu, hmenu, rfl⟩ := step_deliver h
      refine ⟨hs.show screen _ fun menu' hm ↦ ?_, .refl _⟩
      have hb : build menu = .ok menu' := by
        cases hb : build menu with
        | error err => simp [hb, Except.toOption] at hm
        | ok menu₁ => simpa [hb, Except.toOption] using hm
      exact ⟨allBool_of_build hb,
        fun k hk ↦ hs.history menu hmenu k ((same_of_build hb).mem_iff.mp hk)⟩
  | tap screen button key =>
      obtain ⟨menu, hmenu, hkey, ht⟩ := step_tap h
      obtain ⟨hbool, hknown⟩ := hs.shown screen menu hmenu
      obtain ⟨menu', hok⟩ := onPressed_ok hbool hkey
      rcases ht with ⟨err, herr⟩ | ⟨menu₁, hok₁, rfl⟩
      · rw [hok] at herr
        cases herr
      · have hflip : menu₁.Same (flip menu key) := same_flip_of_onPressed hkey hok₁
        have hshow := hs.show screen { s.screens screen with menu := some menu₁ }
          fun menu₂ hm₂ ↦ by
            obtain rfl := Option.some.inj hm₂
            exact ⟨hbool.flip.same hflip,
              fun k hk ↦ hknown k (OrderedMap.mem_modify.mp (hflip.mem_iff.mp hk))⟩
        refine ⟨⟨hshow.history, hshow.shown, fun write hw ↦ ?_⟩, ?_⟩
        · rcases List.mem_append.mp hw with hw | hw
          · exact hs.pending write hw
          · obtain rfl := List.mem_singleton.mp hw
            exact ⟨hknown key hkey, hflip⟩
        · exact fun k ↦ by rw [flipAll_append]; rfl
  | land device =>
      obtain ⟨write, hnext, rfl⟩ := step_land h
      have hw : write ∈ s.pending := List.mem_of_find?_eq_some hnext
      have hland : write.menu.Same (flip s.server write.key) :=
        (hs.pending write hw).2.trans (hfresh write hnext).modify
      refine ⟨Known.commit ⟨hs.history, hs.shown, fun w hm ↦ hs.pending w (List.mem_of_mem_erase hm)⟩
        fun k hk ↦ hland.mem_iff.mpr (OrderedMap.mem_modify.mpr hk), ?_⟩
      have hperm : flipAll s.server s.pending =
          flipAll (flip s.server write.key) (s.pending.erase write) :=
        flipAll_perm (List.perm_cons_erase hw)
      rw [carryOut, hperm]
      exact flipAll_same hland
  | setPrice key price =>
      obtain rfl := Option.some.inj h
      refine ⟨hs.commit fun k hk ↦ OrderedMap.mem_modify.mpr hk, fun k ↦ ?_⟩
      exact congrArg (OrderedMap.get? · k) flipAll_setPrice
  | addItem key item =>
      obtain ⟨hnew, rfl⟩ := step_addItem h
      refine ⟨hs.commit fun k hk ↦ OrderedMap.mem_set.mpr (.inr hk), flipAll_addItem ?_⟩
      rintro write hw rfl
      exact hnew (hs.pending write hw).1

/-- No menu update is lost: in every run in which each write lands while the
server has the Menu its sender saw, the server has the Menu on which every tap
and every edit has been carried out once, whenever all writes have landed. -/
theorem no_update_lost {menu : MenuMap} {es : List Event}
    (h : Run (Guarded Fresh Step) (initial menu) es s) (hs : s.pending = []) :
    s.server.Same (intended menu es) := by
  suffices s.Known ∧ (flipAll s.server s.pending).Same (intended menu es) by
    simpa [hs, flipAll] using this.2
  refine h.invariantOn (P := fun es s ↦ s.Known ∧ (flipAll s.server s.pending).Same (intended menu es))
    ⟨known_initial menu, .refl _⟩ fun {es a e b} _ ha hR ↦ ?_
  obtain ⟨hknown, hsame⟩ := known_step ha.1 hR.1 hR.2
  refine ⟨hknown, hsame.trans ?_⟩
  rw [intended, List.foldl_append]
  exact carryOut_same ha.2

/-- A tea and a coffee, both available. -/
def teaAndCoffee : MenuMap := (singleMenu "tea" 10 true).addAll (singleMenu "coffee" 20 true)

/-- Two devices that hide an item each, the second one after it was shown what
the first one and the editor of a price have done. -/
def hiddenInTurn : List Event :=
  [.deliver (0, 0) 0, .tap (0, 0) .visibility "tea", .tap (0, 0) .edit "coffee", .land 0, .land 0,
    .setPrice "tea" (.int 15), .deliver (1, 0) 3, .tap (1, 0) .visibility "tea", .land 1]

theorem no_update_lost_hiddenInTurn :
    ((exec (restrict Fresh step) (initial teaAndCoffee) hiddenInTurn).get (by decide)).server.Same
      (intended teaAndCoffee hiddenInTurn) :=
  no_update_lost (run_guarded_exec_get (by decide)) (by decide)

/-- Two devices that were shown the same Menu and hide an item each. -/
def hiddenAtOnce : List Event :=
  [.deliver (0, 0) 0, .deliver (1, 0) 0, .tap (0, 0) .visibility "tea", .land 0,
    .tap (1, 0) .visibility "coffee", .land 1]

/-- The second write puts back the tea that the first one has hidden. -/
theorem not_no_update_lost : ¬ ∀ (menu : MenuMap) (es : List Event) (s : System),
    Run Step (initial menu) es s → s.pending = [] → s.server.Same (intended menu es) := by
  intro h
  have := h teaAndCoffee hiddenAtOnce _ (run_exec_get (by decide)) (by decide)
  exact absurd this (by decide)

end System

end CollegeCanteens.ChangeMenu
