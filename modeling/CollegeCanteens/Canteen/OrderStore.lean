import CollegeCanteens.Library.Run
import CollegeCanteens.Orders

/-!
# The order store

What is common to all who write `Orders`: the collection, the writes to it that
are on their way, the ids given out and the lists of pending orders that admins
may still be looking at.  Orders are set under new ids, and check taps update
orders that were pending once; the writes land one by one, in any order.

`Tracked` is what every step preserves.  From it follow the four laws of an
order's life: one query or the other selects it (`pending_iff`), it never leaves
the served ones and its other fields stay (`Follows`), and it is served in the
end if and only if it was checked (`served_iff_checked`).
-/

namespace CollegeCanteens.Canteen

open Transition Menu

/-- A write to `Orders` on its way: the `set` of Pay or the `update` of a check
tap. -/
inductive Write where
  | set (id : String) (order : OrderDoc)
  | update (id : String)

/-- The id that a write sets. -/
def Write.setId : Write → Option String
  | .set id _ => some id
  | .update _ => none

/-- The effect of a write; an update of a document that is not there fails. -/
def Write.land (orders : Orders) : Write → Orders
  | .set id order => orders.set id order
  | .update id => orders.modify id checkUpdate

/-- The collection `Orders` and the writes to it. -/
structure Store where
  orders : Orders
  /-- The writes that have not landed. -/
  writes : List Write
  /-- The ids that `uuid.v4()` has returned. -/
  issued : List String
  /-- The orders that a Pending list has shown. -/
  listed : List String

/-- What can happen to the store. -/
inductive StoreEvent where
  | issue (id : String)
  | land (n : Nat)
  | list
  | check (admin : Nat) (id : String)

namespace Store

/-- No order yet. -/
def initial : Store := { orders := ∅, writes := [], issued := [], listed := [] }

/-- An id is given out. -/
def issue (s : Store) (id : String) : Store := { s with issued := id :: s.issued }

/-- Orders are sent. -/
def send (s : Store) (orders : List (String × OrderDoc)) : Store :=
  { s with writes := s.writes ++ orders.map fun order ↦ .set order.1 order.2 }

/-- A write lands. -/
def land (s : Store) (n : Nat) : Option Store :=
  s.writes[n]?.map fun write ↦
    { s with orders := write.land s.orders, writes := s.writes.eraseIdx n }

/-- A Pending list shows what its query returns. -/
def list (s : Store) : Store := { s with listed := s.listed ++ ids (pendingQuery s.orders) }

/-- The check button of an order that a Pending list has shown. -/
def check (s : Store) (id : String) : Option Store :=
  if id ∈ s.listed then some { s with writes := s.writes ++ [.update id] } else none

/-- The steps of the store: an id is new, and an order is set under the id given
out for it. -/
inductive Step (s : Store) : StoreEvent → Store → Prop
  | /-- An id is given out and not used. -/
    issue {id : String} : id ∉ s.issued → Step s (.issue id) (s.issue id)
  | /-- An id is given out for an order. -/
    send {id username : String} {subtotal : Int64} {now : Int} {cart : Cart} : id ∉ s.issued →
      Step s (.issue id) ((s.issue id).send [(id, orderDoc username subtotal cart now)])
  | /-- A write lands. -/
    land {n : Nat} {t : Store} : s.land n = some t → Step s (.land n) t
  | /-- An admin's list is shown. -/
    list : Step s .list s.list
  | /-- A check tap. -/
    check {admin : Nat} {id : String} {t : Store} : s.check id = some t → Step s (.check admin id) t

variable {s t : Store} {e : StoreEvent} {es : List StoreEvent} {id : String} {n : Nat}
  {doc doc' doc'' : OrderDoc}

theorem land_eq (h : s.land n = some t) : ∃ write, s.writes[n]? = some write ∧
    t = { s with orders := write.land s.orders, writes := s.writes.eraseIdx n } := by
  obtain ⟨write, hwrite, rfl⟩ := Option.map_eq_some_iff.mp h
  exact ⟨write, hwrite, rfl⟩

theorem check_eq (h : s.check id = some t) :
    id ∈ s.listed ∧ t = { s with writes := s.writes ++ [.update id] } := by
  unfold check at h
  split at h
  · exact ⟨‹_›, (Option.some.inj h).symm⟩
  · cases h

/-! ## The ids -/

theorem issued_step (h : Step s e t) : id ∈ t.issued ↔ e = .issue id ∨ id ∈ s.issued := by
  cases h with
  | issue => simp [issue, eq_comm]
  | send => simp [issue, Store.send, eq_comm]
  | list => simp [Store.list]
  | land hland =>
      obtain ⟨write, -, rfl⟩ := land_eq hland
      simp
  | check hcheck =>
      obtain ⟨-, rfl⟩ := check_eq hcheck
      simp

/-- An id that has been given out is not given out again. -/
theorem issued_run (h : Run Step s es t) (he : .issue id ∈ es) : id ∈ t.issued := by
  induction h with
  | refl => cases he
  | @snoc es a e b ha hR ih =>
      rcases List.mem_append.mp he with hold | hnew
      · exact (issued_step hR).mpr (.inr (ih hold))
      · exact (issued_step hR).mpr (.inl (List.mem_singleton.mp hnew).symm)

/-! ## What every step preserves -/

/-- An order document: it has a timestamp, and `isServed` is a bool. -/
def Proper (doc : OrderDoc) : Prop :=
  "timestamp" ∈ doc ∧ ∃ b, doc.get? "isServed" = some (.scalar (.bool b))

/-- Orders are set once each and under ids that were given out, updates are of
orders that are there, and every order is proper. -/
structure Tracked (s : Store) : Prop where
  orders : ∀ id doc, s.orders.get? id = some doc → id ∈ s.issued ∧ Proper doc
  sets : (s.writes.filterMap Write.setId).Nodup
  set : ∀ id doc, .set id doc ∈ s.writes → id ∈ s.issued ∧ id ∉ s.orders ∧ Proper doc ∧
    doc.get? "isServed" = some (.scalar (.bool false))
  update : ∀ id, .update id ∈ s.writes → id ∈ s.orders
  listed : ∀ id ∈ s.listed, id ∈ s.orders

theorem proper_orderDoc {username : String} {subtotal : Int64} {now : Int} {cart : Cart} :
    Proper (orderDoc username subtotal cart now) :=
  ⟨by simp [orderDoc], false, by simp [orderDoc]⟩

theorem Proper.checkUpdate (h : Proper doc) : Proper (checkUpdate doc) :=
  ⟨OrderedMap.mem_set.mpr (.inr h.1), true, OrderedMap.get?_set_self⟩

theorem tracked_initial : initial.Tracked :=
  ⟨by simp [initial], by simp [initial], by simp [initial], by simp [initial], by simp [initial]⟩

/-- A write and the others. -/
theorem perm_eraseIdx {write : Write} (h : s.writes[n]? = some write) :
    (write :: s.writes.eraseIdx n).Perm s.writes := by
  obtain ⟨hn, rfl⟩ := List.getElem?_eq_some_iff.mp h
  exact List.getElem_cons_eraseIdx_perm hn

theorem tracked_step (hs : s.Tracked) (h : Step s e t) : t.Tracked := by
  cases h with
  | issue hnew =>
      refine ⟨fun id doc hd ↦ ?_, hs.sets, fun id doc hw ↦ ?_, hs.update, hs.listed⟩
      · exact (hs.orders id doc hd).imp_left (List.mem_cons_of_mem _)
      · exact (hs.set id doc hw).imp_left (List.mem_cons_of_mem _)
  | @send id username subtotal now cart hnew =>
      have hset : ∀ id' ∈ s.writes.filterMap Write.setId, id' ∈ s.issued := fun id' hm ↦ by
        obtain ⟨write, hw, hid⟩ := List.mem_filterMap.mp hm
        cases write with
        | set id'' doc =>
            obtain rfl := Option.some.inj hid
            exact (hs.set _ doc hw).1
        | update id'' => cases hid
      refine ⟨fun id' doc hd ↦ ?_, ?_, fun id' doc hw ↦ ?_, fun id' hw ↦ ?_, hs.listed⟩
      · exact (hs.orders id' doc hd).imp_left (List.mem_cons_of_mem _)
      · change ((s.writes ++ [_]).filterMap Write.setId).Nodup
        rw [List.filterMap_append, List.nodup_append]
        refine ⟨hs.sets, by simp [Write.setId], fun id' hm id'' hm' ↦ ?_⟩
        obtain rfl : id'' = id := by simpa [Write.setId] using hm'
        exact fun heq ↦ hnew (heq ▸ hset id' hm)
      · rcases List.mem_append.mp hw with hw | hw
        · exact (hs.set id' doc hw).imp_left (List.mem_cons_of_mem _)
        · cases List.mem_singleton.mp hw
          refine ⟨List.mem_cons_self, fun hm ↦ ?_, proper_orderDoc, by simp [orderDoc]⟩
          obtain ⟨doc, hd⟩ := OrderedMap.mem_iff.mp hm
          exact hnew (hs.orders id doc hd).1
      · rcases List.mem_append.mp hw with hw | hw
        · exact hs.update id' hw
        · cases List.mem_singleton.mp hw
  | @land n t hland =>
      obtain ⟨write, hwrite, rfl⟩ := land_eq hland
      have hperm := perm_eraseIdx hwrite
      have hmem : ∀ w ∈ s.writes.eraseIdx n, w ∈ s.writes :=
        fun w hw ↦ hperm.mem_iff.mp (List.mem_cons_of_mem _ hw)
      have hnd : ((write :: s.writes.eraseIdx n).filterMap Write.setId).Nodup :=
        (hperm.filterMap _).nodup_iff.mpr hs.sets
      cases write with
      | set id doc =>
          obtain ⟨hissued, -, hproper, -⟩ := hs.set id doc (hperm.mem_iff.mp List.mem_cons_self)
          change (id :: (s.writes.eraseIdx n).filterMap Write.setId).Nodup at hnd
          rw [List.nodup_cons] at hnd
          refine ⟨fun id' doc' hd ↦ ?_, hnd.2, fun id' doc' hw ↦ ?_, fun id' hw ↦ ?_, fun id' hl ↦ ?_⟩
          · change (s.orders.set id doc).get? id' = some doc' at hd
            rw [OrderedMap.get?_set] at hd
            split at hd
            · obtain rfl := Option.some.inj hd
              exact ⟨‹id' = id› ▸ hissued, hproper⟩
            · exact hs.orders id' doc' hd
          · obtain ⟨hissued', hnot, hrest⟩ := hs.set id' doc' (hmem _ hw)
            refine ⟨hissued', fun hm ↦ ?_, hrest⟩
            rcases OrderedMap.mem_set.mp hm with rfl | hm
            · exact hnd.1 (List.mem_filterMap.mpr ⟨_, hw, rfl⟩)
            · exact hnot hm
          · exact OrderedMap.mem_set.mpr (.inr (hs.update id' (hmem _ hw)))
          · exact OrderedMap.mem_set.mpr (.inr (hs.listed id' hl))
      | update id =>
          refine ⟨fun id' doc' hd ↦ ?_, hnd, fun id' doc' hw ↦ ?_, fun id' hw ↦ ?_, fun id' hl ↦ ?_⟩
          · change (s.orders.modify id checkUpdate).get? id' = some doc' at hd
            rw [OrderedMap.get?_modify] at hd
            split at hd
            · obtain ⟨doc, hdoc, rfl⟩ := Option.map_eq_some_iff.mp hd
              exact (hs.orders id' doc hdoc).imp_right Proper.checkUpdate
            · exact hs.orders id' doc' hd
          · obtain ⟨hissued', hnot, hrest⟩ := hs.set id' doc' (hmem _ hw)
            exact ⟨hissued', fun hm ↦ hnot (OrderedMap.mem_modify.mp hm), hrest⟩
          · exact OrderedMap.mem_modify.mpr (hs.update id' (hmem _ hw))
          · exact OrderedMap.mem_modify.mpr (hs.listed id' hl)
  | list =>
      refine ⟨hs.orders, hs.sets, hs.set, hs.update, fun id hl ↦ ?_⟩
      rcases List.mem_append.mp hl with hl | hl
      · exact hs.listed id hl
      · obtain ⟨doc, hd, -, -⟩ := mem_ids_query.mp hl
        exact OrderedMap.mem_of_get? hd
  | check hcheck =>
      obtain ⟨hl, rfl⟩ := check_eq hcheck
      refine ⟨hs.orders, ?_, fun id' doc' hw ↦ ?_, fun id' hw ↦ ?_, hs.listed⟩
      · change ((s.writes ++ [_]).filterMap Write.setId).Nodup
        rw [List.filterMap_append]
        simpa [List.filterMap_cons, Write.setId] using hs.sets
      · rcases List.mem_append.mp hw with hw | hw
        · exact hs.set id' doc' hw
        · cases List.mem_singleton.mp hw
      · rcases List.mem_append.mp hw with hw | hw
        · exact hs.update id' hw
        · cases List.mem_singleton.mp hw
          exact hs.listed _ hl

theorem tracked_run (h : Run Step initial es s) : s.Tracked :=
  h.invariant tracked_initial tracked_step

/-! ## The life of an order -/

/-- The order is in the Pending list. -/
def Pending (s : Store) (id : String) : Prop := id ∈ ids (pendingQuery s.orders)

/-- The order is in the Served list. -/
def Served (s : Store) (id : String) : Prop := id ∈ ids (servedQuery s.orders)

theorem served_iff : s.Served id ↔ ∃ doc, s.orders.get? id = some doc ∧
    doc.get? "isServed" = some (.scalar (.bool true)) ∧ "timestamp" ∈ doc :=
  mem_ids_query

/-- Of the orders that are there, each one is selected by exactly one query. -/
theorem pending_iff (hs : s.Tracked) : s.Pending id ↔ id ∈ s.orders ∧ ¬ s.Served id := by
  rw [served_iff, Pending, pendingQuery, mem_ids_query]
  constructor
  · rintro ⟨doc, hd, hfalse, -⟩
    refine ⟨OrderedMap.mem_of_get? hd, ?_⟩
    rintro ⟨doc', hd', htrue, -⟩
    obtain rfl := Option.some.inj (hd.symm.trans hd')
    rw [hfalse] at htrue
    cases htrue
  · rintro ⟨hmem, hnot⟩
    obtain ⟨doc, hd⟩ := OrderedMap.mem_iff.mp hmem
    obtain ⟨htime, b, hb⟩ := (hs.orders id doc hd).2
    cases b with
    | false => exact ⟨doc, hd, hb, htime⟩
    | true => exact absurd ⟨doc, hd, hb, htime⟩ hnot

/-- A later document of an order: only `isServed` may have changed, and only to
`true`. -/
def Follows (doc doc' : OrderDoc) : Prop :=
  (∀ name, name ≠ "isServed" → doc'.get? name = doc.get? name) ∧
    (doc'.get? "isServed" = doc.get? "isServed" ∨
      doc'.get? "isServed" = some (.scalar (.bool true)))

@[refl] theorem Follows.refl (doc : OrderDoc) : Follows doc doc := ⟨fun _ _ ↦ rfl, .inl rfl⟩

@[trans] theorem Follows.trans (h : Follows doc doc') (h' : Follows doc' doc'') :
    Follows doc doc'' :=
  ⟨fun name hn ↦ (h'.1 name hn).trans (h.1 name hn),
    h'.2.elim (fun heq ↦ h.2.imp heq.trans heq.trans) .inr⟩

theorem follows_checkUpdate : Follows doc (checkUpdate doc) :=
  ⟨fun _ hn ↦ OrderedMap.get?_set_of_ne hn, .inr OrderedMap.get?_set_self⟩

theorem Follows.user_eq (h : Follows doc doc') : doc'.user = doc.user := h.1 "user" (by decide)

theorem Follows.price_eq (h : Follows doc doc') : doc'.price = doc.price := by
  rw [OrderDoc.price, h.1 "price" (by decide), OrderDoc.price]

theorem Follows.items_eq (h : Follows doc doc') : doc'.items = doc.items := by
  rw [OrderDoc.items, h.1 "items" (by decide), OrderDoc.items]

/-- An order that is there stays, as it is but for `isServed`. -/
theorem follows_step (hs : s.Tracked) (h : Step s e t) (hd : s.orders.get? id = some doc) :
    ∃ doc', t.orders.get? id = some doc' ∧ Follows doc doc' := by
  cases h with
  | issue | send | list => exact ⟨doc, hd, .refl doc⟩
  | check hcheck =>
      obtain ⟨-, rfl⟩ := check_eq hcheck
      exact ⟨doc, hd, .refl doc⟩
  | @land n t hland =>
      obtain ⟨write, hwrite, rfl⟩ := land_eq hland
      cases write with
      | set id' doc' =>
          have hne : id ≠ id' := by
            rintro rfl
            exact (hs.set id doc' (List.mem_of_getElem? hwrite)).2.1 (OrderedMap.mem_of_get? hd)
          exact ⟨doc, (OrderedMap.get?_set_of_ne hne).trans hd, .refl doc⟩
      | update id' =>
          rcases eq_or_ne id id' with rfl | hne
          · exact ⟨checkUpdate doc, by simp [Write.land, OrderedMap.get?_modify, hd],
              follows_checkUpdate⟩
          · exact ⟨doc, by simp [Write.land, OrderedMap.get?_modify, hd, hne], .refl doc⟩

theorem follows_run (hs : s.Tracked) (h : Run Step s es t) (hd : s.orders.get? id = some doc) :
    ∃ doc', t.orders.get? id = some doc' ∧ Follows doc doc' := by
  refine (h.invariant (P := fun t ↦ t.Tracked ∧ ∃ doc', t.orders.get? id = some doc' ∧
    Follows doc doc') ⟨hs, doc, hd, .refl doc⟩ ?_).2
  rintro a e b ⟨ha, doc', hd', hf⟩ hR
  obtain ⟨doc'', hd'', hf'⟩ := follows_step ha hR hd'
  exact ⟨tracked_step ha hR, doc'', hd'', hf.trans hf'⟩

/-- The order is on its way to the collection or has arrived there. -/
def Has (s : Store) (id : String) (order : OrderDoc) : Prop :=
  .set id order ∈ s.writes ∨ ∃ doc, s.orders.get? id = some doc ∧ Follows order doc

/-- An order that was written is not lost. -/
theorem has_step (hs : s.Tracked) (h : Step s e t) (hd : s.Has id doc) : t.Has id doc := by
  rcases hd with hset | ⟨doc', hd', hf⟩
  · cases h with
    | issue | list => exact .inl hset
    | send => exact .inl (List.mem_append_left _ hset)
    | check hcheck =>
        obtain ⟨-, rfl⟩ := check_eq hcheck
        exact .inl (List.mem_append_left _ hset)
    | land hland =>
        obtain ⟨write, hwrite, rfl⟩ := land_eq hland
        rcases List.mem_cons.mp ((perm_eraseIdx hwrite).mem_iff.mpr hset) with rfl | hset
        · exact .inr ⟨doc, OrderedMap.get?_set_self, .refl doc⟩
        · exact .inl hset
  · obtain ⟨doc'', hd'', hf'⟩ := follows_step hs h hd'
    exact .inr ⟨doc'', hd'', hf.trans hf'⟩

/-- An order that is there was there before, or has been on its way. -/
theorem origin_step (h : Step s e t) (hd : t.orders.get? id = some doc) :
    (∃ doc', s.orders.get? id = some doc' ∧ Follows doc' doc) ∨ .set id doc ∈ s.writes := by
  cases h with
  | issue | send | list => exact .inl ⟨doc, hd, .refl doc⟩
  | check hcheck =>
      obtain ⟨-, rfl⟩ := check_eq hcheck
      exact .inl ⟨doc, hd, .refl doc⟩
  | land hland =>
      obtain ⟨write, hwrite, rfl⟩ := land_eq hland
      cases write with
      | set id' doc' =>
          change (s.orders.set id' doc').get? id = some doc at hd
          rw [OrderedMap.get?_set] at hd
          split at hd
          · obtain rfl := Option.some.inj hd
            exact .inr (‹id = id'› ▸ List.mem_of_getElem? hwrite)
          · exact .inl ⟨doc, hd, .refl doc⟩
      | update id' =>
          change (s.orders.modify id' checkUpdate).get? id = some doc at hd
          rw [OrderedMap.get?_modify] at hd
          split at hd
          · obtain ⟨doc', hd', rfl⟩ := Option.map_eq_some_iff.mp hd
            exact .inl ⟨doc', hd', follows_checkUpdate⟩
          · exact .inl ⟨doc, hd, .refl doc⟩

/-- A served order stays served. -/
theorem served_run (hs : s.Tracked) (h : Run Step s es t) (hserved : s.Served id) : t.Served id := by
  obtain ⟨doc, hd, htrue, htime⟩ := served_iff.mp hserved
  obtain ⟨doc', hd', hsame, hb⟩ := follows_run hs h hd
  refine served_iff.mpr ⟨doc', hd', hb.elim (fun heq ↦ heq.trans htrue) fun h ↦ h, ?_⟩
  obtain ⟨v, hv⟩ := OrderedMap.mem_iff.mp htime
  exact OrderedMap.mem_of_get? ((hsame "timestamp" (by decide)).trans hv)

/-- The order is served, or will be as soon as a write lands that is on its
way. -/
def Marked (s : Store) (id : String) : Prop := s.Served id ∨ .update id ∈ s.writes

/-- A landing keeps the marks: what it serves had an update on its way. -/
theorem marked_land (hs : s.Tracked) (h : s.land n = some t) : t.Marked id ↔ s.Marked id := by
  obtain ⟨write, hwrite, rfl⟩ := land_eq h
  have hperm := perm_eraseIdx hwrite
  cases write with
  | set id' doc =>
      obtain ⟨-, hnot, -, hfalse⟩ := hs.set id' doc (List.mem_of_getElem? hwrite)
      have hserved : Served { s with
          orders := s.orders.set id' doc, writes := s.writes.eraseIdx n } id ↔ s.Served id := by
        rw [served_iff, served_iff]
        change (∃ doc', (s.orders.set id' doc).get? id = some doc' ∧ _) ↔ _
        rw [OrderedMap.get?_set]
        rcases eq_or_ne id id' with rfl | hne
        · simp [OrderedMap.notMem_iff.mp hnot, hfalse]
        · simp [hne]
      have hupdate : .update id ∈ s.writes.eraseIdx n ↔ .update id ∈ s.writes := by
        rw [← hperm.mem_iff]
        simp
      exact or_congr hserved hupdate
  | update id' =>
      rcases eq_or_ne id id' with rfl | hne
      · obtain ⟨doc, hd⟩ := OrderedMap.mem_iff.mp (hs.update id (List.mem_of_getElem? hwrite))
        have htime := (hs.orders id doc hd).2.1
        refine iff_of_true (.inl (served_iff.mpr ⟨checkUpdate doc, ?_, OrderedMap.get?_set_self, ?_⟩))
          (.inr (List.mem_of_getElem? hwrite))
        · simp [Write.land, OrderedMap.get?_modify, hd]
        · exact OrderedMap.mem_set.mpr (.inr htime)
      · have hserved : Served { s with
            orders := s.orders.modify id' checkUpdate, writes := s.writes.eraseIdx n } id ↔
              s.Served id := by
          rw [served_iff, served_iff]
          change (∃ doc', (s.orders.modify id' checkUpdate).get? id = some doc' ∧ _) ↔ _
          rw [OrderedMap.get?_modify, if_neg hne]
        have hupdate : .update id ∈ s.writes.eraseIdx n ↔ .update id ∈ s.writes := by
          rw [← hperm.mem_iff]
          simp [hne]
        exact or_congr hserved hupdate

/-- A step marks an order if and only if it is a check tap on it. -/
theorem marked_step (hs : s.Tracked) (h : Step s e t) :
    t.Marked id ↔ s.Marked id ∨ ∃ admin, e = .check admin id := by
  cases h with
  | issue => simp [Marked, Served, Store.issue]
  | send => simp [Marked, Served, Store.issue, Store.send]
  | land hland => simp [marked_land hs hland]
  | list => simp [Marked, Served, Store.list]
  | @check admin id' t hcheck =>
      obtain ⟨-, rfl⟩ := check_eq hcheck
      simp [Marked, Served, or_assoc, eq_comm]

/-- The orders that are served or about to be are those that were checked. -/
theorem marked_run (h : Run Step initial es s) (id : String) :
    s.Marked id ↔ ∃ admin, .check admin id ∈ es := by
  refine h.invariantOn (P := fun es s ↦ s.Marked id ↔ ∃ admin, .check admin id ∈ es) ?_
    fun {es a e b} hr ha hR ↦ ?_
  · simp [Marked, Served, initial, servedQuery, query, ids]
  · rw [marked_step (tracked_run hr) hR, ha]
    simp only [List.mem_append, List.mem_singleton, exists_or, eq_comm]

/-- Once all writes have landed, the served orders are those that were checked. -/
theorem served_iff_checked (h : Run Step initial es s) (hw : s.writes = []) :
    s.Served id ↔ ∃ admin, .check admin id ∈ es := by
  rw [← marked_run h id, Marked, hw]
  simp

end Store

end CollegeCanteens.Canteen
