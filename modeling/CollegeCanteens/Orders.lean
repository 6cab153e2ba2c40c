import CollegeCanteens.Menu.Cart
import Mathlib.Data.List.Sort

/-!
# Order documents and the queries over them

The document Pay writes, the two queries that list orders and the partial
update of a check tap:

* `orderDoc`: `lib/screens/UserHomePage/menu.dart`, Pay's `set`;
* `pendingQuery`: `lib/screens/AdminHomePage/pending_orders.dart`, `ordersStream`;
* `servedQuery`: `lib/screens/AdminHomePage/served_orders.dart`;
* `checkUpdate`: the check button of a pending order;
* `pendingRow` and `servedRow`: the rows of the two lists.

A collection answers `where` and `orderBy` as Firestore documents them: a
document is selected if the field compared holds the value, and only documents
that have the field ordered by are returned.
-/

namespace CollegeCanteens

open Menu

/-- The value of a field of an order: a plain value, or the map `items`. -/
inductive OrderValue where
  | scalar (v : Scalar)
  | items (cart : Cart)
deriving DecidableEq

/-- The document of an order. -/
abbrev OrderDoc := OrderedMap String OrderValue

/-- The collection `Orders`, from the ids of its documents. -/
abbrev Orders := OrderedMap String OrderDoc

/-- The map that Pay passes to `set`. -/
def orderDoc (username : String) (subtotal : Int64) (cart : Cart) (now : Int) : OrderDoc :=
  (((((∅ : OrderDoc).set "user" (.scalar (.string username))).set
    "price" (.scalar (.int subtotal))).set
    "items" (.items cart)).set
    "timestamp" (.scalar (.timestamp now))).set
    "isServed" (.scalar (.bool false))

namespace OrderDoc

variable {username : String} {subtotal : Int64} {now : Int} {cart : Cart}

/-- The field `user`. -/
def user (order : OrderDoc) : Option OrderValue := order.get? "user"

/-- The field `price`, if it is an int. -/
def price (order : OrderDoc) : Option Int64 :=
  match order.get? "price" with
  | some (.scalar (.int n)) => some n
  | _ => none

/-- The field `items`; empty if there is none. -/
def items (order : OrderDoc) : Cart :=
  match order.get? "items" with
  | some (.items cart) => cart
  | _ => ∅

@[simp] theorem user_orderDoc :
    user (orderDoc username subtotal cart now) = some (.scalar (.string username)) := by
  simp [user, orderDoc, OrderedMap.get?_set]

@[simp] theorem price_orderDoc : price (orderDoc username subtotal cart now) = some subtotal := by
  simp [price, orderDoc, OrderedMap.get?_set]

@[simp] theorem items_orderDoc : items (orderDoc username subtotal cart now) = cart := by
  simp [items, orderDoc, OrderedMap.get?_set]

end OrderDoc

/-! ## Queries -/

/-- The point in time by which `orderBy('timestamp')` sorts. -/
def OrderDoc.timestamp (order : OrderDoc) : Int :=
  match order.get? "timestamp" with
  | some (.scalar (.timestamp t)) => t
  | _ => 0

/-- `where('isServed', isEqualTo: served).orderBy('timestamp', descending: true)`. -/
def query (served : Bool) (orders : Orders) : List (String × OrderDoc) :=
  (orders.entries.filter fun e ↦
    e.2.get? "isServed" = some (.scalar (.bool served)) ∧ "timestamp" ∈ e.2).insertionSort
    fun e e' ↦ e'.2.timestamp ≤ e.2.timestamp

/-- `ordersStream` of the Pending tab. -/
def pendingQuery (orders : Orders) : List (String × OrderDoc) := query false orders

/-- The query of the Served tab. -/
def servedQuery (orders : Orders) : List (String × OrderDoc) := query true orders

/-- The ids a query returns. -/
def ids (docs : List (String × OrderDoc)) : List String := docs.map Prod.fst

/-- A query returns the documents whose `isServed` is the value asked for and
that have a `timestamp`. -/
theorem mem_ids_query {served : Bool} {orders : Orders} {id : String} :
    id ∈ ids (query served orders) ↔ ∃ doc, orders.get? id = some doc ∧
      doc.get? "isServed" = some (.scalar (.bool served)) ∧ "timestamp" ∈ doc := by
  simp only [ids, query, List.mem_map, List.mem_insertionSort, List.mem_filter, decide_eq_true_eq,
    OrderedMap.get?_eq_some_iff]
  constructor
  · rintro ⟨⟨_, doc⟩, ⟨hmem, h⟩, rfl⟩
    exact ⟨doc, hmem, by simpa only [OrderedMap.get?_eq_some_iff] using h⟩
  · rintro ⟨doc, hmem, h⟩
    exact ⟨(id, doc), ⟨hmem, by simpa only [OrderedMap.get?_eq_some_iff] using h⟩, rfl⟩

/-! ## The rows of the lists -/

/-- What a row shows: `user` and `price`, and the items with their quantities. -/
structure Row where
  user : OrderValue
  price : OrderValue
  lines : List (String × Int)
deriving DecidableEq

/-- The lines of a row, from `items`, whose assignment to a `Map` casts it. -/
def rowLines : OrderValue → Except DartError (List (String × Int))
  | .items cart => .ok (cart.entries.map fun e ↦ (e.1, e.2.quantity))
  | .scalar _ => .error .typeError

/-- `order[name]` on a snapshot, which throws if the field is missing. -/
def snapshotField (order : OrderDoc) (name : String) : Except DartError OrderValue :=
  (order.get? name).elim (.error .firebaseException) .ok

/-- `order[name]` on the data of a snapshot, which is `null` if the field is missing. -/
def dataField (order : OrderDoc) (name : String) : OrderValue :=
  (order.get? name).getD (.scalar .null)

/-- A row of the Pending tab. -/
def pendingRow (order : OrderDoc) : Except DartError Row := do
  let lines ← rowLines (← snapshotField order "items")
  let user ← snapshotField order "user"
  let price ← snapshotField order "price"
  return ⟨user, price, lines⟩

/-- A row of the Served tab. -/
def servedRow (order : OrderDoc) : Except DartError Row := do
  let lines ← rowLines (dataField order "items")
  return ⟨dataField order "user", dataField order "price", lines⟩

/-- The rows of an order of the app. -/
theorem rows_orderDoc {username : String} {subtotal : Int64} {now : Int} {cart : Cart} {order : OrderDoc}
    (h : ∀ name ≠ "isServed", order.get? name = (orderDoc username subtotal cart now).get? name) :
    let row : Row := ⟨.scalar (.string username), .scalar (.int subtotal),
      cart.entries.map fun e ↦ (e.1, e.2.quantity)⟩
    pendingRow order = .ok row ∧ servedRow order = .ok row := by
  have huser : order.get? "user" = some (.scalar (.string username)) := by
    rw [h "user" (by decide)]
    exact OrderDoc.user_orderDoc
  have hprice : order.get? "price" = some (.scalar (.int subtotal)) := by
    rw [h "price" (by decide)]
    simp [orderDoc, OrderedMap.get?_set]
  have hitems : order.get? "items" = some (.items cart) := by
    rw [h "items" (by decide)]
    simp [orderDoc, OrderedMap.get?_set]
  constructor
  · simp only [pendingRow, snapshotField, huser, hprice, hitems]
    rfl
  · simp only [servedRow, dataField, huser, hprice, hitems]
    rfl

/-! ## The check button -/

/-- `doc.update({"isServed": true})`, on the document of one order. -/
def checkUpdate (order : OrderDoc) : OrderDoc := order.set "isServed" (.scalar (.bool true))

end CollegeCanteens
