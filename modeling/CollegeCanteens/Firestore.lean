import CollegeCanteens.Handler
import CollegeCanteens.Library.OrderedMap

/-!
# Values read from Firestore

The documents the app reads and writes are maps from field names to values
that Dart types as `dynamic`; a handler casts what it reads, and a cast that
fails throws.  `Scalar` has the values a field can hold, `Fields` the maps, and
`asInt` and `asBool` the casts.

A field that a map does not have reads as `null`, as Dart's `map[name]` does.
-/

namespace CollegeCanteens

/-- The value of a field.  An int is one of 64 bits, in Firestore as in Dart.  A
double is kept by its bits: no handler computes with one. -/
inductive Scalar where
  | null
  | bool (b : Bool)
  | int (n : Int64)
  | double (bits : UInt64)
  | string (s : String)
  | timestamp (t : Int)
deriving DecidableEq, Repr

namespace Scalar

/-- The cast `as int`, which `int balance = user['Balance']` also makes. -/
def asInt : Scalar → Except DartError Int64
  | .int n => .ok n
  | _ => .error .typeError

/-- The cast to `bool` that a condition makes. -/
def asBool : Scalar → Except DartError Bool
  | .bool b => .ok b
  | _ => .error .typeError

/-- `n * v as int`, which Dart reads as `(n * v) as int`: the product with a
double is a double and fails the cast, that with any other value but an int
throws on its own.  The product of two ints wraps around. -/
def mulAsInt (n : Int64) : Scalar → Except DartError Int64
  | .int m => .ok (n * m)
  | _ => .error .typeError

theorem asInt_of_not_int {v : Scalar} (h : ∀ n, v ≠ .int n) : v.asInt = .error .typeError := by
  cases v <;> first | rfl | exact absurd rfl (h _)

theorem asBool_eq_ok_iff {v : Scalar} {b : Bool} : v.asBool = .ok b ↔ v = .bool b := by
  cases v <;> simp [asBool]

theorem isOk_asBool_iff {v : Scalar} : v.asBool.isOk ↔ ∃ b, v = .bool b := by
  cases v <;> simp [asBool, Except.isOk, Except.toBool]

theorem asBool_of_not_bool {v : Scalar} (h : ∀ b, v ≠ .bool b) :
    v.asBool = .error .typeError := by
  cases v <;> first | rfl | exact absurd rfl (h _)

end Scalar

/-- The fields of a document, or of a map held by one. -/
abbrev Fields := OrderedMap String Scalar

/-- `fields[name]`. -/
def Fields.field (fields : Fields) (name : String) : Scalar := (fields.get? name).getD .null

/-- What the `get()` of a document completes with: an exception, or the snapshot
of a document that may not exist, whose `data()` is then `null`. -/
abbrev Reply := Except DartError (Option Fields)

/-- `snapshot.data() as Map<String, dynamic>`. -/
def dataAsMap : Option Fields → Except DartError Fields
  | some fields => .ok fields
  | none => .error .typeError

end CollegeCanteens
