import WaterRegistry.Json.Basic
import WaterRegistry.SortedTable

/-!
# Equality of documents

Two documents are the same when they differ at most in the order of object fields and in the sign
of zeros.  `canonical` sorts the fields of every object by key and drops the sign of zeros, so being
the same is having one canonical form, and it is an equivalence by construction.
-/

namespace WaterRegistry

/-- Both zeros are one double; otherwise a number is its own form. -/
def Number.canonical : Number → Number
  | .int value => .int value
  | .double value => .double value.unsignedZero

namespace Json

mutual

/-- The value with fields sorted by key at every level, and with unsigned zeros. -/
def canonical : Json → Json
  | .null => .null
  | .bool value => .bool value
  | .num value => .num value.canonical
  | .str value => .str value
  | .arr items => .arr (canonicalItems items)
  | .obj fields => .obj (canonicalFields fields)

/-- The canonical forms of list items, in their order. -/
def canonicalItems : List Json → List Json
  | [] => []
  | item :: rest => canonical item :: canonicalItems rest

/-- The canonical forms of fields, sorted by key; of two fields with one key the first counts. -/
def canonicalFields : List (String × Json) → List (String × Json)
  | [] => []
  | (key, value) :: rest => SortedTable.place key (canonical value) (canonicalFields rest)

end

/-- Whether two documents are the same up to the order of fields and the sign of zeros. -/
def same (a b : Json) : Bool :=
  a.canonical = b.canonical

/-- Being the same is having one canonical form. -/
theorem same_iff {a b : Json} : a.same b = true ↔ a.canonical = b.canonical := by
  simp [same]

/-- A document is the same as itself. -/
@[simp] theorem same_refl (a : Json) : a.same a = true := by
  simp [same]

/-- Being the same does not depend on the order of the two. -/
theorem same_comm (a b : Json) : a.same b = b.same a := by
  simp [same, eq_comm]

/-- Documents that are the same as a third are the same. -/
theorem same_trans {a b c : Json} (hab : a.same b = true) (hbc : b.same c = true) :
    a.same c = true := by
  rw [same_iff] at *
  exact hab.trans hbc

/-- A text is the same as no other value. -/
theorem same_str_iff {a : Json} {text : String} : a.same (.str text) = true ↔ a = .str text := by
  rw [same_iff]
  cases a <;> simp [canonical]

/-- A null is the same as no other value. -/
theorem same_null_iff {a : Json} : a.same .null = true ↔ a = .null := by
  rw [same_iff]
  cases a <;> simp [canonical]

end Json
end WaterRegistry
