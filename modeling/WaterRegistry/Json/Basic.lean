import WaterRegistry.Numeric.Binary64

/-!
# Registry documents

Documents are JSON values.  An object is the list of its fields in document order; a field written
again keeps its place, a new field goes last, and where a list names a key twice the first field is
the one that counts.  Integers and doubles are different numbers even when their values agree.
-/

namespace WaterRegistry

/-- A JSON number: an integer, or a double. -/
inductive Number where
  | int (value : Int)
  | double (value : Binary64)
  deriving DecidableEq

/-- The value of an integer that a 64-bit count can hold. -/
def Number.count? : Number → Option Nat
  | .int value => if 0 ≤ value ∧ value.toNat < Nat.pow 2 64 then some value.toNat else none
  | .double _ => none

/-- A JSON value. -/
inductive Json where
  | null
  | bool (value : Bool)
  | num (value : Number)
  | str (value : String)
  | arr (items : List Json)
  | obj (fields : List (String × Json))
  deriving Inhabited

/-- The fields of an object, in document order. -/
abbrev Fields := List (String × Json)

namespace Fields

/-- The value of the first field called `key`. -/
def get? (key : String) : Fields → Option Json
  | [] => none
  | (name, value) :: rest => if name = key then some value else get? key rest

/-- Gives the first field called `key` a new value, or adds such a field at the end. -/
def set (key : String) (value : Json) : Fields → Fields
  | [] => [(key, value)]
  | (name, old) :: rest =>
    if name = key then (name, value) :: rest else (name, old) :: set key value rest

/-- The object that reading `entries` in order gives: each key at its first place, with its last
value. -/
def ofEntries (entries : List (String × Json)) : Fields :=
  entries.foldl (fun fields entry => set entry.1 entry.2 fields) []

/-- A field that has been set has its new value. -/
@[simp] theorem get?_set_self (key : String) (value : Json) (fields : Fields) :
    get? key (set key value fields) = some value := by
  induction fields with
  | nil => simp [set, get?]
  | cons field rest ih =>
      obtain ⟨name, old⟩ := field
      by_cases h : name = key <;> simp [set, get?, h, ih]

/-- Setting a field leaves the others as they are. -/
theorem get?_set_of_ne {key other : String} (h : other ≠ key) (value : Json) (fields : Fields) :
    get? other (set key value fields) = get? other fields := by
  induction fields with
  | nil => simp [set, get?, h.symm]
  | cons field rest ih =>
      obtain ⟨name, old⟩ := field
      by_cases hkey : name = key
      · simp [set, get?, hkey, h.symm]
      · by_cases hother : name = other
        · simp [set, get?, hother, h]
        · simp [set, get?, hkey, hother, ih]

end Fields

namespace Json

/-- The value of an object's field; other values have no fields. -/
def get? (document : Json) (key : String) : Option Json :=
  match document with
  | .obj fields => Fields.get? key fields
  | _ => none

/-- Whether a value is an object. -/
def isObject : Json → Bool
  | .obj _ => true
  | _ => false

/-- The text of a string value. -/
def string? : Json → Option String
  | .str value => some value
  | _ => none

/-- The value of a number that a 64-bit count can hold. -/
def count? : Json → Option Nat
  | .num value => value.count?
  | _ => none

/-- A natural number as a value. -/
def ofNat (n : Nat) : Json :=
  .num (.int n)

mutual

/-- Equality of values is decidable, down to the order of fields and the sign of zero. -/
def decEq : (a b : Json) → Decidable (a = b)
  | .null, .null => isTrue rfl
  | .bool a, .bool b => decidable_of_iff (a = b) (by simp)
  | .num a, .num b => decidable_of_iff (a = b) (by simp)
  | .str a, .str b => decidable_of_iff (a = b) (by simp)
  | .arr a, .arr b =>
    match decEqItems a b with
    | isTrue h => isTrue (by rw [h])
    | isFalse h => isFalse (by simpa using h)
  | .obj a, .obj b =>
    match decEqFields a b with
    | isTrue h => isTrue (by rw [h])
    | isFalse h => isFalse (by simpa using h)
  | .null, .bool _ | .null, .num _ | .null, .str _ | .null, .arr _ | .null, .obj _
  | .bool _, .null | .bool _, .num _ | .bool _, .str _ | .bool _, .arr _ | .bool _, .obj _
  | .num _, .null | .num _, .bool _ | .num _, .str _ | .num _, .arr _ | .num _, .obj _
  | .str _, .null | .str _, .bool _ | .str _, .num _ | .str _, .arr _ | .str _, .obj _
  | .arr _, .null | .arr _, .bool _ | .arr _, .num _ | .arr _, .str _ | .arr _, .obj _
  | .obj _, .null | .obj _, .bool _ | .obj _, .num _ | .obj _, .str _ | .obj _, .arr _ =>
    isFalse (by simp)

/-- Equality of lists of values is decidable. -/
def decEqItems : (as bs : List Json) → Decidable (as = bs)
  | [], [] => isTrue rfl
  | [], _ :: _ => isFalse (by simp)
  | _ :: _, [] => isFalse (by simp)
  | a :: as, b :: bs =>
    match decEq a b, decEqItems as bs with
    | isTrue h, isTrue hs => isTrue (by rw [h, hs])
    | isFalse h, _ => isFalse (by simp [h])
    | _, isFalse hs => isFalse (by simp [hs])

/-- Equality of lists of fields is decidable. -/
def decEqFields : (as bs : List (String × Json)) → Decidable (as = bs)
  | [], [] => isTrue rfl
  | [], _ :: _ => isFalse (by simp)
  | _ :: _, [] => isFalse (by simp)
  | (k, a) :: as, (l, b) :: bs =>
    if hk : k = l then
      match decEq a b, decEqFields as bs with
      | isTrue h, isTrue hs => isTrue (by rw [hk, h, hs])
      | isFalse h, _ => isFalse (by simp [h])
      | _, isFalse hs => isFalse (by simp [hs])
    else
      isFalse (by simp [hk])

end

instance : DecidableEq Json := decEq

end Json
end WaterRegistry
