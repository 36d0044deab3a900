import Mathlib.Data.List.Nodup
import WaterRegistry.Json.Basic

/-!
# Fields that may be absent

An object is often put together from keys of which some have no value.  If the keys are different from
each other, the object gives for each of them its value and nothing else, so a key is present exactly
if it has a value.  What stands anywhere within such an object is the object, or stands within one of
the values.
-/

namespace WaterRegistry
namespace Fields

/-- The fields for the keys that have a value, in the order of the keys. -/
def present (entries : List (String × Option Json)) : Fields :=
  entries.filterMap fun entry => entry.2.map fun value => (entry.1, value)

theorem present_cons_some (key : String) (value : Json) (rest : List (String × Option Json)) :
    present ((key, some value) :: rest) = (key, value) :: present rest :=
  rfl

theorem present_cons_none (key : String) (rest : List (String × Option Json)) :
    present ((key, none) :: rest) = present rest :=
  rfl

theorem present_append (entries others : List (String × Option Json)) :
    present (entries ++ others) = present entries ++ present others := by
  simp only [present, List.filterMap_append]

theorem mem_present {entries : List (String × Option Json)} {key : String} {value : Json} :
    (key, value) ∈ present entries ↔ (key, some value) ∈ entries := by
  rw [present, List.mem_filterMap]
  constructor
  · rintro ⟨⟨name, found⟩, hmem, hfield⟩
    obtain ⟨found, rfl, hpair⟩ := Option.map_eq_some_iff.1 hfield
    cases hpair
    exact hmem
  · intro hmem
    exact ⟨_, hmem, rfl⟩

theorem present_eq_nil_iff {entries : List (String × Option Json)} :
    present entries = [] ↔ ∀ entry ∈ entries, entry.2 = none := by
  simp [present, List.filterMap_eq_nil_iff]

/-- A key gives nothing exactly if no field has it. -/
theorem get?_eq_none_iff {key : String} {fields : Fields} :
    get? key fields = none ↔ key ∉ fields.map (·.1) := by
  induction fields with
  | nil => simp [get?]
  | cons field rest ih =>
      obtain ⟨name, value⟩ := field
      by_cases hname : name = key
      · simp [get?, hname]
      · rw [get?, if_neg hname, ih]
        simp [Ne.symm hname]

/-- Each of different keys gives its own value, if it has one. -/
theorem get?_present {entries : List (String × Option Json)} (h : (entries.map (·.1)).Nodup)
    {key : String} {value : Option Json} (hmem : (key, value) ∈ entries) :
    get? key (present entries) = value := by
  induction entries with
  | nil => cases hmem
  | cons entry rest ih =>
      obtain ⟨name, first⟩ := entry
      obtain ⟨hname, hrest⟩ := List.nodup_cons.1 h
      rcases List.mem_cons.1 hmem with hfirst | hlater
      · cases hfirst
        cases value with
        | some value => rw [present_cons_some, get?, if_pos rfl]
        | none =>
            rw [present_cons_none]
            -- The key itself leaves no field, and the fields behind it have other names.
            rw [get?_eq_none_iff]
            intro hfield
            obtain ⟨⟨_, found⟩, hfound, rfl⟩ := List.mem_map.1 hfield
            exact hname (List.mem_map_of_mem (f := (·.1)) (mem_present.1 hfound))
      · have hne : name ≠ key := by
          rintro rfl
          exact hname (List.mem_map_of_mem (f := (·.1)) hlater)
        cases first with
        | some first => rw [present_cons_some, get?, if_neg hne, ih hrest hlater]
        | none => rw [present_cons_none, ih hrest hlater]

end Fields

namespace Json

/-- Whether a value stands somewhere within a document: it is the document, or stands within one of its
items or fields. -/
inductive Within (inner : Json) : Json → Prop
  | self : Within inner inner
  | item {items : List Json} {value : Json} : value ∈ items → Within inner value →
      Within inner (.arr items)
  | field {fields : Fields} {key : String} {value : Json} : (key, value) ∈ fields →
      Within inner value → Within inner (.obj fields)

namespace Within

variable {inner : Json}

/-- Within a text, a number or a truth value there is nothing else. -/
theorem eq_of_scalar {value : Json} (h : inner.Within value) (hitems : ∀ items, value ≠ .arr items)
    (hfields : ∀ fields, value ≠ .obj fields) : inner = value := by
  cases h with
  | self => rfl
  | item => exact absurd rfl (hitems _)
  | field => exact absurd rfl (hfields _)

theorem present_cases {entries : List (String × Option Json)}
    (h : inner.Within (.obj (Fields.present entries))) :
    inner = .obj (Fields.present entries) ∨
      ∃ entry ∈ entries, ∃ value, entry.2 = some value ∧ inner.Within value := by
  cases h with
  | self => exact .inl rfl
  | field hmem hinner => exact .inr ⟨_, Fields.mem_present.1 hmem, _, rfl, hinner⟩

end Within
end Json
end WaterRegistry
