import Mathlib.Algebra.Group.Nat.Defs
import WaterRegistry.Generator.Basic

/-!
# The texts of a sequence

A sequence gives every field that is asked for the next number of its counter.  Of a path that is
asked for twice the last number counts.  So every path that is asked for gets a text, and no two paths
get the same one, as long as the counter does not come round.  `Numbers` says this of any places that
hold texts, so that it can be carried on from the generated texts to the documents that they are
written into.
-/

namespace WaterRegistry
namespace SortedTable

variable {α : Type}

theorem get?_ne_none_iff {table : SortedTable α} {key : String} :
    table.get? key ≠ none ↔ ∃ entry ∈ table.entries, entry.1 = key := by
  rw [← Option.isSome_iff_ne_none, get?, List.lookup_isSome_iff]
  refine exists_congr fun entry => and_congr_right fun _ => ?_
  rw [beq_iff_eq, eq_comm]

end SortedTable

namespace Generator

/-- The text that a sequence gives out with a number. -/
def sequenceText (label : String) (n : Nat) : String :=
  label ++ "-" ++ toString n

theorem sequenceText_inj {label : String} {m n : Nat} :
    sequenceText label m = sequenceText label n ↔ m = n := by
  rw [sequenceText, sequenceText, String.append_right_inj, toString_nat_inj]

/-- The places all hold texts with numbers from `low` on and below `high`, and no two of them hold the
same text. -/
structure Numbers {ι : Type} (label : String) (low high : Nat) (places : ι → Prop)
    (value? : ι → Option Json) : Prop where
  numbered : ∀ place, places place →
    ∃ n, low ≤ n ∧ n < high ∧ value? place = some (.str (sequenceText label n))
  distinct : ∀ place other, places place → places other → value? place = value? other →
    place = other

namespace Numbers

variable {ι κ : Type} {label : String} {low middle high : Nat} {places others : ι → Prop}
  {value? : ι → Option Json}

theorem of_forall_not (label : String) (low : Nat) (value? : ι → Option Json)
    (hnone : ∀ place, ¬ places place) : Numbers label low low places value? where
  numbered place hplace := absurd hplace (hnone place)
  distinct place _ hplace := absurd hplace (hnone place)

theorem single {place : ι} {n : Nat} (hvalue : value? place = some (.str (sequenceText label n))) :
    Numbers label n (n + 1) (· = place) value? where
  numbered := by
    rintro _ rfl
    exact ⟨n, Nat.le_refl _, Nat.lt_succ_self _, hvalue⟩
  distinct := by
    rintro _ _ rfl rfl _
    rfl

/-- Places with later numbers hold other texts. -/
theorem append (h : Numbers label low middle places value?)
    (h' : Numbers label middle high others value?) (hlow : low ≤ middle) (hhigh : middle ≤ high) :
    Numbers label low high (fun place => places place ∨ others place) value? := by
  have hapart : ∀ place other, places place → others other → value? place ≠ value? other := by
    intro place other hplace hother heq
    obtain ⟨m, _, hm, hvalue⟩ := h.numbered place hplace
    obtain ⟨n, hn, _, hvalue'⟩ := h'.numbered other hother
    rw [hvalue, hvalue', Option.some.injEq, Json.str.injEq, sequenceText_inj] at heq
    omega
  constructor
  · rintro place (hplace | hplace)
    · obtain ⟨n, hlower, hupper, hvalue⟩ := h.numbered place hplace
      exact ⟨n, hlower, by omega, hvalue⟩
    · obtain ⟨n, hlower, hupper, hvalue⟩ := h'.numbered place hplace
      exact ⟨n, by omega, hupper, hvalue⟩
  · rintro place other (hplace | hplace) (hother | hother) heq
    · exact h.distinct place other hplace hother heq
    · exact absurd heq (hapart place other hplace hother)
    · exact absurd heq.symm (hapart other place hother hplace)
    · exact h'.distinct place other hplace hother heq

/-- Places that hold what other places hold are numbered as these are, provided that each can be told
from the place that it takes its text from. -/
theorem transfer {targets : κ → Prop} {target? : κ → Option Json}
    (h : Numbers label low high places value?) (f : ι → κ)
    (hfrom : ∀ target, targets target →
      ∃ place, places place ∧ f place = target ∧ target? target = value? place) :
    Numbers label low high targets target? := by
  constructor
  · intro target htarget
    obtain ⟨place, hplace, _, hvalue⟩ := hfrom target htarget
    rw [hvalue]
    exact h.numbered place hplace
  · intro target other htarget hother heq
    obtain ⟨place, hplace, rfl, hvalue⟩ := hfrom target htarget
    obtain ⟨place', hplace', rfl, hvalue'⟩ := hfrom other hother
    rw [hvalue, hvalue'] at heq
    rw [h.distinct place place' hplace hplace' heq]

end Numbers

/-- Generated texts are numbered as the entries of their table. -/
def NumbersTexts (label : String) (low high : Nat) (generated : GeneratedIdentifier) : Prop :=
  Numbers label low high (· ∈ generated.entries) fun entry => some (.str entry.2)

/-- The next number is a new one for any path. -/
theorem NumbersTexts.insert {label : String} {low high : Nat} {generated : GeneratedIdentifier}
    (h : NumbersTexts label low high generated) (hle : low ≤ high) (path : String) :
    NumbersTexts label low (high + 1) (generated.insert path (sequenceText label high)) := by
  have hnew : Numbers label high (high + 1) (· = (path, sequenceText label high))
      fun entry => some (.str entry.2) := .single rfl
  refine (h.append hnew hle (Nat.le_succ high)).transfer id fun entry hentry =>
    ⟨entry, ?_, rfl, rfl⟩
  exact (SortedTable.mem_place hentry).symm

theorem toNat_add_one (next : UInt64) (hroom : next.toNat + 1 < 2 ^ 64) :
    (next + 1).toNat = next.toNat + 1 := by
  have hone : (1 : UInt64).toNat = 1 := rfl
  rw [UInt64.toNat_add, hone]
  omega

/-- Numbering fields takes one number for each of them. -/
theorem toNat_numberFields (label : String) {next : UInt64} (generated : GeneratedIdentifier)
    {fields : List IdentifierField} (hroom : next.toNat + fields.length < 2 ^ 64) :
    (numberFields label next generated fields).2.toNat = next.toNat + fields.length := by
  induction fields generalizing next generated with
  | nil => rfl
  | cons field rest ih =>
      rw [List.length_cons] at hroom ⊢
      have hnext := toNat_add_one next (by omega)
      rw [numberFields, ih _ (by omega), hnext]
      omega

theorem numbersTexts_numberFields {label : String} {low : Nat} {next : UInt64}
    {generated : GeneratedIdentifier} (h : NumbersTexts label low next.toNat generated)
    (hle : low ≤ next.toNat) {fields : List IdentifierField}
    (hroom : next.toNat + fields.length < 2 ^ 64) :
    NumbersTexts label low (next.toNat + fields.length)
      (numberFields label next generated fields).1 := by
  induction fields generalizing next generated with
  | nil => exact h
  | cons field rest ih =>
      rw [List.length_cons] at hroom ⊢
      have hnext := toNat_add_one next (by omega)
      have hinsert := h.insert hle field.path
      rw [← hnext] at hinsert
      have hrest := ih hinsert (by omega) (by omega)
      rwa [hnext, Nat.add_assoc, Nat.add_comm 1] at hrest

/-- The paths that get a text are those of the fields, and those that have had one before. -/
theorem get?_numberFields_ne_none (label : String) (next : UInt64)
    (generated : GeneratedIdentifier) (fields : List IdentifierField) (path : String) :
    (numberFields label next generated fields).1.get? path ≠ none ↔
      generated.get? path ≠ none ∨ ∃ field ∈ fields, field.path = path := by
  induction fields generalizing next generated with
  | nil => simp [numberFields]
  | cons field rest ih =>
      rw [numberFields, ih, SortedTable.get?_insert]
      by_cases hown : path = field.path
      · simp [hown]
      · simp [hown, Ne.symm hown]

/-- A sequence gives each of the paths that it is asked for a text, and no other path. -/
theorem exists_mem_numberFields_iff (label : String) (next : UInt64)
    {fields : List IdentifierField} {path : String} :
    (∃ entry ∈ (numberFields label next .empty fields).1.entries, entry.1 = path) ↔
      ∃ field ∈ fields, field.path = path := by
  rw [← SortedTable.get?_ne_none_iff, get?_numberFields_ne_none]
  simp

end Generator
end WaterRegistry
