import WaterRegistry.Facility.Code
import WaterRegistry.Proofs.Text.Alphanumeric

/-!
# Abbreviations of place names

The abbreviation of a place is taken from its name as it is spelled, while the digest in an identifier
is taken from the normal form of the name.  Both look through case and spacing: the abbreviation of a
normal form is that of the name with its hidden letters written out.  So the two agree on all names
that hide no letter, and a name of a single character shows that no more can be said.
-/

namespace WaterRegistry

/-- The initials of a normal form are those of the name and of the letters that it hides. -/
theorem initials_normalize (name : String) : initials (normalize name) = initials (revealed name) := by
  rw [initials, filter_normalize, ← List.map_take, List.map_map, initials]
  exact List.map_congr_left fun c _ => Char.toUpper_toLower_eq_toUpper c

theorem abbreviate_normalize (name : String) :
    abbreviate (normalize name) = abbreviate (revealed name) := by
  rw [abbreviate, initials_normalize, abbreviate]

/-- Spellings of one name have one abbreviation, if they hide no letters. -/
theorem abbreviate_eq_of_normalize_eq {name other : String} (h : normalize name = normalize other)
    (hname : ∀ c ∈ name.toList, hidesLetter c = false)
    (hother : ∀ c ∈ other.toList, hidesLetter c = false) : abbreviate name = abbreviate other := by
  rw [← revealed_eq_self hname, ← revealed_eq_self hother, ← abbreviate_normalize, h,
    abbreviate_normalize]

theorem hidesLetter_eq_false_of_not_mem {name : String} (hdotted : 'İ' ∉ name.toList)
    (hkelvin : '\u212a' ∉ name.toList) : ∀ c ∈ name.toList, hidesLetter c = false := by
  intro c hc
  rw [hidesLetter_eq_false_iff]
  constructor
  · rintro rfl
    exact hdotted hc
  · rintro rfl
    exact hkelvin hc

/-- A name and its normal form have one abbreviation, unless a dotted capital I or a Kelvin sign is in
the name, and so have two names with one normal form.  For any name the abbreviation of the normal
form is the one that the name has once the letters in these two characters are written out; alone,
each of the two has another abbreviation than its normal form, and no other character has.  They are
also the only ones outside of ASCII that have an ASCII character in their lowercase form, while ASCII
characters have the ASCII lowercase form. -/
theorem abbreviation_ignores_case_and_spacing :
    (∀ name : String, 'İ' ∉ name.toList → '\u212a' ∉ name.toList →
      abbreviate (normalize name) = abbreviate name) ∧
    (∀ name other : String, 'İ' ∉ name.toList → '\u212a' ∉ name.toList →
      'İ' ∉ other.toList → '\u212a' ∉ other.toList → normalize name = normalize other →
      abbreviate name = abbreviate other) ∧
    (∀ name : String, abbreviate (normalize name) = abbreviate (revealed name)) ∧
    (∀ c : Char, abbreviate (normalize (String.singleton c)) = abbreviate (String.singleton c) ↔
      c ≠ 'İ' ∧ c ≠ '\u212a') ∧
    (∀ (before : List Char) (c : Char) (after : List Char),
      (c.toNat < 0x80 → lowercaseAt before c after = [c.toLower]) ∧
      ((∃ x ∈ lowercaseAt before c after, x.toNat < 0x80) ↔
        c.toNat < 0x80 ∨ c = 'İ' ∨ c = '\u212a')) := by
  have hplain : ∀ name : String, 'İ' ∉ name.toList → '\u212a' ∉ name.toList →
      abbreviate (normalize name) = abbreviate name := fun name hdotted hkelvin => by
    rw [abbreviate_normalize, revealed_eq_self (hidesLetter_eq_false_of_not_mem hdotted hkelvin)]
  refine ⟨hplain, ?_, abbreviate_normalize, ?_, ?_⟩
  · intro name other hdotted hkelvin hdotted' hkelvin' h
    exact abbreviate_eq_of_normalize_eq h (hidesLetter_eq_false_of_not_mem hdotted hkelvin)
      (hidesLetter_eq_false_of_not_mem hdotted' hkelvin')
  · intro c
    constructor
    · intro h
      rw [abbreviate_normalize] at h
      constructor
      · rintro rfl
        revert h
        decide
      · rintro rfl
        revert h
        decide
    · rintro ⟨hdotted, hkelvin⟩
      exact hplain _ (by simpa using hdotted.symm) (by simpa using hkelvin.symm)
  · intro before c after
    exact ⟨fun hascii => lowercaseAt_of_ascii hascii before after, exists_ascii_lowercaseAt_iff⟩

/-- A ward is abbreviated alike in two spellings, with a letter outside of ASCII and control characters
around the name. -/
theorem abbreviation_ignores_case_and_spacing_in_ward :
    let name := " 4th\tWard Über\x01"
    let other := "\x1f4TH \r\n wARD ÜBER"
    'İ' ∉ name.toList ∧ '\u212a' ∉ name.toList ∧ 'İ' ∉ other.toList ∧ '\u212a' ∉ other.toList ∧
      normalize name = normalize other ∧ abbreviate (normalize name) = abbreviate name ∧
      abbreviate name = abbreviate other ∧ 'W'.toNat < 0x80 ∧ lowercaseAt [' '] 'W' ['A'] = ['w'] := by
  intro name other
  obtain ⟨hsingle, hpair, _, _, hlowercase⟩ := abbreviation_ignores_case_and_spacing
  have hname : 'İ' ∉ name.toList ∧ '\u212a' ∉ name.toList := by decide
  have hother : 'İ' ∉ other.toList ∧ '\u212a' ∉ other.toList := by decide
  have hsame : normalize name = normalize other := by decide +kernel
  have hascii : 'W'.toNat < 0x80 := by decide
  exact ⟨hname.1, hname.2, hother.1, hother.2, hsame, hsingle name hname.1 hname.2,
    hpair name other hname.1 hname.2 hother.1 hother.2 hsame, hascii,
    (hlowercase [' '] 'W' ['A']).1 hascii⟩

-- The letter that a Kelvin sign hides is in the normal form, and no letter is in the name.
example : abbreviate (normalize "\u212a\u00f6") = "K" ∧ abbreviate "\u212a\u00f6" = "UNK" := by
  decide +kernel

end WaterRegistry
