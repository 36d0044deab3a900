import WaterRegistry.Proofs.Text.Collapse
import WaterRegistry.Proofs.Text.Lowercase
import WaterRegistry.Proofs.Text.Margins

/-!
# Letters and digits of a normal form

The normal form of a name has the ASCII letters and digits of the name, in their order and with the
letters lowercase.  Spaces and control characters may be gone, and characters outside of ASCII may
be changed, but none of this adds a letter or a digit.  There are two exceptions: the lowercase form
of `İ` begins with an `i`, and that of the Kelvin sign is a `k`.  Once these two letters are written
out in the name, the law holds of every name.
-/

namespace WaterRegistry

/-- Whether a character outside of ASCII has an ASCII letter in its lowercase form. -/
def hidesLetter (c : Char) : Bool :=
  c = 'İ' || c = '\u212a'

/-- The letter that a character hides; other characters stand for themselves. -/
def revealedChar (c : Char) : Char :=
  if c = 'İ' then 'i' else if c = '\u212a' then 'k' else c

/-- A name with the letters that it hides written out. -/
def revealed (name : String) : String :=
  String.ofList (name.toList.map revealedChar)

theorem hidesLetter_eq_false_iff {c : Char} :
    hidesLetter c = false ↔ c ≠ 'İ' ∧ c ≠ '\u212a' := by
  simp [hidesLetter]

theorem revealedChar_eq_self {c : Char} (h : hidesLetter c = false) : revealedChar c = c := by
  obtain ⟨hdotted, hkelvin⟩ := hidesLetter_eq_false_iff.1 h
  rw [revealedChar, if_neg hdotted, if_neg hkelvin]

theorem revealed_eq_self {name : String} (h : ∀ c ∈ name.toList, hidesLetter c = false) :
    revealed name = name := by
  have hsame : name.toList.map revealedChar = name.toList.map id :=
    List.map_congr_left fun c hc => revealedChar_eq_self (h c hc)
  rw [revealed, hsame, List.map_id, String.ofList_toList]

theorem toNat_lt_of_isAlphanum {c : Char} (h : c.isAlphanum = true) : c.toNat < 0x80 := by
  simp only [Char.isAlphanum, Char.isAlpha, Char.isUpper, Char.isLower, Char.isDigit,
    Bool.or_eq_true, Bool.and_eq_true, decide_eq_true_eq, UInt32.le_iff_toNat_le, ge_iff_le] at h
  change ((65 ≤ c.toNat ∧ c.toNat ≤ 90) ∨ (97 ≤ c.toNat ∧ c.toNat ≤ 122)) ∨
    (48 ≤ c.toNat ∧ c.toNat ≤ 57) at h
  omega

theorem isAlphanum_eq_false_of_le {c : Char} (h : 0x80 ≤ c.toNat) : c.isAlphanum = false := by
  rw [Bool.eq_false_iff]
  intro halnum
  exact absurd (toNat_lt_of_isAlphanum halnum) (Nat.not_lt.2 h)

theorem isAlphanum_lowercaseChar {c : Char} (hc : hidesLetter c = false) (h : 0x80 ≤ c.toNat) :
    (lowercaseChar c).isAlphanum = false := by
  rcases le_toNat_lowercaseChar h with hle | rfl
  · exact isAlphanum_eq_false_of_le hle
  · cases hc

/-- The letters and digits of a character's lowercase form: its own one, or the one that it hides,
in lowercase. -/
theorem filter_lowercaseAt (before : List Char) (c : Char) (after : List Char) :
    (lowercaseAt before c after).filter Char.isAlphanum =
      ([revealedChar c].filter Char.isAlphanum).map Char.toLower := by
  cases hhidden : hidesLetter c with
  | true =>
      simp only [hidesLetter, Bool.or_eq_true, decide_eq_true_eq] at hhidden
      rcases hhidden with rfl | rfl
      · rfl
      · rw [lowercaseAt_kelvin]
        rfl
  | false =>
      rw [revealedChar_eq_self hhidden]
      unfold lowercaseAt
      split
      · rename_i hsigma
        subst hsigma
        split <;> rfl
      · rw [if_neg (hidesLetter_eq_false_iff.1 hhidden).1]
        by_cases hascii : c.toNat < 0x80
        · have hcase : c.toLower.isAlphanum = c.isAlphanum :=
            ascii_forall (p := fun c => c.toLower.isAlphanum = c.isAlphanum)
              (by decide) hascii
          rw [lowercaseChar, if_pos hascii, List.filter_cons, List.filter_cons, hcase]
          cases c.isAlphanum <;> rfl
        · have hle : 0x80 ≤ c.toNat := Nat.not_lt.1 hascii
          rw [List.filter_cons, List.filter_cons, isAlphanum_lowercaseChar hhidden hle,
            isAlphanum_eq_false_of_le hle]
          rfl

theorem filter_lowercaseFrom (before cs : List Char) :
    (lowercaseFrom before cs).filter Char.isAlphanum =
      ((cs.map revealedChar).filter Char.isAlphanum).map Char.toLower := by
  induction cs generalizing before with
  | nil => rfl
  | cons c rest ih =>
      rw [lowercaseFrom, List.filter_append, filter_lowercaseAt, ih, ← List.map_append,
        ← List.filter_append]
      rfl

theorem isAlphanum_eq_false_of_isMargin {c : Char} (h : isMargin c = true) :
    c.isAlphanum = false := by
  have hle : c.toNat ≤ 0x20 := UInt32.le_iff_toNat_le.1 (of_decide_eq_true h)
  exact ascii_forall (p := fun c => c.toNat ≤ 0x20 → c.isAlphanum = false) (by decide)
    (by omega) hle

theorem isAlphanum_eq_false_of_isRunSpace {c : Char} (h : isRunSpace c = true) :
    c.isAlphanum = false := by
  simp only [isRunSpace, Bool.or_eq_true, decide_eq_true_eq] at h
  rcases h with ((((rfl | rfl) | rfl) | rfl) | rfl) | rfl <;> rfl

/-- The letters and digits of a normal form are those of the name and those that it hides, in
lowercase. -/
theorem filter_normalize (name : String) :
    (normalize name).toList.filter Char.isAlphanum =
      ((revealed name).toList.filter Char.isAlphanum).map Char.toLower := by
  rw [normalize, String.toList_ofList, collapse,
    filter_collapseFrom fun _ => isAlphanum_eq_false_of_isRunSpace,
    filter_trimList fun _ => isAlphanum_eq_false_of_isMargin, lowercase, String.toList_ofList,
    filter_lowercaseFrom, revealed, String.toList_ofList]

end WaterRegistry
