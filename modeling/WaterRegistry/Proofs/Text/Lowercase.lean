import Mathlib
import WaterRegistry.Text.Lowercase

/-!
# What lowercasing leaves alone

A text is lowercase once it has been lowercased: no character of a lowercase form has another
lowercase form itself, wherever it stands.  For characters of ASCII this is seen by going through
them, and for the others it is read off the runs of the table.  What stands around a character
matters for `Σ` alone, and there is no `Σ` in a lowercase form.  Characters of ASCII that are no
letters stand for themselves, and no other character becomes one of them.
-/

namespace WaterRegistry

/-- What holds of every ASCII character, by going through all of them. -/
theorem ascii_forall {p : Char → Prop} (h : ∀ n < 0x80, p (Char.ofNat n)) {c : Char}
    (hc : c.toNat < 0x80) : p c := by
  have hofNat := h c.toNat hc
  rwa [Char.ofNat_toNat] at hofNat

/-- Whether a code point is a member of a run of the table. -/
def IsInRun (run : Nat × Nat × Nat × Nat) (n : Nat) : Prop :=
  run.1 ≤ n ∧ n ≤ run.2.1 ∧ (n - run.1) % run.2.2.1 = 0

instance (run : Nat × Nat × Nat × Nat) (n : Nat) : Decidable (IsInRun run n) :=
  inferInstanceAs (Decidable (_ ∧ _ ∧ _))

/-- Outside of ASCII the lowercase form is the one that a run gives, or the character itself. -/
theorem lowercaseChar_cases {c : Char} (h : 0x80 ≤ c.toNat) :
    (lowercaseChar c = c ∧ ∀ run ∈ lowercaseRuns, ¬ IsInRun run c.toNat) ∨
      ∃ run ∈ lowercaseRuns, IsInRun run c.toNat ∧
        lowercaseChar c = Char.ofNat (run.2.2.2 + (c.toNat - run.1)) := by
  have hmember (run : Nat × Nat × Nat × Nat) :
      (run.1 ≤ c.toNat && c.toNat ≤ run.2.1 && (c.toNat - run.1) % run.2.2.1 == 0) = true ↔
        IsInRun run c.toNat := by
    simp [IsInRun, and_assoc]
  rw [lowercaseChar, if_neg (Nat.not_lt.2 h)]
  dsimp only
  split
  · rename_i first last step form hfind
    have hin := List.find?_some hfind
    exact .inr ⟨_, List.mem_of_find?_eq_some hfind, (hmember _).1 hin, rfl⟩
  · rename_i hfind
    exact .inl ⟨rfl, fun run hrun hin => List.find?_eq_none.1 hfind run hrun ((hmember run).2 hin)⟩

/-- Of the runs that reach beyond ASCII only that of the Kelvin sign leads back into it. -/
theorem le_form_of_mem_lowercaseRuns : ∀ run ∈ lowercaseRuns, 0x80 ≤ run.2.1 →
    0x80 ≤ run.2.2.2 ∨ run = (0x212a, 0x212a, 1, 0x6b) := by
  decide +kernel

/-- Runs lead to code points of characters. -/
theorem isValidChar_of_mem_lowercaseRuns : ∀ run ∈ lowercaseRuns,
    run.2.2.2 + (run.2.1 - run.1) < 0xd800 ∨
      0xdfff < run.2.2.2 ∧ run.2.2.2 + (run.2.1 - run.1) < 0x110000 := by
  decide +kernel

/-- A run leads from each of its members to a character, and out of ASCII unless it is that of the
Kelvin sign. -/
theorem toNat_ofNat_form {run : Nat × Nat × Nat × Nat} (hrun : run ∈ lowercaseRuns) {n : Nat}
    (hin : IsInRun run n) :
    (Char.ofNat (run.2.2.2 + (n - run.1))).toNat = run.2.2.2 + (n - run.1) := by
  have hvalid : (run.2.2.2 + (n - run.1)).isValidChar := by
    have hcodes := isValidChar_of_mem_lowercaseRuns run hrun
    have hlast := hin.2.1
    simp only [Nat.isValidChar]
    omega
  rw [Char.toNat_ofNat, if_pos hvalid]

/-- The lowercase form of a character outside of ASCII lies outside of ASCII, unless the character
is the Kelvin sign. -/
theorem le_toNat_lowercaseChar {c : Char} (h : 0x80 ≤ c.toNat) :
    0x80 ≤ (lowercaseChar c).toNat ∨ c = '\u212a' := by
  rcases lowercaseChar_cases h with ⟨hself, _⟩ | ⟨run, hrun, hin, hform⟩
  · exact .inl (by rwa [hself])
  · obtain ⟨hfirst, hlast, _⟩ := id hin
    rcases le_form_of_mem_lowercaseRuns run hrun (Nat.le_trans h hlast) with hle | rfl
    · left
      rw [hform, toNat_ofNat_form hrun hin]
      omega
    · exact .inr (Char.toNat_inj.1 (Nat.le_antisymm hlast hfirst))

/-- Characters of ASCII have their ASCII lowercase form wherever they stand. -/
theorem lowercaseAt_of_ascii {c : Char} (h : c.toNat < 0x80) (before after : List Char) :
    lowercaseAt before c after = [c.toLower] := by
  have hsigma : c ≠ 'Σ' := by
    rintro rfl
    revert h
    decide
  have hdotted : c ≠ 'İ' := by
    rintro rfl
    revert h
    decide
  rw [lowercaseAt, if_neg hsigma, if_neg hdotted, lowercaseChar, if_pos h]

/-- The Kelvin sign has the lowercase form of the letter that it looks like. -/
theorem lowercaseAt_kelvin (before after : List Char) :
    lowercaseAt before '\u212a' after = ['k'] := by
  have hchar : lowercaseChar '\u212a' = 'k' := by decide
  rw [lowercaseAt, if_neg (by decide), if_neg (by decide), hchar]

/-- A lowercase form has no characters of ASCII, unless it is that of one of them, or of `İ` or the
Kelvin sign. -/
theorem exists_ascii_lowercaseAt_iff {before after : List Char} {c : Char} :
    (∃ x ∈ lowercaseAt before c after, x.toNat < 0x80) ↔
      c.toNat < 0x80 ∨ c = 'İ' ∨ c = '\u212a' := by
  constructor
  · rintro ⟨x, hx, hascii⟩
    by_contra hother
    push Not at hother
    obtain ⟨hle, hdotted, hkelvin⟩ := hother
    have hlong : 0x80 ≤ (lowercaseChar c).toNat := (le_toNat_lowercaseChar hle).resolve_right hkelvin
    unfold lowercaseAt at hx
    split at hx
    · split at hx
      · rw [List.mem_singleton.1 hx] at hascii
        revert hascii
        decide
      · rw [List.mem_singleton.1 hx] at hascii
        revert hascii
        decide
    · rw [List.mem_singleton.1 hx] at hascii
      exact absurd hascii (Nat.not_lt.2 hlong)
  · rintro (h | rfl | rfl)
    · rw [lowercaseAt_of_ascii h]
      have hlower : c.toLower.toNat < 0x80 :=
        ascii_forall (p := fun c => c.toLower.toNat < 0x80) (by decide) h
      exact ⟨c.toLower, List.mem_singleton_self _, hlower⟩
    · exact ⟨'i', List.mem_cons_self, by decide⟩
    · rw [lowercaseAt_kelvin]
      exact ⟨'k', List.mem_singleton_self _, by decide⟩

/-- Whether a character is its own lowercase form wherever it stands. -/
def isSettled (c : Char) : Bool :=
  c ≠ 'Σ' && c ≠ 'İ' && lowercaseChar c = c

theorem isSettled_iff {c : Char} :
    isSettled c = true ↔ c ≠ 'Σ' ∧ c ≠ 'İ' ∧ lowercaseChar c = c := by
  simp [isSettled, and_assoc]

/-- Whether a run leads to no member of another one: it leads past it, or both take every second
code point and never meet. -/
def leadsPast (run other : Nat × Nat × Nat × Nat) : Bool :=
  run.2.2.2 + (run.2.1 - run.1) < other.1 || other.2.1 < run.2.2.2 ||
    (other.2.2.1 == 2 && (run.2.2.1 == 2 || run.1 == run.2.1) && (run.2.2.2 + other.1) % 2 == 1)

theorem not_isInRun_of_leadsPast {run other : Nat × Nat × Nat × Nat}
    (h : leadsPast run other = true) {n : Nat} (hn : IsInRun run n) :
    ¬ IsInRun other (run.2.2.2 + (n - run.1)) := by
  obtain ⟨hfirst, hlast, hstep⟩ := hn
  rintro ⟨hfirst', hlast', hstep'⟩
  simp only [leadsPast, Bool.or_eq_true, Bool.and_eq_true, decide_eq_true_eq, beq_iff_eq] at h
  rcases h with (hbefore | hbehind) | ⟨⟨hother, hrun⟩, hodd⟩
  · omega
  · omega
  · rw [hother] at hstep'
    rcases hrun with hrun | hrun
    · rw [hrun] at hstep
      omega
    · omega

/-- No run leads to a member of a run, nor to `İ`. -/
theorem leadsPast_of_mem : (lowercaseRuns.all fun run =>
    ((0x130, 0x130, 1, 0x69) :: lowercaseRuns).all (leadsPast run)) = true := by
  decide +kernel

/-- The lowercase form of a character other than `Σ` and `İ` is settled. -/
theorem isSettled_lowercaseChar {c : Char} (hsigma : c ≠ 'Σ') (hdotted : c ≠ 'İ') :
    isSettled (lowercaseChar c) = true := by
  by_cases hascii : c.toNat < 0x80
  · exact ascii_forall (p := fun c => isSettled (lowercaseChar c) = true) (by decide) hascii
  · have hle : 0x80 ≤ c.toNat := Nat.not_lt.1 hascii
    rcases le_toNat_lowercaseChar hle with hform | rfl
    · rcases lowercaseChar_cases hle with ⟨hself, _⟩ | ⟨run, hrun, hin, heq⟩
      · rw [isSettled_iff, hself]
        exact ⟨hsigma, hdotted, hself⟩
      · have hcode : (lowercaseChar c).toNat = run.2.2.2 + (c.toNat - run.1) := by
          rw [heq, toNat_ofNat_form hrun hin]
        have hpast : ∀ other ∈ (0x130, 0x130, 1, 0x69) :: lowercaseRuns,
            ¬ IsInRun other (lowercaseChar c).toNat := fun other hother => by
          rw [hcode]
          have hleads := List.all_eq_true.1 (List.all_eq_true.1 leadsPast_of_mem run hrun)
          exact not_isInRun_of_leadsPast (hleads other hother) hin
        -- `Σ` is a member of a run, and `İ` makes one of its own here.
        refine isSettled_iff.2 ⟨?_, ?_, ?_⟩
        · intro hmem
          rw [hmem] at hpast
          exact hpast (0x3a3, 0x3ab, 1, 0x3c3) (by decide) (by decide)
        · intro hmem
          rw [hmem] at hpast
          exact hpast _ List.mem_cons_self (by decide)
        · rcases lowercaseChar_cases hform with ⟨hself, _⟩ | ⟨other, hother, hin', _⟩
          · exact hself
          · exact absurd hin' (hpast other (List.mem_cons_of_mem _ hother))
    · decide

/-- Every character of a lowercase form is settled. -/
theorem isSettled_of_mem_lowercaseAt {before after : List Char} {c x : Char}
    (h : x ∈ lowercaseAt before c after) : isSettled x = true := by
  unfold lowercaseAt at h
  split at h
  · split at h
    · rw [List.mem_singleton.1 h]
      decide
    · rw [List.mem_singleton.1 h]
      decide
  · split at h
    · rcases List.mem_cons.1 h with rfl | h
      · decide
      · rw [List.mem_singleton.1 h]
        decide
    · rename_i hsigma hdotted
      rw [List.mem_singleton.1 h]
      exact isSettled_lowercaseChar hsigma hdotted

theorem isSettled_of_mem_lowercaseFrom {before cs : List Char} {x : Char}
    (h : x ∈ lowercaseFrom before cs) : isSettled x = true := by
  induction cs generalizing before with
  | nil => cases h
  | cons c rest ih =>
      rcases List.mem_append.1 h with hfirst | hrest
      · exact isSettled_of_mem_lowercaseAt hfirst
      · exact ih hrest

/-- Lowercasing leaves settled characters as they are. -/
theorem lowercaseFrom_eq_self {cs : List Char} (h : ∀ c ∈ cs, isSettled c = true)
    (before : List Char) : lowercaseFrom before cs = cs := by
  induction cs generalizing before with
  | nil => rfl
  | cons c rest ih =>
      obtain ⟨hc, hrest⟩ := List.forall_mem_cons.1 h
      obtain ⟨hsigma, hdotted, hself⟩ := isSettled_iff.1 hc
      rw [lowercaseFrom, ih hrest, lowercaseAt, if_neg hsigma, if_neg hdotted, hself]
      rfl

/-- A character of ASCII that is no letter is the lowercase form of itself and of nothing else. -/
theorem lowercaseChar_eq_iff {mark c : Char} (hascii : mark.toNat < 0x80)
    (hletter : mark.isAlpha = false) : lowercaseChar c = mark ↔ c = mark := by
  by_cases hc : c.toNat < 0x80
  · rw [lowercaseChar, if_pos hc]
    by_cases hupper : c.isUpper = true
    · -- Capitals become letters, and `mark` is none.
      have halpha : c.isAlpha = true := by rw [Char.isAlpha, hupper, Bool.true_or]
      have hlower : c.toLower.isAlpha = true := by rw [Char.isAlpha_toLower_eq_isAlpha, halpha]
      constructor <;> rintro rfl
      · rw [hlower] at hletter
        cases hletter
      · rw [halpha] at hletter
        cases hletter
    · rw [Char.toLower_eq_of_not_isUpper hupper]
  · have hle : 0x80 ≤ c.toNat := Nat.not_lt.1 hc
    constructor
    · rintro rfl
      rcases le_toNat_lowercaseChar hle with hform | rfl
      · exact absurd hascii (Nat.not_lt.2 hform)
      · revert hletter
        decide
    · rintro rfl
      exact absurd hascii hc

theorem count_lowercaseAt {mark : Char} (hascii : mark.toNat < 0x80)
    (hletter : mark.isAlpha = false) (before : List Char) (c : Char) (after : List Char) :
    (lowercaseAt before c after).count mark = [c].count mark := by
  have hne (d : Char) (hd : d.isAlpha = true ∨ 0x80 ≤ d.toNat) : d ≠ mark := by
    rintro rfl
    rcases hd with halpha | hle
    · rw [hletter] at halpha
      cases halpha
    · exact absurd hascii (Nat.not_lt.2 hle)
  unfold lowercaseAt
  split
  · rename_i hsigma
    have hfinal : ['ς'].count mark = 0 := by simp [hne 'ς' (by decide)]
    have hinner : ['σ'].count mark = 0 := by simp [hne 'σ' (by decide)]
    have hcapital : ['Σ'].count mark = 0 := by simp [hne 'Σ' (by decide)]
    rw [hsigma, hcapital]
    split
    · exact hfinal
    · exact hinner
  · split
    · rename_i hdotted
      simp [hdotted, hne 'İ' (by decide), hne 'i' (by decide), hne '\u0307' (by decide)]
    · rw [List.count_singleton, List.count_singleton]
      simp [lowercaseChar_eq_iff hascii hletter]

/-- So a lowercase form has such a character exactly as often as the text. -/
theorem count_lowercaseFrom {mark : Char} (hascii : mark.toNat < 0x80)
    (hletter : mark.isAlpha = false) (before cs : List Char) :
    (lowercaseFrom before cs).count mark = cs.count mark := by
  induction cs generalizing before with
  | nil => rfl
  | cons c rest ih =>
      rw [lowercaseFrom, List.count_append, count_lowercaseAt hascii hletter, ih,
        ← List.count_append]
      rfl

end WaterRegistry
