import WaterRegistry.Proofs.Text.Collapse
import WaterRegistry.Proofs.Text.Lowercase
import WaterRegistry.Proofs.Text.Margins

/-!
# What a normal form is

A normal form is the lowercase text of the name without its margins, cut at white space and joined
again with single spaces.  Margins and white space are not the same characters: every control
character up to the space is taken away at the ends of a name, and only six of them are white space
inside.  As a normal form is lowercase, has no margins and has no runs, it is its own normal form.
-/

namespace WaterRegistry

theorem isMargin_iff {c : Char} : isMargin c = true ↔ c ≤ ' ' := by
  simp [isMargin]

theorem isMargin_eq_false_iff {c : Char} : isMargin c = false ↔ ' ' < c := by
  simp [isMargin]

theorem isRunSpace_iff {c : Char} :
    isRunSpace c = true ↔ c = ' ' ∨ c ∈ ['\t', '\n', '\x0b', '\x0c', '\r'] := by
  simp [isRunSpace, or_assoc]

theorem isMargin_of_isRunSpace {c : Char} (h : isRunSpace c = true) : isMargin c = true := by
  simp only [isRunSpace_iff, List.mem_cons, List.not_mem_nil, or_false] at h
  rcases h with rfl | rfl | rfl | rfl | rfl | rfl <;> rfl

theorem isRunSpace_eq_false_of_isMargin {c : Char} (h : isMargin c = false) :
    isRunSpace c = false := by
  rw [Bool.eq_false_iff] at h ⊢
  exact mt isMargin_of_isRunSpace h

/-- The lowercase text of a name without its margins. -/
def core (name : String) : List Char :=
  trimList isMargin (lowercase name).toList

theorem toList_normalize (name : String) : (normalize name).toList = collapse (core name) := by
  rw [normalize, String.toList_ofList, core]

theorem isMargin_core_ends (name : String) :
    ∀ c, (core name).head? = some c ∨ (core name).getLast? = some c → isMargin c = false :=
  trimList_eq_self_iff.1 (trimList_trimList isMargin (lowercase name).toList)

theorem isRunSpace_core_ends (name : String) :
    ∀ c, (core name).head? = some c ∨ (core name).getLast? = some c → isRunSpace c = false :=
  fun c hc => isRunSpace_eq_false_of_isMargin (isMargin_core_ends name c hc)

/-- Collapsing leaves the ends of the core where they are. -/
theorem isMargin_normalize_ends (name : String) :
    ∀ c, (normalize name).toList.head? = some c ∨ (normalize name).toList.getLast? = some c →
      isMargin c = false := by
  have hspace := isRunSpace_core_ends name
  rw [toList_normalize, collapse, head?_collapseFrom fun c hc => hspace c (.inl hc),
    getLast?_collapseFrom fun c hc => hspace c (.inr hc)]
  exact isMargin_core_ends name

theorem isSettled_of_mem_normalize {name : String} {c : Char}
    (h : c ∈ (normalize name).toList) : isSettled c = true := by
  rw [toList_normalize] at h
  rcases mem_collapseFrom h with rfl | ⟨hcore, _⟩
  · decide
  · obtain ⟨front, back, hmargins, _⟩ := exists_margins isMargin (lowercase name).toList
    have hlower : c ∈ (lowercase name).toList := by
      rw [hmargins]
      exact List.mem_append_left back (List.mem_append_right front hcore)
    rw [lowercase, String.toList_ofList] at hlower
    exact isSettled_of_mem_lowercaseFrom hlower

/-- A normal form is its own core. -/
theorem core_normalize (name : String) : core (normalize name) = (normalize name).toList := by
  rw [core, lowercase, String.toList_ofList,
    lowercaseFrom_eq_self fun c hc => isSettled_of_mem_normalize hc]
  exact trimList_eq_self_iff.2 (isMargin_normalize_ends name)

theorem normalize_normalize (name : String) : normalize (normalize name) = normalize name := by
  rw [← String.toList_inj, toList_normalize, core_normalize, toList_normalize, collapse_collapse]

/-- A mark of ASCII that is no letter and no margin is in a normal form as often as in the name. -/
theorem count_normalize {mark : Char} (hascii : mark.toNat < 0x80) (hletter : mark.isAlpha = false)
    (hmargin : isMargin mark = false) (name : String) :
    (normalize name).toList.count mark = name.toList.count mark := by
  have hkept (c : Char) (hc : isMargin c = true) : (c == mark) = false := by
    rw [beq_eq_false_iff_ne]
    rintro rfl
    rw [hc] at hmargin
    cases hmargin
  rw [toList_normalize, core, collapse, List.count_eq_length_filter,
    filter_collapseFrom fun c hc => hkept c (isMargin_of_isRunSpace hc), filter_trimList hkept,
    ← List.count_eq_length_filter, lowercase, String.toList_ofList,
    count_lowercaseFrom hascii hletter]

/-- The normal form of a name is what is left of its lowercase text between the margins, cut at
white space and joined with single spaces.  So it has no margins itself, no two spaces side by side
and no white space but the space; all other characters are those of the lowercase text, in their
order; and it is its own normal form. -/
theorem normalize_joins_words (name : String) :
    ∃ front inner back,
      (lowercase name).toList = front ++ inner ++ back ∧
      (∀ c ∈ front ++ back, c ≤ ' ') ∧
      (∀ c, inner.head? = some c ∨ inner.getLast? = some c → ' ' < c) ∧
      (normalize name).toList = [' '].intercalate (words inner) ∧
      (∀ c, (normalize name).toList.head? = some c ∨ (normalize name).toList.getLast? = some c →
        ' ' < c) ∧
      ¬ [' ', ' '] <:+: (normalize name).toList ∧
      (∀ c ∈ ['\t', '\n', '\x0b', '\x0c', '\r'], c ∉ (normalize name).toList) ∧
      (normalize name).toList.filter (!isRunSpace ·) = inner.filter (!isRunSpace ·) ∧
      normalize (normalize name) = normalize name := by
  obtain ⟨front, back, hwhole, hmargins⟩ := exists_margins isMargin (lowercase name).toList
  refine ⟨front, core name, back, hwhole, fun c hc => isMargin_iff.1 (hmargins c hc),
    fun c hc => isMargin_eq_false_iff.1 (isMargin_core_ends name c hc), ?_,
    fun c hc => isMargin_eq_false_iff.1 (isMargin_normalize_ends name c hc), ?_, ?_, ?_,
    normalize_normalize name⟩
  · rw [toList_normalize, collapse_eq_words (isRunSpace_core_ends name)]
  · rw [toList_normalize]
    exact not_infix_collapseFrom false (core name)
  · intro c hc hmem
    have hspace : isRunSpace c = true := isRunSpace_iff.2 (.inr hc)
    rw [toList_normalize] at hmem
    rcases mem_collapseFrom hmem with rfl | ⟨_, hkept⟩
    · exact absurd hc (by decide)
    · rw [hspace] at hkept
      cases hkept
  · have hdropped (c : Char) (hc : isRunSpace c = true) : (!isRunSpace c) = false := by
      rw [hc]
      rfl
    rw [toList_normalize]
    exact filter_collapseFrom hdropped false (core name)

-- Other control characters and the no-break space stay inside of a name.
example : normalize "\x01 ΟΔΟΣ\t\r\n \u00a0A\x1fİ\x7f\x1f " = "οδος \u00a0a\x1fi\u0307\x7f" := by
  decide +kernel

end WaterRegistry
