import WaterRegistry.Text.Normal

/-!
# Words and single spaces

Collapsing runs of white space goes through a text once, and writes a space where a run begins.  The
text that comes out is the words of the text with single spaces between them, as long as the text
neither begins nor ends in white space.  Nothing but white space is taken away, and collapsing a
second time changes nothing.
-/

namespace WaterRegistry

/-- The words of a text: what runs of white space separate in it. -/
def words (cs : List Char) : List (List Char) :=
  (cs.splitOnP isRunSpace).filter (· ≠ [])

@[simp] theorem words_nil : words [] = [] := by
  simp [words]

/-- White space ends a word, and belongs to none. -/
theorem words_append_cons {c : Char} (hc : isRunSpace c = true) (xs ys : List Char) :
    words (xs ++ c :: ys) = words xs ++ words ys := by
  rw [words, List.splitOnP_append_cons xs ys hc, List.filter_append]
  rfl

theorem words_cons {c : Char} (hc : isRunSpace c = true) (cs : List Char) :
    words (c :: cs) = words cs := by
  simpa using words_append_cons hc [] cs

/-- A text without white space is one word. -/
theorem words_eq_singleton {cs : List Char} (hne : cs ≠ [])
    (h : ∀ c ∈ cs, isRunSpace c = false) : words cs = [cs] := by
  rw [words, List.splitOnP_eq_singleton h]
  simp [hne]

/-- Another character starts a word. -/
theorem exists_words_cons {c : Char} (hc : isRunSpace c = false) (cs : List Char) :
    ∃ word others, words (c :: cs) = (c :: word) :: others := by
  obtain ⟨word, others, hsplit⟩ := List.exists_cons_of_ne_nil (List.splitOnP_ne_nil isRunSpace cs)
  refine ⟨word, others.filter (· ≠ []), ?_⟩
  rw [words, List.splitOnP_cons_eq_if_modifyHead, hsplit]
  simp [hc]

/-- In front of a word it goes on to the left. -/
theorem exists_words_cons_cons {c d : Char} (hc : isRunSpace c = false)
    (hd : isRunSpace d = false) (cs : List Char) :
    ∃ word others,
      words (d :: cs) = word :: others ∧ words (c :: d :: cs) = (c :: word) :: others := by
  obtain ⟨word, others, hsplit⟩ := List.exists_cons_of_ne_nil (List.splitOnP_ne_nil isRunSpace cs)
  refine ⟨d :: word, others.filter (· ≠ []), ?_, ?_⟩
  · rw [words, List.splitOnP_cons_eq_if_modifyHead, hsplit]
    simp [hd]
  · rw [words, List.splitOnP_cons_eq_if_modifyHead, List.splitOnP_cons_eq_if_modifyHead, hsplit]
    simp [hc, hd]

theorem words_ne_nil {cs : List Char} {c : Char} (hmem : c ∈ cs) (hc : isRunSpace c = false) :
    words cs ≠ [] := by
  induction cs with
  | nil => cases hmem
  | cons d rest ih =>
      cases hd : isRunSpace d with
      | true =>
          rw [words_cons hd]
          rcases List.mem_cons.1 hmem with rfl | hrest
          · rw [hd] at hc
            cases hc
          · exact ih hrest
      | false =>
          obtain ⟨word, others, hwords⟩ := exists_words_cons hd rest
          simp [hwords]

/-- A text that does not end in white space is collapsed to its words with single spaces between
them, and a space in front if there has been white space there and no run has begun. -/
theorem collapseFrom_eq_words {cs : List Char}
    (hlast : ∀ c, cs.getLast? = some c → isRunSpace c = false) :
    collapseFrom true cs = [' '].intercalate (words cs) ∧
      collapseFrom false cs =
        (if cs.head?.any isRunSpace then [' '] else []) ++ [' '].intercalate (words cs) := by
  induction cs with
  | nil => simp [collapseFrom]
  | cons c rest ih =>
      have hrest : ∀ d, rest.getLast? = some d → isRunSpace d = false := by
        intro d hd
        apply hlast
        rw [List.getLast?_cons, hd, Option.getD_some]
      obtain ⟨htrue, hfalse⟩ := ih hrest
      cases hc : isRunSpace c with
      | true => simp [collapseFrom, words_cons, hc, htrue]
      | false =>
          have hkeep : c :: collapseFrom false rest = [' '].intercalate (words (c :: rest)) := by
            cases rest with
            | nil =>
                have hword : words [c] = [[c]] := words_eq_singleton (by simp) (by simpa using hc)
                rw [hword, List.intercalate_singleton]
                rfl
            | cons d more =>
                cases hd : isRunSpace d with
                | true =>
                    -- The word ends here, and there is another one behind the white space.
                    obtain ⟨last, hend⟩ : ∃ last, (d :: more).getLast? = some last :=
                      ⟨_, List.getLast?_eq_some_getLast (by simp)⟩
                    obtain ⟨word, others, hwords⟩ := List.exists_cons_of_ne_nil
                      (words_ne_nil (List.mem_of_getLast? hend) (hrest last hend))
                    have hcut : words (c :: d :: more) = [c] :: word :: others := by
                      have hword : words [c] = [[c]] :=
                        words_eq_singleton (by simp) (by simpa using hc)
                      calc words (c :: d :: more) = words [c] ++ words more :=
                            words_append_cons hd [c] more
                        _ = [c] :: words (d :: more) := by rw [hword, words_cons hd]; rfl
                        _ = [c] :: word :: others := by rw [hwords]
                    rw [hfalse, hcut, hwords, List.intercalate_cons_cons]
                    simp [hd]
                | false =>
                    obtain ⟨word, others, hwords, hlonger⟩ := exists_words_cons_cons hc hd more
                    rw [hfalse, hlonger, hwords]
                    cases others <;> simp [hd, List.intercalate_cons_cons]
          simp [collapseFrom, hc, hkeep]

/-- A text without white space at its ends is collapsed to its words with single spaces between
them. -/
theorem collapse_eq_words {cs : List Char}
    (hends : ∀ c, cs.head? = some c ∨ cs.getLast? = some c → isRunSpace c = false) :
    collapse cs = [' '].intercalate (words cs) := by
  rw [collapse, (collapseFrom_eq_words fun c hlast => hends c (.inr hlast)).2]
  cases hhead : cs.head? with
  | none => rfl
  | some c => simp [hends c (.inl hhead)]

/-- Collapsing brings in nothing but spaces, and leaves no other white space. -/
theorem mem_collapseFrom {inRun : Bool} {cs : List Char} {c : Char}
    (h : c ∈ collapseFrom inRun cs) : c = ' ' ∨ c ∈ cs ∧ isRunSpace c = false := by
  induction cs generalizing inRun with
  | nil => cases h
  | cons d rest ih =>
      have hrest {inRun : Bool} (hmem : c ∈ collapseFrom inRun rest) :
          c = ' ' ∨ c ∈ d :: rest ∧ isRunSpace c = false :=
        (ih hmem).imp_right (And.imp_left (List.mem_cons_of_mem _))
      rw [collapseFrom] at h
      split at h
      · split at h
        · exact hrest h
        · exact (List.mem_cons.1 h).elim .inl hrest
      · rename_i hd
        rcases List.mem_cons.1 h with rfl | hmem
        · exact .inr ⟨List.mem_cons_self, by simpa using hd⟩
        · exact hrest hmem

/-- All that is no white space is kept, in its order. -/
theorem filter_collapseFrom {q : Char → Bool} (h : ∀ c, isRunSpace c = true → q c = false)
    (inRun : Bool) (cs : List Char) : (collapseFrom inRun cs).filter q = cs.filter q := by
  have hblank : q ' ' = false := h ' ' rfl
  induction cs generalizing inRun with
  | nil => rfl
  | cons c rest ih =>
      rw [collapseFrom]
      split
      · rename_i hspace
        have hc : q c = false := h c hspace
        split <;> simp [ih, hc, hblank]
      · rw [List.filter_cons, List.filter_cons, ih]

/-- Once a run has begun, no space comes first. -/
theorem head?_collapseFrom_true_ne (cs : List Char) : (collapseFrom true cs).head? ≠ some ' ' := by
  induction cs with
  | nil => simp [collapseFrom]
  | cons c rest ih =>
      rw [collapseFrom]
      split
      · simpa using ih
      · rename_i hc
        intro hhead
        rw [List.head?_cons, Option.some.injEq] at hhead
        rw [hhead] at hc
        exact hc rfl

/-- No two spaces stand side by side. -/
theorem not_infix_collapseFrom (inRun : Bool) (cs : List Char) :
    ¬ [' ', ' '] <:+: collapseFrom inRun cs := by
  induction cs generalizing inRun with
  | nil => simp [collapseFrom]
  | cons c rest ih =>
      rw [collapseFrom]
      split
      · split
        · exact ih true
        · intro hinfix
          rcases List.infix_cons_iff.1 hinfix with hprefix | hrest
          · obtain ⟨more, hmore⟩ := (List.cons_prefix_cons.1 hprefix).2
            apply head?_collapseFrom_true_ne rest
            rw [← hmore]
            rfl
          · exact ih true hrest
      · rename_i hc
        intro hinfix
        rcases List.infix_cons_iff.1 hinfix with hprefix | hrest
        · rw [← (List.cons_prefix_cons.1 hprefix).1] at hc
          exact hc rfl
        · exact ih false hrest

/-- A text that neither begins nor ends in white space keeps its ends. -/
theorem head?_collapseFrom {cs : List Char}
    (h : ∀ c, cs.head? = some c → isRunSpace c = false) (inRun : Bool) :
    (collapseFrom inRun cs).head? = cs.head? := by
  cases cs with
  | nil => rfl
  | cons c rest =>
      have hc : isRunSpace c = false := h c rfl
      simp [collapseFrom, hc]

theorem getLast?_collapseFrom {cs : List Char}
    (h : ∀ c, cs.getLast? = some c → isRunSpace c = false) (inRun : Bool) :
    (collapseFrom inRun cs).getLast? = cs.getLast? := by
  induction cs generalizing inRun with
  | nil => rfl
  | cons c rest ih =>
      cases hend : rest.getLast? with
      | none =>
          obtain rfl := List.getLast?_eq_none_iff.1 hend
          have hc : isRunSpace c = false := h c rfl
          simp [collapseFrom, hc]
      | some last =>
          have hwhole : (c :: rest).getLast? = some last := by
            rw [List.getLast?_cons, hend, Option.getD_some]
          have hkept (inRun : Bool) : (collapseFrom inRun rest).getLast? = some last := by
            rw [ih (fun d hd => h d (by rw [hwhole, ← hend, hd])) inRun, hend]
          rw [hwhole, collapseFrom]
          split
          · split
            · exact hkept true
            · rw [List.getLast?_cons, hkept, Option.getD_some]
          · rw [List.getLast?_cons, hkept, Option.getD_some]

/-- What has been collapsed is not collapsed any further. -/
theorem collapseFrom_collapseFrom (cs : List Char) :
    (∀ inRun, collapseFrom inRun (collapseFrom true cs) = collapseFrom true cs) ∧
      collapseFrom false (collapseFrom false cs) = collapseFrom false cs := by
  induction cs with
  | nil => exact ⟨fun _ => rfl, rfl⟩
  | cons c rest ih =>
      obtain ⟨htrue, hfalse⟩ := ih
      have hblank : isRunSpace ' ' = true := rfl
      cases hc : isRunSpace c with
      | true => simp [collapseFrom, hc, hblank, htrue]
      | false => simp [collapseFrom, hc, hfalse]

theorem collapse_collapse (cs : List Char) : collapse (collapse cs) = collapse cs :=
  (collapseFrom_collapseFrom cs).2

end WaterRegistry
