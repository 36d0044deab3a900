import Mathlib.Data.List.DropRight
import WaterRegistry.Text.Blank
import WaterRegistry.Text.Split

/-!
# Margins and pieces of a text

Trimming takes the margins of a list away, and cutting separates it into pieces.  The two meet where
a line is trimmed before it is cut: a separator that does not belong to the margins keeps them
apart, so that only the first piece loses something at its start, and only the last one at its end.
-/

namespace WaterRegistry

/-- The pieces of a list are those that the library cuts it into. -/
theorem pieces_eq_splitOn (sep : Char) (cs : List Char) : pieces sep cs = cs.splitOn sep := by
  induction cs with
  | nil => rfl
  | cons c rest ih =>
      rw [List.splitOn_cons_eq_if_modifyHead, pieces, ih, beq_eq_decide]
      by_cases h : c = sep
      · simp [h]
      · cases hrest : rest.splitOn sep with
        | nil => exact absurd hrest (List.splitOn_ne_nil sep rest)
        | cons piece more => simp [h]

/-- The pieces have no characters but those of the list. -/
theorem subset_of_mem_pieces {sep : Char} {cs piece : List Char} (h : piece ∈ pieces sep cs) :
    piece ⊆ cs := by
  induction cs generalizing piece with
  | nil => simp_all [pieces]
  | cons c rest ih =>
      unfold pieces at h
      split at h
      · rcases List.mem_cons.1 h with rfl | h
        · exact List.nil_subset _
        · exact List.subset_cons_of_subset c (ih h)
      · split at h
        · rename_i heq
          exact absurd heq (pieces_ne_nil sep rest)
        · rename_i first more heq
          rcases List.mem_cons.1 h with rfl | h
          · exact List.cons_subset_cons c (ih (by simp [heq]))
          · exact List.subset_cons_of_subset c (ih (by simp [heq, h]))

/-- The first piece of a list is what stands before the first separator. -/
theorem exists_splitOn_eq (sep : Char) (cs : List Char) :
    ∃ more, cs.splitOn sep = cs.takeWhile (· ≠ sep) :: more := by
  induction cs with
  | nil => exact ⟨[], rfl⟩
  | cons c rest ih =>
      obtain ⟨more, hmore⟩ := ih
      rw [List.splitOn_cons_eq_if_modifyHead]
      by_cases h : c = sep
      · exact ⟨rest.splitOn sep, by simp [h]⟩
      · exact ⟨more, by simp [h, hmore]⟩

/-- The last piece is what stands behind the last separator, and takes what is added at the end. -/
theorem exists_splitOn_append (sep : Char) (cs : List Char) :
    ∃ front, ∀ ys : List Char, sep ∉ ys →
      (cs ++ ys).splitOn sep = front ++ [cs.rtakeWhile (· ≠ sep) ++ ys] := by
  have hlast : sep ∉ cs.rtakeWhile (· ≠ sep) := fun hmem => by
    simpa using List.mem_rtakeWhile_imp hmem
  have hsingle : ∀ ys : List Char, sep ∉ ys →
      (cs.rtakeWhile (· ≠ sep) ++ ys).splitOn sep = [cs.rtakeWhile (· ≠ sep) ++ ys] :=
    fun ys hys => List.splitOn_eq_singleton (List.not_mem_append hlast hys)
  have hparts : cs.rdropWhile (· ≠ sep) ++ cs.rtakeWhile (· ≠ sep) = cs :=
    List.rdropWhile_append_rtakeWhile
  have hstop := List.rdropWhile_last_not (· ≠ sep) cs
  -- Either there is no separator, or the last one stands right before the last piece.
  rcases List.eq_nil_or_concat' (cs.rdropWhile (· ≠ sep)) with hnone | ⟨start, c, hsome⟩
  · refine ⟨[], fun ys hys => ?_⟩
    rw [hnone, List.nil_append] at hparts
    rw [List.nil_append, ← hsingle ys hys, hparts]
  · rw [hsome] at hparts hstop
    obtain rfl : c = sep := by simpa using hstop (by simp)
    refine ⟨start.splitOn c, fun ys hys => ?_⟩
    rw [← hsingle ys hys, ← List.splitOn_append_cons_self, ← List.singleton_append,
      ← List.append_assoc, ← List.append_assoc, hparts]

/-- A separator that `p` does not take away stops taking away at the start. -/
theorem dropWhile_append_cons {p : Char → Bool} {c : Char} (hc : p c = false)
    (xs ys : List Char) : (xs ++ c :: ys).dropWhile p = xs.dropWhile p ++ c :: ys := by
  rw [List.dropWhile_append]
  split
  · rename_i hempty
    rw [List.isEmpty_iff.1 hempty, List.dropWhile_cons, hc]
    rfl
  · rfl

theorem rdropWhile_append_cons {p : Char → Bool} {c : Char} (hc : p c = false)
    (xs ys : List Char) : (xs ++ c :: ys).rdropWhile p = xs ++ c :: ys.rdropWhile p := by
  have hreverse : (xs ++ c :: ys).reverse = ys.reverse ++ c :: xs.reverse := by simp
  rw [List.rdropWhile, hreverse, dropWhile_append_cons hc, List.rdropWhile]
  simp

theorem trimList_append_cons {p : Char → Bool} {c : Char} (hc : p c = false)
    (xs ys : List Char) :
    trimList p (xs ++ c :: ys) = xs.dropWhile p ++ c :: ys.rdropWhile p := by
  rw [trimList, dropWhile_append_cons hc]
  exact rdropWhile_append_cons hc _ _

/-- Margins that are added at the start are taken away again. -/
theorem trimList_append_of_forall {p : Char → Bool} {xs : List Char} (h : ∀ c ∈ xs, p c = true)
    (ys : List Char) : trimList p (xs ++ ys) = trimList p ys := by
  rw [trimList, List.dropWhile_append_of_pos h, trimList]

/-- So are margins that are added at the end. -/
theorem trimList_append_of_forall_right {p : Char → Bool} {ys : List Char}
    (h : ∀ c ∈ ys, p c = true) (xs : List Char) : trimList p (xs ++ ys) = trimList p xs := by
  rw [trimList, trimList, List.dropWhile_append]
  split
  · -- Nothing but margins is left, so the whole list is taken away.
    rename_i hempty
    rw [List.isEmpty_iff.1 hempty, List.dropWhile_eq_nil_iff.2 h]
  · have hreverse : ∀ c ∈ ys.reverse, p c = true := fun c hc => h c (List.mem_reverse.1 hc)
    rw [List.reverse_append, List.dropWhile_append_of_pos hreverse]

/-- A trimmed list has no margin at its start. -/
theorem dropWhile_trimList (p : Char → Bool) (cs : List Char) :
    (trimList p cs).dropWhile p = trimList p cs := by
  have htrim : trimList p cs <+: cs.dropWhile p := List.rdropWhile_prefix p _
  cases hcs : trimList p cs with
  | nil => rfl
  | cons c rest =>
      obtain ⟨more, hmore⟩ := htrim
      rw [hcs, List.cons_append] at hmore
      have hc : p c = false := by
        have hhead := List.head_dropWhile_not p (l := cs) (by simp [← hmore])
        simpa [← hmore] using hhead
      rw [List.dropWhile_cons, hc]
      rfl

/-- Nor does it have one at its end. -/
theorem rdropWhile_trimList (p : Char → Bool) (cs : List Char) :
    (trimList p cs).rdropWhile p = trimList p cs :=
  List.rdropWhile_idempotent p (cs.dropWhile p)

theorem trimList_trimList (p : Char → Bool) (cs : List Char) :
    trimList p (trimList p cs) = trimList p cs := by
  calc trimList p (trimList p cs) = ((trimList p cs).dropWhile p).rdropWhile p := rfl
    _ = trimList p cs := by rw [dropWhile_trimList, rdropWhile_trimList]

/-- A list without a margin at its start has none when it is cut off. -/
theorem dropWhile_takeWhile_eq_self {p : Char → Bool} {cs : List Char} (h : cs.dropWhile p = cs)
    (q : Char → Bool) : (cs.takeWhile q).dropWhile p = cs.takeWhile q := by
  rw [List.dropWhile_eq_self_iff] at h ⊢
  intro hne
  have hcs : 0 < cs.length := hne.trans_le (List.takeWhile_prefix q).length_le
  rw [(List.takeWhile_prefix q).getElem hne]
  exact h hcs

/-- A list without a margin at its end has none when something is cut off in front. -/
theorem rdropWhile_eq_self_of_suffix {p : Char → Bool} {cs ys : List Char}
    (h : cs.rdropWhile p = cs) (hsuffix : ys <:+ cs) : ys.rdropWhile p = ys := by
  rw [List.rdropWhile_eq_self_iff] at h ⊢
  intro hne
  have hcs : cs ≠ [] := by
    rintro rfl
    exact hne (List.suffix_nil.1 hsuffix)
  rw [hsuffix.getLast hne]
  exact h hcs

/-- A list is its trimmed list between two margins. -/
theorem exists_margins (p : Char → Bool) (cs : List Char) :
    ∃ front back, cs = front ++ trimList p cs ++ back ∧ ∀ c ∈ front ++ back, p c = true := by
  refine ⟨cs.takeWhile p, (cs.dropWhile p).rtakeWhile p, ?_, ?_⟩
  · have hright : trimList p cs ++ (cs.dropWhile p).rtakeWhile p = cs.dropWhile p :=
      List.rdropWhile_append_rtakeWhile
    rw [List.append_assoc, hright, List.takeWhile_append_dropWhile]
  · intro c hc
    rcases List.mem_append.1 hc with hc | hc
    · exact List.mem_takeWhile_imp hc
    · exact List.mem_rtakeWhile_imp hc

/-- A list without margins at its ends is trimmed. -/
theorem trimList_eq_self_iff {p : Char → Bool} {cs : List Char} :
    trimList p cs = cs ↔ ∀ c, cs.head? = some c ∨ cs.getLast? = some c → p c = false := by
  constructor
  · intro htrim
    have hstart : cs.dropWhile p = cs := by
      rw [← htrim, dropWhile_trimList]
    have hright : cs.rdropWhile p = cs := by
      calc cs.rdropWhile p = (cs.dropWhile p).rdropWhile p := by rw [hstart]
        _ = cs := htrim
    rintro c (hhead | hlast)
    · obtain ⟨rest, rfl⟩ := List.head?_eq_some_iff.1 hhead
      exact Bool.eq_false_iff.2 (List.dropWhile_eq_self_iff.1 hstart (by simp))
    · obtain ⟨front, rfl⟩ := List.getLast?_eq_some_iff.1 hlast
      simpa using List.rdropWhile_eq_self_iff.1 hright (by simp)
  · intro hends
    have hstart : cs.dropWhile p = cs := by
      rw [List.dropWhile_eq_self_iff]
      intro hne
      have hhead : cs.head? = some cs[0] := by
        rw [List.head?_eq_getElem?, List.getElem?_eq_getElem hne]
      exact Bool.eq_false_iff.1 (hends _ (.inl hhead))
    have hright : cs.rdropWhile p = cs := by
      rw [List.rdropWhile_eq_self_iff]
      intro hne
      exact Bool.eq_false_iff.1 (hends _ (.inr (List.getLast?_eq_some_getLast hne)))
    calc trimList p cs = (cs.dropWhile p).rdropWhile p := rfl
      _ = cs := by rw [hstart, hright]

theorem filter_dropWhile {p q : Char → Bool} (h : ∀ c, p c = true → q c = false)
    (cs : List Char) : (cs.dropWhile p).filter q = cs.filter q := by
  have hnone : (cs.takeWhile p).filter q = [] :=
    List.filter_eq_nil_iff.2 fun c hmem => by simp [h c (List.mem_takeWhile_imp hmem)]
  rw [← List.takeWhile_append_dropWhile (p := p) (l := cs), List.filter_append, hnone]
  simp

/-- What is trimmed away does not count for a property that none of it has. -/
theorem filter_trimList {p q : Char → Bool} (h : ∀ c, p c = true → q c = false)
    (cs : List Char) : (trimList p cs).filter q = cs.filter q := by
  rw [trimList, List.filter_reverse, filter_dropWhile h, List.filter_reverse, List.reverse_reverse,
    filter_dropWhile h]

theorem count_trimList {p : Char → Bool} {c : Char} (hc : p c = false) (cs : List Char) :
    (trimList p cs).count c = cs.count c := by
  have hkept : ∀ d, p d = true → (d == c) = false := by
    intro d hd
    rw [beq_eq_false_iff_ne]
    rintro rfl
    rw [hc] at hd
    cases hd
  rw [List.count_eq_length_filter, List.count_eq_length_filter, filter_trimList hkept]

/-- A text without the white space at its start. -/
def trimStart (text : String) : String :=
  String.ofList (text.toList.dropWhile isBlank)

/-- A text without the white space at its end. -/
def trimEnd (text : String) : String :=
  String.ofList (text.toList.rdropWhile isBlank)

theorem trimStart_trim (text : String) : trimStart (trim text) = trim text := by
  simp only [trimStart, trim, String.toList_ofList, dropWhile_trimList]

end WaterRegistry
