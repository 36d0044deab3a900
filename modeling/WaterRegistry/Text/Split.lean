/-!
# Splitting at a separator

`splitOnChar sep` cuts a text at every occurrence of a character.  There is always one piece more
than there are separators; no piece contains one, and joining the pieces gives the text back.
-/

namespace WaterRegistry

/-- The pieces of a list between occurrences of `sep`. -/
def pieces (sep : Char) : List Char → List (List Char)
  | [] => [[]]
  | c :: rest =>
    if c = sep then [] :: pieces sep rest
    else
      match pieces sep rest with
      | [] => [[c]]
      | piece :: more => (c :: piece) :: more

/-- The pieces of a text between occurrences of `sep`. -/
def splitOnChar (sep : Char) (text : String) : List String :=
  (pieces sep text.toList).map String.ofList

/-- There is always a piece. -/
theorem pieces_ne_nil (sep : Char) (cs : List Char) : pieces sep cs ≠ [] := by
  cases cs with
  | nil => simp [pieces]
  | cons c rest =>
      unfold pieces
      split
      · simp
      · split <;> simp

/-- No piece contains a separator. -/
theorem not_mem_of_mem_pieces {sep : Char} {cs piece : List Char} (h : piece ∈ pieces sep cs) :
    sep ∉ piece := by
  induction cs generalizing piece with
  | nil => simp_all [pieces]
  | cons c rest ih =>
      unfold pieces at h
      split at h
      · rcases List.mem_cons.1 h with rfl | h
        · simp
        · exact ih h
      · rename_i hc
        split at h
        · rename_i heq
          exact absurd heq (pieces_ne_nil sep rest)
        · rename_i piece' more heq
          rcases List.mem_cons.1 h with rfl | h
          · have : sep ∉ piece' := ih (by simp [heq])
            simp [this, Ne.symm hc]
          · exact ih (by simp [heq, h])

/-- There is one piece more than there are separators. -/
theorem length_pieces (sep : Char) (cs : List Char) :
    (pieces sep cs).length = cs.count sep + 1 := by
  induction cs with
  | nil => simp [pieces]
  | cons c rest ih =>
      unfold pieces
      split
      · rename_i hc
        simp [hc, ih]
      · rename_i hc
        split
        · rename_i heq
          exact absurd heq (pieces_ne_nil sep rest)
        · rename_i heq
          rw [heq] at ih
          simp_all

end WaterRegistry
