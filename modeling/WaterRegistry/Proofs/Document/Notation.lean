import WaterRegistry.Identifier.Field
import WaterRegistry.Proofs.Document.Writing
import WaterRegistry.Store.Basic

/-!
# Two notations for one place

The path of an identifier field is read twice: `pathKeys` reads the object keys below which a
generated value is written, and the store reads a pointer, `pointerOfPath`, to find the value that
has to be unique.  Both start from the segments between slashes.  Writing leaves empty segments out
and takes the others literally; a pointer keeps them all and resolves escapes.  On plain paths the
two readings agree, so the pointer finds what has been written.
-/

namespace WaterRegistry

theorem splitOnChar_ofList_cons_self (sep : Char) (cs : List Char) :
    splitOnChar sep (String.ofList (sep :: cs)) = "" :: splitOnChar sep (String.ofList cs) := by
  simp [splitOnChar, pieces]

theorem splitOnChar_ne_nil (sep : Char) (text : String) : splitOnChar sep text ≠ [] := by
  simp [splitOnChar, pieces_ne_nil]

namespace IdentifierField

/-- The segments of a path, one slash in front left aside. -/
def segments (field : IdentifierField) : List String :=
  splitOnChar '/' field.bareName

/-- A path in which every slash separates two keys, one in front excepted, and in which no key holds
an escape of pointers. -/
def IsPlain (field : IdentifierField) : Prop :=
  ∀ key ∈ field.segments,
    key ≠ "" ∧ ¬ ['~', '0'] <:+: key.toList ∧ ¬ ['~', '1'] <:+: key.toList

/-- A path either starts with a slash that is left aside, or is its own bare name. -/
theorem path_eq_or (field : IdentifierField) :
    (field.path.toList = '/' :: field.bareName.toList) ∨
      (field.path.toList.head? ≠ some '/' ∧ field.bareName = field.path) := by
  unfold bareName
  split
  · rename_i rest heq
    left
    rw [heq, String.toList_ofList]
  · rename_i hslash
    right
    refine ⟨?_, rfl⟩
    intro hhead
    cases hpath : field.path.toList with
    | nil => simp [hpath] at hhead
    | cons c rest =>
        rw [hpath, List.head?_cons, Option.some.injEq] at hhead
        exact hslash rest (by rw [hpath, hhead])

end IdentifierField

namespace Json

/-- The keys of a path are its segments without the empty ones. -/
theorem pathKeys_eq_filter_segments (path : String) :
    pathKeys path = (IdentifierField.segments ⟨path⟩).filter (· ≠ "") := by
  rcases IdentifierField.path_eq_or ⟨path⟩ with hslash | ⟨_, hbare⟩
  · have hpath : path = String.ofList ('/' :: (IdentifierField.bareName ⟨path⟩).toList) := by
      rw [← String.toList_inj, hslash, String.toList_ofList]
    rw [pathKeys]
    conv => lhs; rw [hpath]
    rw [splitOnChar_ofList_cons_self, String.ofList_toList]
    simp [IdentifierField.segments]
  · rw [pathKeys, IdentifierField.segments, hbare]

/-- A token that names no position in a list leads through objects only. -/
theorem step?_eq_get? {token : String} (h : tokenIndex? token = none) (document : Json) :
    document.step? token = document.get? token := by
  cases document with
  | arr items => rw [step?, h]; rfl
  | _ => rfl

theorem unescapeToken_eq_self {cs : List Char} (h0 : ¬ ['~', '0'] <:+: cs)
    (h1 : ¬ ['~', '1'] <:+: cs) : unescapeToken cs = cs := by
  fun_induction unescapeToken cs with
  | case1 rest ih => exact absurd (List.prefix_append ['~', '1'] rest).isInfix h1
  | case2 rest ih => exact absurd (List.prefix_append ['~', '0'] rest).isInfix h0
  | case3 c rest _ _ ih =>
      rw [ih (fun h => h0 (h.trans (List.suffix_cons c rest).isInfix))
        (fun h => h1 (h.trans (List.suffix_cons c rest).isInfix))]
  | case4 => rfl

theorem unescapeToken_of_tilde_not_mem {cs : List Char} (h : '~' ∉ cs) :
    unescapeToken cs = cs := by
  have hnone (c : Char) : ¬ ['~', c] <:+: cs := fun hpart => h (hpart.subset List.mem_cons_self)
  exact unescapeToken_eq_self (hnone '0') (hnone '1')

end Json

namespace Store

/-- The tokens by which the store reads a constrained path: its segments with escapes resolved. -/
def tokensOfPath (path : String) : List String :=
  (IdentifierField.segments ⟨path⟩).map fun segment =>
    String.ofList (Json.unescapeToken segment.toList)

theorem tokensOfPath_ne_nil (path : String) : tokensOfPath path ≠ [] := by
  simp [tokensOfPath, IdentifierField.segments, splitOnChar_ne_nil]

/-- The pointer of a path is its bare name behind one slash. -/
theorem pointerOfPath_eq (path : String) :
    pointerOfPath path = String.ofList ('/' :: (IdentifierField.bareName ⟨path⟩).toList) := by
  unfold pointerOfPath
  rw [← String.toList_inj, String.toList_ofList]
  rcases IdentifierField.path_eq_or ⟨path⟩ with hslash | ⟨hhead, hbare⟩
  · change path.toList = _ at hslash
    simp [hslash]
  · rw [hbare, if_neg hhead]
    simp

theorem pointer?_pointerOfPath (document : Json) (path : String) :
    document.pointer? (pointerOfPath path) = document.followTokens (tokensOfPath path) := by
  have hne : pointerOfPath path ≠ "" := by
    intro heq
    rw [pointerOfPath_eq, ← String.toList_inj] at heq
    simp at heq
  rw [Json.pointer?, Json.pointerTokens?, if_neg hne, pointerOfPath_eq,
    splitOnChar_ofList_cons_self, String.ofList_toList]
  rfl

/-- On a plain path the store reads the keys below which generated values are written. -/
theorem tokensOfPath_eq_pathKeys {path : String} (h : IdentifierField.IsPlain ⟨path⟩) :
    tokensOfPath path = Json.pathKeys path := by
  have hkeys : Json.pathKeys path = IdentifierField.segments ⟨path⟩ := by
    rw [Json.pathKeys_eq_filter_segments, List.filter_eq_self]
    intro key hkey
    simpa using (h key hkey).1
  rw [hkeys, tokensOfPath]
  conv => rhs; rw [← List.map_id (IdentifierField.segments ⟨path⟩)]
  apply List.map_congr_left
  intro key hkey
  obtain ⟨_, h0, h1⟩ := h key hkey
  rw [Json.unescapeToken_eq_self h0 h1, String.ofList_toList, id]

/-- On a plain path the store finds what can be read along the path's keys. -/
theorem pointer?_of_getKeys? {document value : Json} {path : String}
    (hplain : IdentifierField.IsPlain ⟨path⟩)
    (h : document.getKeys? (Json.pathKeys path) = some value) :
    document.pointer? (pointerOfPath path) = some value := by
  rw [pointer?_pointerOfPath, tokensOfPath_eq_pathKeys hplain]
  exact Json.followTokens_of_getKeys? h

end Store
end WaterRegistry
