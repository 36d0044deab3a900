import WaterRegistry.Proofs.Document.Notation
import WaterRegistry.Proofs.Text.Margins

/-!
# A place in three notations

Keys can be joined by dots, or by slashes with one in front or without.  A search reads the first, and
the store reads the others when it compares values.  The first leads through objects only, the others
lead into lists as well.  Where no key holds a separator or an escape, or names a position in a list,
all three lead to the same value in every document, if they lead anywhere.
-/

namespace WaterRegistry

/-- Cutting joined pieces gives the pieces. -/
theorem splitOnChar_intercalate {sep : Char} {keys : List String} (hne : keys ≠ [])
    (hkeys : ∀ key ∈ keys, sep ∉ key.toList) :
    splitOnChar sep ((String.singleton sep).intercalate keys) = keys := by
  have hpieces : ∀ piece ∈ keys.map String.toList, sep ∉ piece := by
    intro piece hpiece
    obtain ⟨key, hkey, rfl⟩ := List.mem_map.1 hpiece
    exact hkeys key hkey
  rw [splitOnChar, String.toList_intercalate, pieces_eq_splitOn, String.toList_singleton,
    List.splitOn_intercalate sep hpieces (by simpa using hne)]
  simp

/-- A key that all notations read alike. -/
structure IsPlainKey (key : String) : Prop where
  ne_empty : key ≠ ""
  dot_not_mem : '.' ∉ key.toList
  slash_not_mem : '/' ∉ key.toList
  tilde_not_mem : '~' ∉ key.toList
  names_no_index : Json.tokenIndex? key = none

/-- Keys joined by dots, as searches read them. -/
def dottedPath (keys : List String) : String :=
  ".".intercalate keys

/-- Keys joined by slashes, as the paths of identifier fields are written. -/
def slashedPath (keys : List String) : String :=
  "/".intercalate keys

namespace Json

theorem followTokens_eq_getKeys? {keys : List String}
    (h : ∀ key ∈ keys, tokenIndex? key = none) (document : Json) :
    document.followTokens keys = document.getKeys? keys := by
  induction keys generalizing document with
  | nil => rfl
  | cons key rest ih =>
      have hrest : ∀ other ∈ rest, tokenIndex? other = none :=
        fun other hother => h other (List.mem_cons_of_mem _ hother)
      rw [followTokens, getKeys?, step?_eq_get? (h key List.mem_cons_self)]
      exact Option.bind_congr fun inner _ => ih hrest inner

theorem lookupDotted_dottedPath {keys : List String} (hne : keys ≠ [])
    (hkeys : ∀ key ∈ keys, '.' ∉ key.toList) (document : Json) :
    document.lookupDotted (dottedPath keys) = document.getKeys? keys := by
  rw [lookupDotted, dottedPath]
  exact congrArg document.getKeys? (splitOnChar_intercalate hne hkeys)

end Json

/-- Joined keys do not start with a slash. -/
theorem head?_slashedPath_ne {keys : List String} (hkeys : ∀ key ∈ keys, IsPlainKey key) :
    (slashedPath keys).toList.head? ≠ some '/' := by
  rw [slashedPath, String.toList_intercalate]
  cases keys with
  | nil => simp
  | cons key rest =>
      have hkey := hkeys key List.mem_cons_self
      obtain ⟨c, cs, hcs⟩ : ∃ c cs, key.toList = c :: cs :=
        List.exists_cons_of_ne_nil (by simpa using hkey.ne_empty)
      have hc : c ≠ '/' := by
        rintro rfl
        exact hkey.slash_not_mem (by rw [hcs]; exact List.mem_cons_self)
      cases rest <;> simp [hcs, hc, List.intercalate_cons_cons]

namespace Store

/-- With a slash in front or without, the store reads the keys that have been joined. -/
theorem tokensOfPath_slashedPath {keys : List String} (hne : keys ≠ [])
    (hkeys : ∀ key ∈ keys, IsPlainKey key) {path : String}
    (hpath : path = slashedPath keys ∨ path = "/" ++ slashedPath keys) :
    tokensOfPath path = keys := by
  have hbare : IdentifierField.bareName ⟨path⟩ = slashedPath keys := by
    rcases IdentifierField.path_eq_or ⟨path⟩ with hslash | ⟨hhead, hbare⟩
    · rcases hpath with rfl | rfl
      · exact absurd (by rw [hslash, List.head?_cons]) (head?_slashedPath_ne hkeys)
      · simpa [String.toList_inj, eq_comm] using hslash
    · rcases hpath with rfl | rfl
      · exact hbare
      · simp at hhead
  have hsegments : IdentifierField.segments ⟨path⟩ = keys := by
    rw [IdentifierField.segments, hbare]
    exact splitOnChar_intercalate hne fun key hkey => (hkeys key hkey).slash_not_mem
  rw [tokensOfPath, hsegments]
  conv => rhs; rw [← List.map_id keys]
  apply List.map_congr_left
  intro key hkey
  rw [Json.unescapeToken_of_tilde_not_mem (hkeys key hkey).tilde_not_mem, String.ofList_toList, id]

/-- On such a path the store finds what can be read along the keys, and nothing else. -/
theorem pointer?_slashedPath {keys : List String} (hne : keys ≠ [])
    (hkeys : ∀ key ∈ keys, IsPlainKey key) {path : String}
    (hpath : path = slashedPath keys ∨ path = "/" ++ slashedPath keys) (document : Json) :
    document.pointer? (pointerOfPath path) = document.getKeys? keys := by
  rw [pointer?_pointerOfPath, tokensOfPath_slashedPath hne hkeys hpath]
  exact Json.followTokens_eq_getKeys? (fun key hkey => (hkeys key hkey).names_no_index) document

end Store
end WaterRegistry
