import WaterRegistry.Proofs.Document.Dotted
import WaterRegistry.Proofs.Document.Frame

/-!
# The outcome of a write

A write is accepted exactly when its path has a key and nothing but objects lies on the way to the
last one; what is missing there does not stand in its way.  An accepted write puts its value in its
place and makes the objects that lead there, each behind the fields that have been there before.  A
refused one meets its obstacle before it could make any object, so it leaves the document as it is.
-/

namespace WaterRegistry
namespace Json

/-- A write sets one field in every object on its way, and makes the objects that are missing. -/
theorem exists_set_of_isOpenAlong {document : Json} {above below : List String} {key : String}
    (h : document.IsOpenAlong (above ++ key :: below)) (value : Json) :
    ∃ fields inner, (document.getKeys? above).getD (.obj []) = .obj fields ∧
      (writeKeys value (above ++ key :: below) document).1.getKeys? above =
        some (.obj (Fields.set key inner fields)) := by
  induction above generalizing document with
  | nil =>
      obtain ⟨fields, rfl⟩ := h.exists_eq_obj (List.cons_ne_nil key below)
      cases below with
      | nil => exact ⟨fields, value, rfl, rfl⟩
      | cons next more => exact ⟨fields, _, rfl, rfl⟩
  | cons first above ih =>
      obtain ⟨fields, rfl⟩ := h.exists_eq_obj (List.cons_ne_nil first (above ++ key :: below))
      obtain ⟨next, more, hkeys⟩ : ∃ next more, above ++ key :: below = next :: more :=
        List.exists_cons_of_ne_nil (by simp)
      have hinner : ((Fields.get? first fields).getD (.obj [])).IsOpenAlong
          (above ++ key :: below) := by
        cases hfirst : Fields.get? first fields with
        -- The object that is made here is empty, so nothing can be met behind it.
        | none => exact isOpenAlong_emptyObject _
        | some inner => exact isOpenAlong_obj_cons.1 h inner hfirst
      obtain ⟨around, inner, hbefore, hafter⟩ := ih hinner
      refine ⟨around, inner, ?_, ?_⟩
      · rw [← hbefore, getKeys?_obj_cons]
        cases Fields.get? first fields with
        | some found => rfl
        | none => cases above <;> simp [Fields.get?]
      · rw [List.cons_append, hkeys, writeKeys_cons_cons, getKeys?_obj_cons, Fields.get?_set_self,
          Option.bind_some, ← hkeys]
        exact hafter

/-- `after` is `before` with a value in its place below the keys, and with the objects that lead
there. -/
structure SetAt (keys : List String) (value before after : Json) : Prop where
  /-- The value is read along the keys, -/
  read : after.getKeys? keys = some value
  /-- and by a search along the keys joined by dots, if none of them holds one. -/
  read_dotted : (∀ key ∈ keys, '.' ∉ key.toList) →
    after.lookupDotted (dottedPath keys) = some value
  /-- What lies neither on the way nor below its end is read as before. -/
  apart : ∀ others, ¬ others <+: keys → ¬ keys <+: others →
    after.getKeys? others = before.getKeys? others
  /-- Where something is read that has not been there, it lies on the way, or inside the value. -/
  added : ∀ others, before.getKeys? others = none → after.getKeys? others ≠ none →
    others <+: keys ∨ ∃ inside, others = keys ++ inside ∧ value.getKeys? inside ≠ none
  /-- On the way there are objects.  They have the fields of before, in their order, with the next
  key behind them if it is new; where nothing has been, there are no fields of before. -/
  way : ∀ above key below, keys = above ++ key :: below →
    ∃ fields grown : Fields, (before.getKeys? above).getD (.obj []) = .obj fields ∧
      after.getKeys? above = some (.obj grown) ∧ fields.KeptOutside (· = key) grown ∧
      grown.map (·.1) =
        if key ∈ fields.map (·.1) then fields.map (·.1) else fields.map (·.1) ++ [key]

theorem setAt_of_accepted {value document : Json} {keys : List String}
    (h : (writeKeys value keys document).2 = true) :
    SetAt keys value document (writeKeys value keys document).1 := by
  obtain ⟨hne, hopen⟩ := writeKeys_accepted_iff.1 h
  have hread : (writeKeys value keys document).1.getKeys? keys = some value := getKeys?_writeKeys h
  refine ⟨hread, ?_, ?_, ?_, ?_⟩
  · intro hdots
    rw [lookupDotted_dottedPath hne hdots, hread]
  · intro others hnot hnot'
    exact getKeys?_writeKeys_of_apart hnot' hnot
  · intro others hbefore hafter
    by_cases hway : others <+: keys
    · exact .inl hway
    · by_cases hinside : keys <+: others
      · obtain ⟨inside, rfl⟩ := hinside
        rw [getKeys?_append, hread, Option.bind_some] at hafter
        exact .inr ⟨inside, rfl, hafter⟩
      · rw [getKeys?_writeKeys_of_apart hinside hway] at hafter
        exact absurd hbefore hafter
  · rintro above key below rfl
    obtain ⟨fields, inner, hbefore, hafter⟩ := exists_set_of_isOpenAlong hopen value
    have hkept : Fields.KeptOutside (· = key) fields (Fields.set key inner fields) :=
      .set (by rfl) inner fields
    exact ⟨fields, _, hbefore, hafter, hkept, Fields.map_fst_set key inner fields⟩

/-- A value can be written at a path exactly if the path has a key, the document is an object, and
whatever exists on the way is one too.  Then the value is in its place, every key is in its place
that was there before, and only the way to the value has been added. -/
theorem accepted_write_changes_only_its_path (document value : Json) (path : String) :
    ((document.writePath path value).2 = true ↔
      pathKeys path ≠ [] ∧ document.isObject = true ∧ document.IsOpenAlong (pathKeys path)) ∧
    ((document.writePath path value).2 = true →
      SetAt (pathKeys path) value document (document.writePath path value).1) := by
  refine ⟨?_, setAt_of_accepted⟩
  rw [writePath, writeKeys_accepted_iff]
  refine and_congr_right fun hne => ?_
  constructor
  · intro hopen
    obtain ⟨fields, rfl⟩ := hopen.exists_eq_obj hne
    exact ⟨rfl, hopen⟩
  · exact And.right

/-- Slashes that separate nothing are passed over, a missing object goes last, and a field that is
replaced keeps its place. -/
example :
    (Json.obj [("code", .str "A"), ("name", .str "North")]).writePath "//code/" (.str "B") =
        (.obj [("code", .str "B"), ("name", .str "North")], true) ∧
      (Json.obj [("name", .str "North")]).writePath "ref//no" (.str "D") =
        (.obj [("name", .str "North"), ("ref", .obj [("no", .str "D")])], true) :=
  ⟨rfl, rfl⟩

/-- A refused write leaves the document as it is, down to the order of fields, whatever objects were
missing on the way.  Its path has no key, or a value on the way is no object; since this value exists
in the document, nothing has been made in front of it. -/
theorem refused_write_changes_nothing {document value : Json} {path : String}
    (h : (document.writePath path value).2 = false) :
    (document.writePath path value).1 = document ∧
      (pathKeys path = [] ∨ ∃ above leaf, above <+: pathKeys path ∧ above ≠ pathKeys path ∧
        document.getKeys? above = some leaf ∧ leaf.isObject = false) :=
  ⟨writeKeys_of_refused h, writeKeys_refused_iff.1 h⟩

/-- The text in the place of a reference blocks the way, although further objects would be missing
behind it. -/
theorem refused_write_changes_nothing_behind_text :
    let document := Json.obj [("ref", .obj [("old", .str "C"), ("no", .ofNat 1)]), ("name", .null)]
    (document.writePath "/ref/old/part/no" (.str "D")).2 = false ∧
      (document.writePath "/ref/old/part/no" (.str "D")).1 = document ∧
      ∃ above leaf, above <+: pathKeys "/ref/old/part/no" ∧ above ≠ pathKeys "/ref/old/part/no" ∧
        document.getKeys? above = some leaf ∧ leaf.isObject = false := by
  intro document
  have hrefused : (document.writePath "/ref/old/part/no" (.str "D")).2 = false := rfl
  obtain ⟨hsame, hnone | hblocked⟩ := refused_write_changes_nothing hrefused
  · cases hnone
  · exact ⟨hrefused, hsame, hblocked⟩

end Json
end WaterRegistry
