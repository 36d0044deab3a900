import WaterRegistry.Proofs.Document.Writing

/-!
# What writing leaves alone

A write into an object sets one of its fields, the first one on the way, or changes nothing.  So
whatever is written in turn, fields whose names start none of the paths keep their values, no field
is lost, and the fields that have been there stay in front in their order.
-/

namespace WaterRegistry
namespace Fields

/-- The fields of `before` are still there in `after`, in front and in their order, and outside of
`touched` there is no other change. -/
structure KeptOutside (touched : String → Prop) (before after : Fields) : Prop where
  names_kept : before.map (·.1) <+: after.map (·.1)
  get?_eq : ∀ key, ¬ touched key → get? key after = get? key before

/-- Setting a field that is there keeps all names, and setting another one adds its name. -/
theorem map_fst_set (key : String) (value : Json) (fields : Fields) :
    (set key value fields).map (·.1) =
      if key ∈ fields.map (·.1) then fields.map (·.1) else fields.map (·.1) ++ [key] := by
  induction fields with
  | nil => rfl
  | cons field rest ih =>
      obtain ⟨name, old⟩ := field
      by_cases hname : name = key
      · simp [set, hname]
      · rw [set, if_neg hname, List.map_cons, ih]
        by_cases hrest : key ∈ rest.map (·.1)
        · simp [hrest]
        · simp [hrest, Ne.symm hname]

/-- Setting a field keeps the names of all fields where they are. -/
theorem names_kept_set (key : String) (value : Json) (fields : Fields) :
    fields.map (·.1) <+: (set key value fields).map (·.1) := by
  rw [map_fst_set]
  split
  · exact List.prefix_refl _
  · exact List.prefix_append _ _

namespace KeptOutside

variable {touched : String → Prop} {before middle after : Fields}

theorem refl (touched : String → Prop) (fields : Fields) : KeptOutside touched fields fields where
  names_kept := List.prefix_refl _
  get?_eq _ _ := rfl

theorem trans (h : KeptOutside touched before middle) (h' : KeptOutside touched middle after) :
    KeptOutside touched before after where
  names_kept := h.names_kept.trans h'.names_kept
  get?_eq key hkey := (h'.get?_eq key hkey).trans (h.get?_eq key hkey)

theorem set {key : String} (hkey : touched key) (value : Json) (fields : Fields) :
    KeptOutside touched fields (Fields.set key value fields) where
  names_kept := names_kept_set key value fields
  get?_eq other hother := by
    apply get?_set_of_ne
    rintro rfl
    exact hother hkey

end KeptOutside
end Fields

namespace Json

/-- A write into an object leaves an object, with changes below the first key only. -/
theorem exists_writeKeys_obj {touched : String → Prop} {keys : List String}
    (hkeys : ∀ key, keys.head? = some key → touched key) (value : Json) (fields : Fields) :
    ∃ after, (writeKeys value keys (.obj fields)).1 = .obj after ∧
      fields.KeptOutside touched after := by
  cases keys with
  | nil => exact ⟨fields, rfl, .refl touched fields⟩
  | cons key rest =>
      have hkey : touched key := hkeys key rfl
      cases rest with
      | nil => exact ⟨_, rfl, .set hkey value fields⟩
      | cons next more => exact ⟨_, rfl, .set hkey _ fields⟩

end Json

/-- A document after texts have been written at some paths in turn.  A text that cannot be written
leaves the document as it is. -/
inductive Written : Json → List (String × String) → Json → Prop
  | nil (document : Json) : Written document [] document
  | written {document next last : Json} {path text : String} {entries : List (String × String)} :
      document.writePath path (.str text) = (next, true) → Written next entries last →
      Written document ((path, text) :: entries) last
  | refused {document last : Json} {path text : String} {entries : List (String × String)} :
      (document.writePath path (.str text)).2 = false → Written document entries last →
      Written document ((path, text) :: entries) last

/-- Texts that are written in turn change an object below the first keys of their paths only. -/
theorem Written.keptOutside {document last : Json} {entries : List (String × String)}
    (h : Written document entries last) {fields : Fields} (hdocument : document = .obj fields)
    {touched : String → Prop}
    (htouched : ∀ entry ∈ entries, ∀ key, (Json.pathKeys entry.1).head? = some key → touched key) :
    ∃ after, last = .obj after ∧ fields.KeptOutside touched after := by
  induction h generalizing fields with
  | nil document => exact ⟨fields, hdocument, .refl touched fields⟩
  | @written document next last path text entries hwritten _ ih =>
      subst hdocument
      obtain ⟨middle, hmiddle, hkept⟩ :=
        Json.exists_writeKeys_obj (htouched _ List.mem_cons_self) (.str text) fields
      have hnext : next = .obj middle := by
        rw [← hmiddle]
        exact (congrArg Prod.fst hwritten).symm
      obtain ⟨after, hlast, hkept'⟩ :=
        ih hnext fun entry hentry => htouched entry (List.mem_cons_of_mem _ hentry)
      exact ⟨after, hlast, hkept.trans hkept'⟩
  | refused _ _ ih =>
      exact ih hdocument fun entry hentry => htouched entry (List.mem_cons_of_mem _ hentry)

end WaterRegistry
