import WaterRegistry.Json.Reader
import WaterRegistry.Proofs.Document.DistinctKeys

/-!
# What holds of everything that is read

Texts may name a key twice, but the documents that are read from them do not.  The values of a table
have all been read as such.  A structure is made from its blank by assigning fields, whether it is
given as an object or as a list, so what every assignment keeps holds of all that is read.
-/

namespace WaterRegistry
namespace Reader

mutual

/-- Whatever is read names every key once, also if what it is read from does not. -/
theorem distinctKeys_of_json (outline : Outline) {document : Json}
    (h : Reader.json outline = .ok document) : document.distinctKeys = true := by
  cases outline with
  | list items stop =>
      rw [Reader.json] at h
      obtain ⟨values, hvalues, hrest⟩ := exists_of_bind_eq_ok h
      obtain ⟨_, _, hdocument⟩ := exists_of_bind_eq_ok hrest
      cases hdocument
      exact distinctKeys_of_jsonItems items hvalues
  | record entries stop =>
      rw [Reader.json] at h
      obtain ⟨found, hfound, hrest⟩ := exists_of_bind_eq_ok h
      obtain ⟨_, _, hdocument⟩ := exists_of_bind_eq_ok hrest
      cases hdocument
      exact Json.distinctKeys_ofEntries (distinctKeys_of_jsonEntries entries hfound)
  | text reading skipping =>
      cases reading with
      | ok text => cases h; rfl
      | error fault => cases h
  | number value =>
      cases value with
      | some number => cases h; rfl
      | none => cases h
  | _ => cases h <;> rfl

theorem distinctKeys_of_jsonItems (items : List Outline) {values : List Json}
    (h : Reader.jsonItems items = .ok values) : (Json.arr values).distinctKeys = true := by
  cases items with
  | nil => cases h; rfl
  | cons item rest =>
      rw [Reader.jsonItems] at h
      obtain ⟨value, hvalue, hrest⟩ := exists_of_bind_eq_ok h
      obtain ⟨more, hmore, hvalues⟩ := exists_of_bind_eq_ok hrest
      cases hvalues
      have hfirst := distinctKeys_of_json item hvalue
      have hothers := distinctKeys_of_jsonItems rest hmore
      rw [Json.distinctKeys] at hothers ⊢
      rw [Json.distinctKeysItems, hfirst, hothers]
      rfl

theorem distinctKeys_of_jsonEntries (entries : List (Outline × Outline))
    {found : List (String × Json)} (h : Reader.jsonEntries entries = .ok found) :
    ∀ entry ∈ found, entry.2.distinctKeys = true := by
  cases entries with
  | nil => cases h; simp
  | cons entry rest =>
      rw [Reader.jsonEntries] at h
      obtain ⟨key, _, hkey⟩ := exists_of_bind_eq_ok h
      obtain ⟨value, hvalue, hrest⟩ := exists_of_bind_eq_ok hkey
      obtain ⟨more, hmore, hfound⟩ := exists_of_bind_eq_ok hrest
      cases hfound
      exact List.forall_mem_cons.2
        ⟨distinctKeys_of_json entry.2 hvalue, distinctKeys_of_jsonEntries rest hmore⟩

end

/-- Every value of a table that is read has been read as one. -/
theorem exists_read_of_mem_table {α : Type} {read : Reader α} {outline : Outline}
    {entries : List (String × α)}
    (h : Reader.table read outline = .ok entries) :
    ∀ entry ∈ entries, ∃ item, read item = .ok entry.2 := by
  have heach {items : List (Outline × Outline)} {found : List (String × α)}
      (hfound : Reader.eachEntry read items = .ok found) :
      ∀ entry ∈ found, ∃ item, read item = .ok entry.2 := by
    induction items generalizing found with
    | nil => cases hfound; simp
    | cons item rest ih =>
        rw [Reader.eachEntry] at hfound
        obtain ⟨key, _, hkey⟩ := exists_of_bind_eq_ok hfound
        obtain ⟨value, hvalue, hrest⟩ := exists_of_bind_eq_ok hkey
        obtain ⟨more, hmore, hfound⟩ := exists_of_bind_eq_ok hrest
        cases hfound
        exact List.forall_mem_cons.2 ⟨⟨item.2, hvalue⟩, ih hmore⟩
  cases outline with
  | record items stop =>
      obtain ⟨found, hfound, hrest⟩ := exists_of_bind_eq_ok h
      obtain ⟨_, _, hentries⟩ := exists_of_bind_eq_ok hrest
      cases hentries
      exact heach hfound
  | _ => cases h

end Reader

namespace RecordShape

variable {α : Type} {shape : RecordShape α}

section Kept

variable {holds : α → Prop} (hassign : ∀ field ∈ shape.fields, ∀ value outline next, holds value →
  field.assign value outline = .ok next → holds next)

include hassign

theorem holds_of_assignEntries {entries : List (Outline × Outline)} {seen names : List String}
    {value next : α} (hvalue : holds value)
    (h : shape.assignEntries seen value entries = .ok (names, next)) : holds next := by
  induction entries generalizing seen value with
  | nil =>
      cases h
      exact hvalue
  | cons entry rest ih =>
      rw [assignEntries] at h
      obtain ⟨key, _, hkey⟩ := exists_of_bind_eq_ok h
      split at hkey
      · obtain ⟨_, _, hrest⟩ := exists_of_bind_eq_ok hkey
        exact ih hvalue hrest
      · rename_i field hfind
        split at hkey
        · cases hkey
        · obtain ⟨between, hbetween, hrest⟩ := exists_of_bind_eq_ok hkey
          exact ih (hassign field (List.mem_of_find?_eq_some hfind) _ _ _ hvalue hbetween) hrest

theorem holds_of_assignItems {fields : List (FieldShape α)} (hfields : fields ⊆ shape.fields)
    {index : Nat} {stop : Option Fault} {items : List Outline} {value next : α}
    (hvalue : holds value) (h : shape.assignItems index value stop fields items = .ok next) :
    holds next := by
  induction fields generalizing index items value with
  | nil =>
      cases items with
      | nil =>
          obtain ⟨_, _, hnext⟩ := exists_of_bind_eq_ok h
          cases hnext
          exact hvalue
      | cons item rest => cases h
  | cons field fields ih =>
      obtain ⟨hfield, hmore⟩ := List.cons_subset.1 hfields
      cases items with
      | nil =>
          obtain ⟨_, _, hrest⟩ := exists_of_bind_eq_ok h
          split at hrest
          · cases hrest
          · exact ih hmore hvalue hrest
      | cons item rest =>
          obtain ⟨between, hbetween, hrest⟩ := exists_of_bind_eq_ok h
          exact ih hmore (hassign field hfield _ _ _ hvalue hbetween) hrest

end Kept

/-- What the blank structure has and every assignment keeps, whatever is read has. -/
theorem holds_of_read {holds : α → Prop} (hblank : holds shape.blank)
    (hassign : ∀ field ∈ shape.fields, ∀ value outline next, holds value →
      field.assign value outline = .ok next → holds next)
    {outline : Outline} {value : α} (h : shape.read outline = .ok value) : holds value := by
  cases outline with
  | record entries stop =>
      obtain ⟨⟨seen, found⟩, hfound, hrest⟩ := exists_of_bind_eq_ok h
      obtain ⟨_, _, hvalue⟩ := exists_of_bind_eq_ok hrest
      split at hvalue
      · cases hvalue
      · cases hvalue
        exact holds_of_assignEntries hassign hblank hfound
  | list items stop => exact holds_of_assignItems hassign (fun _ => id) hblank h
  | _ => cases h

end RecordShape
end WaterRegistry
