import Mathlib.Data.List.Induction
import WaterRegistry.Proofs.Document.Frame
import WaterRegistry.Proofs.Document.Optional
import WaterRegistry.Proofs.Document.Sameness

/-!
# Documents that name every key once

A list of fields may name a key twice, and then its first field counts.  In most documents no object
does so, at whatever level.  Then the fields of an object are those that its keys give, in an order of
their own, and two objects that are the same have the same keys.
-/

namespace WaterRegistry

namespace Fields

theorem mem_of_get?_eq_some {key : String} {value : Json} {fields : Fields}
    (h : get? key fields = some value) : (key, value) ∈ fields := by
  induction fields with
  | nil => cases h
  | cons field rest ih =>
      obtain ⟨name, first⟩ := field
      rw [get?] at h
      split at h
      · rename_i hname
        cases h
        rw [hname]
        exact List.mem_cons_self
      · exact List.mem_cons_of_mem _ (ih h)

/-- If no key is named twice, each field is the one that its key gives. -/
theorem get?_eq_some_iff {key : String} {value : Json} {fields : Fields}
    (hkeys : (fields.map (·.1)).Nodup) : get? key fields = some value ↔ (key, value) ∈ fields := by
  refine ⟨mem_of_get?_eq_some, fun h => ?_⟩
  induction fields with
  | nil => cases h
  | cons field rest ih =>
      obtain ⟨name, first⟩ := field
      obtain ⟨hname, hrest⟩ := List.nodup_cons.1 hkeys
      rcases List.mem_cons.1 h with hfirst | hlater
      · cases hfirst
        rw [get?, if_pos rfl]
      · have hne : name ≠ key := by
          rintro rfl
          exact hname (List.mem_map_of_mem (f := (·.1)) hlater)
        rw [get?, if_neg hne, ih hrest hlater]

/-- Entries with different keys are the fields that reading them gives. -/
theorem ofEntries_eq_self {entries : Fields} (h : (entries.map (·.1)).Nodup) :
    ofEntries entries = entries := by
  induction entries using List.reverseRecOn with
  | nil => rfl
  | append_singleton entries entry ih =>
      rw [List.map_append, List.nodup_append] at h
      obtain ⟨hentries, _, hnew⟩ := h
      have hkey : entry.1 ∉ entries.map (·.1) := fun hmem => hnew _ hmem _ List.mem_cons_self rfl
      rw [ofEntries_concat, ih hentries, set_of_not_mem entry.2 hkey]

/-- The fields of an object after setting one are that one and others that have been there. -/
theorem mem_set {key : String} {value : Json} {fields : Fields} {field : String × Json}
    (h : field ∈ set key value fields) : field = (key, value) ∨ field ∈ fields := by
  induction fields with
  | nil => exact .inl (List.mem_singleton.1 h)
  | cons first rest ih =>
      obtain ⟨name, old⟩ := first
      rw [set] at h
      split at h
      · rename_i hname
        subst hname
        exact (List.mem_cons.1 h).imp_right (List.mem_cons_of_mem _)
      · rcases List.mem_cons.1 h with hfirst | hlater
        · exact .inr (List.mem_cons.2 (.inl hfirst))
        · exact (ih hlater).imp_right (List.mem_cons_of_mem _)

theorem nodup_set {key : String} {fields : Fields} (value : Json)
    (h : (fields.map (·.1)).Nodup) : ((set key value fields).map (·.1)).Nodup := by
  rw [map_fst_set]
  split
  · exact h
  · rename_i hnew
    exact List.nodup_append.2 ⟨h, List.nodup_singleton key, fun name hname other hother => by
      rintro rfl
      exact hnew (List.mem_singleton.1 hother ▸ hname)⟩

end Fields

namespace SortedTable

variable {α : Type}

/-- The last of some entries is inserted after all others. -/
theorem ofEntries_concat (entries : List (String × α)) (entry : String × α) :
    ofEntries (entries ++ [entry]) = (ofEntries entries).insert entry.1 entry.2 := by
  rw [ofEntries, List.foldl_append]
  rfl

/-- A table of entries with different keys gives for each key what its entry says. -/
theorem get?_ofEntries {entries : List (String × α)} (h : (entries.map (·.1)).Nodup)
    (key : String) : (ofEntries entries).get? key = entries.lookup key := by
  induction entries using List.reverseRecOn with
  | nil => rfl
  | append_singleton entries entry ih =>
      rw [List.map_append, List.nodup_append] at h
      obtain ⟨hentries, _, hnew⟩ := h
      rw [ofEntries_concat, get?_insert, ih hentries, List.lookup_append]
      split
      · rename_i hkey
        have hnone : entries.lookup entry.1 = none := by
          rw [List.lookup_eq_none_iff]
          intro other hother
          exact bne_iff_ne.2 fun heq =>
            hnew _ (List.mem_map_of_mem hother) _ List.mem_cons_self heq.symm
        rw [hkey, hnone, Option.none_or, lookup_cons_eq_ite, if_pos rfl]
      · rename_i hkey
        rw [lookup_cons_eq_ite, if_neg hkey, List.lookup_nil, Option.or_none]

/-- Entries of a table are among those that it has been made from. -/
theorem mem_of_mem_ofEntries {entries : List (String × α)} {entry : String × α}
    (h : entry ∈ (ofEntries entries).entries) : entry ∈ entries := by
  induction entries using List.reverseRecOn with
  | nil => cases h
  | append_singleton entries last ih =>
      rw [ofEntries_concat] at h
      rcases mem_place h with rfl | hold
      · exact List.mem_append_right _ (List.mem_singleton_self _)
      · exact List.mem_append_left _ (ih hold)

theorem nodup_keys (table : SortedTable α) : (table.entries.map (·.1)).Nodup := by
  rw [List.Nodup, List.pairwise_map]
  exact table.ascending.imp String.ne_of_lt

/-- The entries of a table make the table again. -/
theorem ofEntries_entries (table : SortedTable α) : ofEntries table.entries = table :=
  ext_get? fun key => get?_ofEntries table.nodup_keys key

end SortedTable

/-- Written entries give for each key what is written of its entry. -/
theorem Fields.get?_map_write {α : Type} (write : α → Json) (entries : List (String × α))
    (key : String) :
    Fields.get? key (entries.map fun entry => (entry.1, write entry.2)) =
      (entries.lookup key).map write := by
  induction entries with
  | nil => rfl
  | cons entry rest ih =>
      rw [List.map_cons, Fields.get?, ih, SortedTable.lookup_cons_eq_ite]
      by_cases hkey : entry.1 = key
      · rw [if_pos hkey, if_pos hkey.symm, Option.map_some]
      · rw [if_neg hkey, if_neg (Ne.symm hkey)]

namespace Json

mutual

/-- Whether no object in a document names a key twice. -/
def distinctKeys : Json → Bool
  | .null | .bool _ | .num _ | .str _ => true
  | .arr items => distinctKeysItems items
  | .obj fields => (fields.map (·.1)).Nodup && distinctKeysFields fields

/-- Whether no object in one of the items names a key twice. -/
def distinctKeysItems : List Json → Bool
  | [] => true
  | item :: rest => distinctKeys item && distinctKeysItems rest

/-- Whether no object in the value of a field names a key twice. -/
def distinctKeysFields : List (String × Json) → Bool
  | [] => true
  | (_, value) :: rest => distinctKeys value && distinctKeysFields rest

end

theorem distinctKeysFields_iff {fields : Fields} :
    distinctKeysFields fields = true ↔ ∀ field ∈ fields, field.2.distinctKeys = true := by
  induction fields with
  | nil => simp [distinctKeysFields]
  | cons field rest ih =>
      obtain ⟨name, value⟩ := field
      rw [distinctKeysFields, Bool.and_eq_true, ih, List.forall_mem_cons]

theorem distinctKeys_obj_iff {fields : Fields} : (Json.obj fields).distinctKeys = true ↔
    (fields.map (·.1)).Nodup ∧ ∀ field ∈ fields, field.2.distinctKeys = true := by
  rw [distinctKeys, Bool.and_eq_true, decide_eq_true_eq, distinctKeysFields_iff]

/-- Setting a field to a document that names every key once leaves it that way. -/
theorem distinctKeys_set {key : String} {value : Json} {fields : Fields}
    (hfields : (Json.obj fields).distinctKeys = true) (hvalue : value.distinctKeys = true) :
    (Json.obj (Fields.set key value fields)).distinctKeys = true := by
  rw [distinctKeys_obj_iff] at hfields ⊢
  refine ⟨Fields.nodup_set value hfields.1, fun field hfield => ?_⟩
  rcases Fields.mem_set hfield with rfl | hold
  · exact hvalue
  · exact hfields.2 field hold

/-- So entries are put together to an object that names every key once, whether or not they do. -/
theorem distinctKeys_ofEntries {entries : List (String × Json)}
    (h : ∀ entry ∈ entries, entry.2.distinctKeys = true) :
    (Json.obj (Fields.ofEntries entries)).distinctKeys = true := by
  induction entries using List.reverseRecOn with
  | nil => rfl
  | append_singleton entries entry ih =>
      rw [List.forall_mem_append] at h
      rw [Fields.ofEntries_concat]
      exact distinctKeys_set (ih h.1) (h.2 entry (List.mem_singleton_self entry))

theorem exists_obj_of_same {document : Json} {fields : Fields}
    (h : document.same (.obj fields) = true) : ∃ others, document = .obj others := by
  rw [same_iff] at h
  cases document with
  | obj others => exact ⟨others, rfl⟩
  | _ => simp [canonical] at h

/-- Objects that are the same have the same keys, each of them once. -/
theorem keys_perm_of_same {fields others : Fields} (h : (Json.obj fields).same (.obj others) = true)
    (hfields : (fields.map (·.1)).Nodup) (hothers : (others.map (·.1)).Nodup) :
    (fields.map (·.1)).Perm (others.map (·.1)) := by
  rw [List.perm_ext_iff_of_nodup hfields hothers]
  intro key
  have hkey := same_obj_iff.1 h key
  rw [← not_iff_not, ← Fields.get?_eq_none_iff, ← Fields.get?_eq_none_iff,
    ← Option.map_eq_none_iff (f := canonical), hkey, Option.map_eq_none_iff]

end Json
end WaterRegistry
