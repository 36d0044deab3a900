import WaterRegistry.Document.Path

/-!
# Reading what has been written

`writeKeys` writes below object keys and `getKeys?` reads along them.  A write is accepted exactly
when there is a key and nothing but objects lies on the way to the last one.  Then it is read back
along its own keys, and keys that part from them are read as before.  A write that is refused leaves
the document as it is.
-/

namespace WaterRegistry

namespace Fields

theorem set_eq_self {key : String} {value : Json} {fields : Fields}
    (h : get? key fields = some value) : set key value fields = fields := by
  induction fields with
  | nil => simp [get?] at h
  | cons field rest ih =>
      obtain ⟨name, old⟩ := field
      by_cases hname : name = key
      · simp only [get?, hname, if_true, Option.some.injEq] at h
        simp [set, hname, h]
      · simp only [get?, hname, if_false] at h
        simp [set, hname, ih h]

/-- Setting a new key adds a field at the end. -/
theorem set_of_not_mem {key : String} (value : Json) {fields : Fields}
    (h : key ∉ fields.map (·.1)) : set key value fields = fields ++ [(key, value)] := by
  induction fields with
  | nil => rfl
  | cons field rest ih =>
      obtain ⟨name, old⟩ := field
      rw [List.map_cons, List.mem_cons, not_or] at h
      rw [set, if_neg (Ne.symm h.1), ih h.2]
      rfl

/-- The last of some entries is set after all others. -/
theorem ofEntries_concat (entries : List (String × Json)) (entry : String × Json) :
    ofEntries (entries ++ [entry]) = set entry.1 entry.2 (ofEntries entries) := by
  rw [ofEntries, List.foldl_append]
  rfl

end Fields

namespace Json

@[simp] theorem getKeys?_nil (document : Json) : document.getKeys? [] = some document :=
  rfl

@[simp] theorem getKeys?_obj_cons (fields : Fields) (key : String) (keys : List String) :
    (Json.obj fields).getKeys? (key :: keys) =
      (Fields.get? key fields).bind fun inner => inner.getKeys? keys :=
  rfl

theorem exists_eq_obj {document : Json} (h : document.isObject = true) :
    ∃ fields, document = .obj fields := by
  cases document with
  | obj fields => exact ⟨fields, rfl⟩
  | _ => simp [isObject] at h

/-- What can be read along keys lies in an object, below its first key. -/
theorem getKeys?_cons_eq_some {document value : Json} {key : String} {keys : List String}
    (h : document.getKeys? (key :: keys) = some value) :
    ∃ fields inner, document = .obj fields ∧ Fields.get? key fields = some inner ∧
      inner.getKeys? keys = some value := by
  cases document with
  | obj fields =>
      rw [getKeys?_obj_cons, Option.bind_eq_some_iff] at h
      obtain ⟨inner, hinner, hvalue⟩ := h
      exact ⟨fields, inner, rfl, hinner, hvalue⟩
  | _ => simp [getKeys?, get?] at h

theorem getKeys?_append (document : Json) (keys more : List String) :
    document.getKeys? (keys ++ more) =
      (document.getKeys? keys).bind fun inner => inner.getKeys? more := by
  induction keys generalizing document with
  | nil => rfl
  | cons key rest ih => simp only [List.cons_append, getKeys?, ih, Option.bind_assoc]

/-- A pointer whose tokens are object keys reads what the keys read. -/
theorem followTokens_of_getKeys? {document value : Json} {keys : List String}
    (h : document.getKeys? keys = some value) : document.followTokens keys = some value := by
  induction keys generalizing document with
  | nil => exact h
  | cons key rest ih =>
      obtain ⟨fields, inner, rfl, hinner, hvalue⟩ := getKeys?_cons_eq_some h
      simp [followTokens, step?, hinner, ih hvalue]

/-- Below an object a first key is always gone through, with an empty object where it is missing. -/
theorem writeKeys_cons_cons (value : Json) (key next : String) (keys : List String)
    (fields : Fields) :
    writeKeys value (key :: next :: keys) (.obj fields) =
      (.obj (Fields.set key
        (writeKeys value (next :: keys) ((Fields.get? key fields).getD (.obj []))).1 fields),
       (writeKeys value (next :: keys) ((Fields.get? key fields).getD (.obj []))).2) :=
  rfl

theorem writeKeys_of_not_isObject {value document : Json} (keys : List String)
    (h : document.isObject = false) : writeKeys value keys document = (document, false) := by
  cases keys with
  | nil => rfl
  | cons key rest => cases document <;> simp_all [writeKeys, isObject]

/-- What has been written is read back along the same keys. -/
theorem getKeys?_writeKeys {value document : Json} {keys : List String}
    (h : (writeKeys value keys document).2 = true) :
    (writeKeys value keys document).1.getKeys? keys = some value := by
  fun_induction writeKeys value keys document with
  | case1 document => simp at h
  | case2 key fields => simp
  | case3 key keys fields hkeys inner written hinner ih =>
      rw [hinner] at ih
      simpa using ih h
  | case4 key keys document => simp at h

theorem writeKeys_emptyObject (value : Json) (key : String) (keys : List String) :
    (writeKeys value (key :: keys) (.obj [])).2 = true := by
  induction keys generalizing key with
  | nil => rfl
  | cons next rest ih =>
      rw [writeKeys_cons_cons]
      exact ih next

/-- A refused write leaves the document as it is. -/
theorem writeKeys_of_refused {value document : Json} {keys : List String}
    (h : (writeKeys value keys document).2 = false) :
    (writeKeys value keys document).1 = document := by
  induction keys generalizing document with
  | nil => rfl
  | cons key rest ih =>
      cases hobject : document.isObject with
      | false => rw [writeKeys_of_not_isObject _ hobject]
      | true =>
          obtain ⟨fields, rfl⟩ := exists_eq_obj hobject
          cases rest with
          | nil => simp [writeKeys] at h
          | cons next more =>
              rw [writeKeys_cons_cons] at h ⊢
              -- A missing key would have been filled with an empty object, and the write accepted.
              cases hkey : Fields.get? key fields with
              | none =>
                  rw [hkey, Option.getD_none, writeKeys_emptyObject] at h
                  simp at h
              | some inner =>
                  rw [hkey, Option.getD_some] at h
                  simp [ih h, Fields.set_eq_self hkey]

/-- Whatever lies on the way, in front of the last key, is an object. -/
def IsOpenAlong (document : Json) (keys : List String) : Prop :=
  ∀ above node, above <+: keys → above ≠ keys → document.getKeys? above = some node →
    node.isObject = true

theorem isOpenAlong_obj_cons {fields : Fields} {key : String} {rest : List String} :
    (Json.obj fields).IsOpenAlong (key :: rest) ↔
      ∀ inner, Fields.get? key fields = some inner → inner.IsOpenAlong rest := by
  constructor
  · intro h inner hinner above node habove hne hread
    exact h (key :: above) node (List.cons_prefix_cons.2 ⟨rfl, habove⟩) (by simpa using hne)
      (by rw [getKeys?_obj_cons, hinner, Option.bind_some, hread])
  · intro h above node habove hne hread
    cases above with
    | nil =>
        cases hread
        rfl
    | cons first above =>
        obtain ⟨rfl, hrest⟩ := List.cons_prefix_cons.1 habove
        rw [getKeys?_obj_cons, Option.bind_eq_some_iff] at hread
        obtain ⟨inner, hinner, hread⟩ := hread
        exact h inner hinner above node hrest (by simpa using hne) hread

theorem isOpenAlong_emptyObject (keys : List String) : (Json.obj []).IsOpenAlong keys := by
  cases keys with
  | nil => simp +contextual [IsOpenAlong]
  | cons key rest => simp [isOpenAlong_obj_cons, Fields.get?]

theorem IsOpenAlong.exists_eq_obj {document : Json} {keys : List String}
    (h : document.IsOpenAlong keys) (hne : keys ≠ []) : ∃ fields, document = .obj fields :=
  Json.exists_eq_obj (h [] document List.nil_prefix hne.symm rfl)

/-- A write is accepted if there is a key, and if the way to the last one is open. -/
theorem writeKeys_accepted_iff {value document : Json} {keys : List String} :
    (writeKeys value keys document).2 = true ↔ keys ≠ [] ∧ document.IsOpenAlong keys := by
  induction keys generalizing document with
  | nil => simp [writeKeys]
  | cons key rest ih =>
      cases hobject : document.isObject with
      | false =>
          have hclosed : ¬ document.IsOpenAlong (key :: rest) := by
            intro h
            obtain ⟨fields, rfl⟩ := h.exists_eq_obj (List.cons_ne_nil key rest)
            cases hobject
          simp [writeKeys_of_not_isObject _ hobject, hclosed]
      | true =>
          obtain ⟨fields, rfl⟩ := exists_eq_obj hobject
          rw [isOpenAlong_obj_cons]
          cases rest with
          | nil => simp +contextual [writeKeys, IsOpenAlong]
          | cons next more =>
              rw [writeKeys_cons_cons]
              -- What is missing is made from an empty object, along which every way is open.
              cases hkey : Fields.get? key fields with
              | none => simp [writeKeys_emptyObject]
              | some inner => simp [ih]

/-- A write is refused if there is no key, or if a value that is no object lies on the way. -/
theorem writeKeys_refused_iff {value document : Json} {keys : List String} :
    (writeKeys value keys document).2 = false ↔ keys = [] ∨ ∃ above leaf, above <+: keys ∧
      above ≠ keys ∧ document.getKeys? above = some leaf ∧ leaf.isObject = false := by
  rw [← Bool.not_eq_true, writeKeys_accepted_iff, Classical.not_and_iff_not_or_not,
    Classical.not_not]
  simp [IsOpenAlong]

/-- A way through a value other than an object is refused. -/
theorem writeKeys_below_leaf {value document leaf : Json} {keys : List String} (next : String)
    (more : List String) (hread : document.getKeys? keys = some leaf)
    (hleaf : leaf.isObject = false) :
    (writeKeys value (keys ++ next :: more) document).2 = false :=
  writeKeys_refused_iff.2 (.inr ⟨keys, leaf, List.prefix_append _ _, by simp, hread, hleaf⟩)

/-- Keys that part from those of a write are read as before it. -/
theorem getKeys?_writeKeys_of_apart {value document : Json} {keys others : List String}
    (h : ¬ keys <+: others) (h' : ¬ others <+: keys) :
    (writeKeys value keys document).1.getKeys? others = document.getKeys? others := by
  induction keys generalizing document others with
  | nil => exact absurd List.nil_prefix h
  | cons key rest ih =>
      cases others with
      | nil => exact absurd List.nil_prefix h'
      | cons other more =>
          cases hobject : document.isObject with
          | false => rw [writeKeys_of_not_isObject _ hobject]
          | true =>
              obtain ⟨fields, rfl⟩ := exists_eq_obj hobject
              by_cases hkey : other = key
              · subst hkey
                have hrest : ¬ rest <+: more := fun hp => h (List.cons_prefix_cons.2 ⟨rfl, hp⟩)
                have hmore : ¬ more <+: rest := fun hp => h' (List.cons_prefix_cons.2 ⟨rfl, hp⟩)
                cases rest with
                | nil => exact absurd List.nil_prefix hrest
                | cons next tail =>
                    rw [writeKeys_cons_cons, getKeys?_obj_cons, getKeys?_obj_cons,
                      Fields.get?_set_self, Option.bind_some, ih hrest hmore]
                    cases hget : Fields.get? other fields with
                    | some inner => rfl
                    | none =>
                        -- The empty object that stands in for a missing key holds nothing.
                        cases more with
                        | nil => exact absurd List.nil_prefix hmore
                        | cons head tail' => simp [Fields.get?]
              · cases rest with
                | nil => simp [writeKeys, Fields.get?_set_of_ne hkey]
                | cons next tail => simp [writeKeys_cons_cons, Fields.get?_set_of_ne hkey]

/-- A value other than an object stays in its place, unless a write replaces it or an object above
it. -/
theorem getKeys?_writeKeys_of_leaf {value document leaf : Json} {keys others : List String}
    (h : ¬ keys <+: others) (hread : document.getKeys? others = some leaf)
    (hleaf : leaf.isObject = false) :
    (writeKeys value keys document).1.getKeys? others = some leaf := by
  by_cases hbelow : others <+: keys
  · obtain ⟨more, rfl⟩ := hbelow
    cases more with
    | nil => simp at h
    | cons next more =>
        rw [writeKeys_of_refused (writeKeys_below_leaf next more hread hleaf)]
        exact hread
  · rw [getKeys?_writeKeys_of_apart h hbelow]
    exact hread

end Json
end WaterRegistry
