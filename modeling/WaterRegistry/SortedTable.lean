/-!
# Tables sorted by key

A finite map from texts to values, kept as its entries in ascending order of their keys.  Texts are
ordered by code points, which is also the order of their UTF-8 bytes.  Each map has one
representation, so equal tables are tables with equal entries.
-/

namespace WaterRegistry

/-- A finite map from texts, as its entries in ascending order of keys. -/
structure SortedTable (α : Type) where
  entries : List (String × α)
  ascending : entries.Pairwise fun a b => a.1 < b.1

namespace SortedTable

variable {α : Type}

instance [DecidableEq α] : DecidableEq (SortedTable α) := fun a b =>
  decidable_of_iff (a.entries = b.entries) (by cases a; cases b; simp)

/-- Puts an entry into ascending entries, in place of one with the same key. -/
def place (key : String) (value : α) : List (String × α) → List (String × α)
  | [] => [(key, value)]
  | (name, old) :: rest =>
    if key < name then (key, value) :: (name, old) :: rest
    else if key = name then (key, value) :: rest
    else (name, old) :: place key value rest

/-- Placing an entry brings in no other new entry. -/
theorem mem_place {key : String} {value : α} {entries : List (String × α)} {entry : String × α}
    (h : entry ∈ place key value entries) : entry = (key, value) ∨ entry ∈ entries := by
  induction entries with
  | nil => simpa [place] using h
  | cons head rest ih =>
      obtain ⟨name, old⟩ := head
      unfold place at h
      split at h
      · simpa using h
      · split at h
        · rcases List.mem_cons.1 h with h | h
          · exact .inl h
          · exact .inr (List.mem_cons_of_mem _ h)
        · rcases List.mem_cons.1 h with h | h
          · exact .inr (by simp [h])
          · exact (ih h).imp_right (List.mem_cons_of_mem _)

/-- Placing an entry keeps the order of keys. -/
theorem place_ascending {key : String} {value : α} {entries : List (String × α)}
    (h : entries.Pairwise fun a b => a.1 < b.1) :
    (place key value entries).Pairwise fun a b => a.1 < b.1 := by
  induction entries with
  | nil => simp [place]
  | cons head rest ih =>
      obtain ⟨name, old⟩ := head
      rw [List.pairwise_cons] at h
      unfold place
      split
      · rename_i hlt
        refine List.pairwise_cons.2 ⟨fun entry hmem => ?_, List.pairwise_cons.2 h⟩
        rcases List.mem_cons.1 hmem with rfl | hmem
        · exact hlt
        · exact String.lt_trans hlt (h.1 entry hmem)
      · split
        · rename_i heq
          subst heq
          exact List.pairwise_cons.2 h
        · rename_i hlt hne
          refine List.pairwise_cons.2 ⟨fun entry hmem => ?_, ih h.2⟩
          rcases mem_place hmem with rfl | hmem
          · rcases Decidable.em (name < key) with hgt | hgt
            · exact hgt
            · exact absurd (String.le_antisymm (String.not_lt.1 hgt) (String.not_lt.1 hlt)) hne
          · exact h.1 entry hmem

/-- The table without entries. -/
def empty : SortedTable α :=
  ⟨[], .nil⟩

/-- Sets the value of a key. -/
def insert (key : String) (value : α) (table : SortedTable α) : SortedTable α :=
  ⟨place key value table.entries, place_ascending table.ascending⟩

/-- The value of a key. -/
def get? (key : String) (table : SortedTable α) : Option α :=
  table.entries.lookup key

/-- Looking a key up tries the first entry before the others. -/
theorem lookup_cons_eq_ite (name other : String) (value : α) (entries : List (String × α)) :
    ((name, value) :: entries).lookup other =
      if other = name then some value else entries.lookup other := by
  rw [List.lookup_cons]
  by_cases h : other = name
  · rw [if_pos h, beq_iff_eq.2 h]
  · rw [if_neg h, beq_eq_false_iff_ne.2 h]

/-- Placing an entry changes what its own key gives, and nothing else. -/
theorem lookup_place (key other : String) (value : α) (entries : List (String × α)) :
    (place key value entries).lookup other =
      if other = key then some value else entries.lookup other := by
  induction entries with
  | nil => simp [place, lookup_cons_eq_ite]
  | cons head rest ih =>
      obtain ⟨name, old⟩ := head
      unfold place
      split
      · rw [lookup_cons_eq_ite]
      · split
        · rename_i heq
          subst heq
          by_cases h : other = key <;> simp [lookup_cons_eq_ite, h]
        · rename_i hne
          rw [lookup_cons_eq_ite, lookup_cons_eq_ite, ih]
          by_cases hname : other = name
          · simp [hname, Ne.symm hne]
          · simp [hname]

@[simp] theorem get?_empty (key : String) : (empty : SortedTable α).get? key = none :=
  rfl

/-- Setting a key changes its own value only. -/
theorem get?_insert (key other : String) (value : α) (table : SortedTable α) :
    (table.insert key value).get? other = if other = key then some value else table.get? other :=
  lookup_place key other value table.entries

/-- A table gives for a key what its entry says. -/
theorem get?_eq_some_iff {table : SortedTable α} {key : String} {value : α} :
    table.get? key = some value ↔ (key, value) ∈ table.entries := by
  rw [get?, List.lookup_eq_some_iff]
  constructor
  · rintro ⟨before, after, hentries, _⟩
    rw [hentries]
    exact List.mem_append_right _ List.mem_cons_self
  · intro hmem
    obtain ⟨before, after, hentries⟩ := List.append_of_mem hmem
    have hascending := table.ascending
    rw [hentries, List.pairwise_append] at hascending
    refine ⟨before, after, hentries, fun entry hentry => ?_⟩
    -- The keys in front are smaller, so none of them is this one.
    have hlt : entry.1 < key := hascending.2.2 entry hentry _ List.mem_cons_self
    simpa using (String.ne_of_lt hlt).symm

/-- The number of keys. -/
def size (table : SortedTable α) : Nat :=
  table.entries.length

/-- Whether there are no entries. -/
def isEmpty (table : SortedTable α) : Bool :=
  table.entries.isEmpty

/-- The table that setting keys in turn gives: of repeated keys the last value counts. -/
def ofEntries (entries : List (String × α)) : SortedTable α :=
  entries.foldl (fun table entry => table.insert entry.1 entry.2) empty

end SortedTable
end WaterRegistry
