import Mathlib.Data.Set.List
import WaterRegistry.Proofs.Document.ReadBack
import WaterRegistry.Proofs.Document.Reading
import WaterRegistry.Proofs.Search.SameQuery

/-!
# Queries as documents

A query is written as a document with four fields, of which the filters may be left out if there are
none, and the offset if it is zero.  Whoever reads such a document gets the query back: the order of
fields does not matter, fields of other names are not looked at, and the values that filters ask for
may be any documents, even such that look like filters.  Where the fields of a value stand in another
order, the query that is read asks for the same documents.
-/

namespace WaterRegistry

namespace Filter

/-- A filter is read back, whatever its value looks like. -/
theorem read_ofJson {filter : Filter} (h : filter.value.distinctKeys = true) :
    Filter.read (Outline.ofJson filter.toJson) = .ok filter := by
  obtain ⟨value⟩ := filter
  have hread : Reader.json (Outline.ofJson value) = .ok value := Reader.json_ofJson value h
  have hkey : Reader.orFault (Outline.keyText (.text (.ok "eq") none)) = .ok "eq" := rfl
  simp only [toJson, Outline.ofJson, Outline.ofFields, Filter.read, hkey, hread, bind, Except.bind,
    if_true, Reader.unlessFault, pure, Except.pure]

/-- The value of a filter that is read has been read itself. -/
theorem distinctKeys_of_read {outline : Outline} {filter : Filter}
    (h : Filter.read outline = .ok filter) : filter.value.distinctKeys = true := by
  unfold Filter.read at h
  split at h
  · cases h
  · obtain ⟨name, _, hname⟩ := exists_of_bind_eq_ok h
    split at hname
    · obtain ⟨value, hvalue, hrest⟩ := exists_of_bind_eq_ok hname
      split at hrest
      · obtain ⟨_, _, hfilter⟩ := exists_of_bind_eq_ok hrest
        cases hfilter
        exact Reader.distinctKeys_of_json _ hvalue
      · cases hrest
    · cases hname
  · obtain ⟨name, _, hname⟩ := exists_of_bind_eq_ok h
    split at hname
    · cases hname
    · cases hname
  · cases h
  · cases h

/-- Filters are the same exactly if their documents are. -/
theorem same_toJson_iff {filter other : Filter} :
    filter.toJson.same other.toJson = true ↔ filter.Same other := by
  obtain ⟨value⟩ := filter
  obtain ⟨second⟩ := other
  simp [Json.same_iff, toJson, Filter.Same, Filter.value, Json.canonical, Json.canonicalFields,
    SortedTable.place]

theorem rel_same_of_map_canonical_eq {found second : Option Filter}
    (h : (found.map toJson).map Json.canonical = (second.map toJson).map Json.canonical) :
    Option.Rel Filter.Same found second := by
  cases found with
  | none =>
      cases second with
      | none => exact .none
      | some other => simp at h
  | some filter =>
      cases second with
      | none => simp at h
      | some other => exact .some (same_toJson_iff.1 (Json.same_iff.2 (by simpa using h)))

theorem distinctKeys_toJson (filter : Filter) :
    filter.toJson.distinctKeys = filter.value.distinctKeys := by
  obtain ⟨value⟩ := filter
  simp [toJson, Filter.value, Json.distinctKeys, Json.distinctKeysFields]

/-- A document that is the same as that of a filter is the document of a filter. -/
theorem exists_of_same {document : Json} {filter : Filter} (hdistinct : document.distinctKeys = true)
    (h : document.same filter.toJson = true) : ∃ other : Filter, document = other.toJson := by
  obtain ⟨value⟩ := filter
  obtain ⟨fields, rfl⟩ := Json.exists_obj_of_same h
  have hperm : (fields.map (·.1)).Perm ["eq"] :=
    Json.keys_perm_of_same h (Json.distinctKeys_obj_iff.1 hdistinct).1 (List.nodup_singleton _)
  obtain ⟨⟨name, found⟩, rfl, hname⟩ := List.map_eq_singleton_iff.1 (List.perm_singleton.1 hperm)
  obtain rfl : name = "eq" := hname
  exact ⟨.eq found, rfl⟩

end Filter

namespace SearchQuery

/-- Whether the values that the filters ask for name every key once, as documents do that have been
read. -/
def HasDistinctKeys (query : SearchQuery) : Prop :=
  ∀ entry ∈ query.filters.entries, entry.2.value.distinctKeys = true

theorem hasDistinctKeys_forEntity (entityType : String) :
    (forEntity entityType).HasDistinctKeys :=
  fun _ hentry => absurd hentry List.not_mem_nil

/-- Asking for another value keeps the others as they are. -/
theorem HasDistinctKeys.withEq {query : SearchQuery} (h : query.HasDistinctKeys) (path : String)
    {value : Json} (hvalue : value.distinctKeys = true) :
    (query.withEq path value).HasDistinctKeys := by
  intro entry hentry
  rcases SortedTable.mem_place hentry with rfl | hold
  · exact hvalue
  · exact h entry hold

/-- Queries that have been read ask for documents that have been read. -/
theorem hasDistinctKeys_of_read {outline : Outline} {query : SearchQuery}
    (h : shape.read outline = .ok query) : query.HasDistinctKeys := by
  refine RecordShape.holds_of_read (hasDistinctKeys_forEntity "") ?_ h
  intro field hfield found item next hfound hassign
  simp only [shape, List.mem_cons, List.not_mem_nil, or_false] at hfield
  rcases hfield with rfl | rfl | rfl | rfl
  · obtain ⟨types, _, hnext⟩ := exists_of_bind_eq_ok hassign
    cases hnext
    exact hfound
  · obtain ⟨filters, hfilters, hnext⟩ := exists_of_bind_eq_ok hassign
    cases hnext
    intro entry hentry
    obtain ⟨item, hitem⟩ := Reader.exists_read_of_mem_table hfilters entry
      (SortedTable.mem_of_mem_ofEntries hentry)
    exact Filter.distinctKeys_of_read hitem
  · obtain ⟨limit, _, hnext⟩ := exists_of_bind_eq_ok hassign
    cases hnext
    exact hfound
  · obtain ⟨offset, _, hnext⟩ := exists_of_bind_eq_ok hassign
    cases hnext
    exact hfound

/-- The filters of a query as fields. -/
def filterFields (query : SearchQuery) : Fields :=
  query.filters.entries.map fun entry => (entry.1, entry.2.toJson)

/-- The fields of the document that a query is written as. -/
def fields (query : SearchQuery) : Fields := [
  ("entityType", .arr (query.entityTypes.map .str)),
  ("filters", .obj query.filterFields),
  ("limit", .ofNat query.limit),
  ("offset", .ofNat query.offset)]

theorem toJson_eq (query : SearchQuery) : query.toJson = .obj query.fields :=
  rfl

/-- Whether a field may be left out of the document: the filters if there are none, and the offset
if it is zero. -/
def MayOmit (query : SearchQuery) (name : String) : Prop :=
  name = "filters" ∧ query.filters = .empty ∨ name = "offset" ∧ query.offset = 0

/-- Whether an object is a way to write the query: under the name of each field it has a value that
agrees with the one in the query's own document, or nothing where the field may be left out.  What
it has under other names and in which order does not matter. -/
def WrittenAs (agree : Json → Json → Prop) (query : SearchQuery) (object : Fields) : Prop :=
  ∀ field ∈ query.fields,
    (∃ value, Fields.get? field.1 object = some value ∧ agree value field.2) ∨
      Fields.get? field.1 object = none ∧ query.MayOmit field.1

/-- Whether a query has, for the field of a name, what another query has. -/
def HasFieldOf (query : SearchQuery) (name : String) (found : SearchQuery) : Prop :=
  (name = "entityType" → found.entityTypes = query.entityTypes) ∧
  (name = "filters" → found.filters = query.filters) ∧
  (name = "limit" → found.limit = query.limit) ∧
  (name = "offset" → found.offset = query.offset)

/-- An object from which a query is read: it has the types and the limit of the query, the documents
of filters that make up those of the query, and the offset, or nothing in place of the last two if
there are no filters and if the offset is zero. -/
structure Yields (object : Fields) (entries : List (String × Filter)) (query : SearchQuery) : Prop where
  distinct : (object.map (·.1)).Nodup
  distinctKeys : ∀ entry ∈ entries, entry.2.value.distinctKeys = true
  entityTypes : Fields.get? "entityType" object = some (.arr (query.entityTypes.map .str))
  filters : Fields.get? "filters" object =
      some (.obj (entries.map fun entry => (entry.1, entry.2.toJson))) ∨
    Fields.get? "filters" object = none ∧ entries = []
  filters_eq : query.filters = .ofEntries entries
  limit : Fields.get? "limit" object = some (.ofNat query.limit)
  offset : Fields.get? "offset" object = some (.ofNat query.offset) ∨
    Fields.get? "offset" object = none ∧ query.offset = 0

namespace Yields

variable {object : Fields} {entries : List (String × Filter)} {query : SearchQuery}

/-- Each field that the object has is assigned what the query has. -/
theorem assigns (h : Yields object entries query) {field : FieldShape SearchQuery}
    (hfield : field ∈ shape.fields) {document : Json}
    (hdocument : Fields.get? field.name object = some document) :
    RecordShape.Assigns query.HasFieldOf field document := by
  simp only [shape, List.mem_cons, List.not_mem_nil, or_false] at hfield
  rcases hfield with rfl | rfl | rfl | rfl
  · have htypes : document = .arr (query.entityTypes.map .str) := by
      simpa [hdocument] using h.entityTypes
    subst htypes
    refine RecordShape.assigns_of_read (fun found types => { found with entityTypes := types })
      (fun _ _ => rfl) (Reader.list_ofJson fun _ _ => rfl) ?_ ?_
    · simp [HasFieldOf]
    · simp +contextual [HasFieldOf]
  · have hfilters : document = .obj (entries.map fun entry => (entry.1, entry.2.toJson)) := by
      simpa [hdocument] using h.filters
    subst hfilters
    refine RecordShape.assigns_of_read
      (fun found filters => { found with filters := .ofEntries filters }) (fun _ _ => rfl)
      (Reader.table_ofJson fun entry hentry => Filter.read_ofJson (h.distinctKeys entry hentry))
      ?_ ?_
    · simp [HasFieldOf, h.filters_eq]
    · simp +contextual [HasFieldOf]
  · have hlimit : document = .ofNat query.limit := by
      simpa [hdocument] using h.limit
    subst hlimit
    refine RecordShape.assigns_of_read (fun found limit => { found with limit })
      (fun _ _ => rfl) (Reader.natural_ofJson "usize" query.limit) ?_ ?_
    · simp [HasFieldOf]
    · simp +contextual [HasFieldOf]
  · have hoffset : document = .ofNat query.offset := by
      simpa [hdocument] using h.offset
    subst hoffset
    refine RecordShape.assigns_of_read (fun found offset => { found with offset })
      (fun _ _ => rfl) (Reader.natural_ofJson "usize" query.offset) ?_ ?_
    · simp [HasFieldOf]
    · simp +contextual [HasFieldOf]

/-- What the object leaves out the query has from the start, and it need not be given. -/
theorem blank (h : Yields object entries query) {field : FieldShape SearchQuery}
    (hfield : field ∈ shape.fields) (hmissing : Fields.get? field.name object = none) :
    field.required = false ∧ query.HasFieldOf field.name shape.blank := by
  simp only [shape, List.mem_cons, List.not_mem_nil, or_false] at hfield
  rcases hfield with rfl | rfl | rfl | rfl
  · simp [h.entityTypes] at hmissing
  · have hnone : entries = [] := by simpa [hmissing] using h.filters
    simp [HasFieldOf, shape, h.filters_eq, hnone, SortedTable.ofEntries]
  · simp [h.limit] at hmissing
  · have hzero : query.offset = 0 := by simpa [hmissing] using h.offset
    simp [HasFieldOf, shape, hzero]

/-- The query is what is read from the object, whatever else it has and in whichever order. -/
theorem ofJson?_eq (h : Yields object entries query) : ofJson? (.obj object) = .ok query := by
  obtain ⟨found, hread, hfields⟩ := RecordShape.exists_read h.distinct
    (fun _ hfield _ => h.assigns hfield) (fun _ => h.blank)
  simp only [shape, List.forall_mem_cons] at hfields
  obtain ⟨⟨htypes, _⟩, ⟨_, hfilters, _⟩, ⟨_, _, hlimit, _⟩, ⟨_, _, _, hoffset⟩, _⟩ := hfields
  have hfound : found = query := by
    cases found
    cases query
    simp_all
  rw [← hfound]
  exact hread

end Yields

/-- An object that has the values of the query's own document yields the query. -/
theorem WrittenAs.yields {query : SearchQuery} {object : Fields} (h : query.WrittenAs (· = ·) object)
    (hvalues : query.HasDistinctKeys) (hdistinct : (object.map (·.1)).Nodup) :
    Yields object query.filters.entries query := by
  simp only [WrittenAs, fields, List.forall_mem_cons, exists_eq_right] at h
  obtain ⟨htypes, hfilters, hlimit, hoffset, _⟩ := h
  refine ⟨hdistinct, hvalues, ?_, ?_, (SortedTable.ofEntries_entries _).symm, ?_, ?_⟩
  · simpa [MayOmit] using htypes
  · refine hfilters.imp_right fun hmissing => ⟨hmissing.1, ?_⟩
    have hempty : query.filters = .empty := by simpa [MayOmit] using hmissing.2
    rw [hempty]
    rfl
  · simpa [MayOmit] using hlimit
  · simpa [MayOmit] using hoffset

/-- An object that is the same as the document of some filters is made of documents of filters. -/
theorem exists_entries_of_same {object : Fields} {query : SearchQuery}
    (hdistinct : (Json.obj object).distinctKeys = true)
    (h : (Json.obj object).same (.obj query.filterFields) = true) :
    ∃ entries : List (String × Filter),
      object = entries.map fun entry => (entry.1, entry.2.toJson) := by
  obtain ⟨hkeys, hvalues⟩ := Json.distinctKeys_obj_iff.1 hdistinct
  have hwritten : object ∈ Set.range (List.map fun entry : String × Filter =>
      (entry.1, entry.2.toJson)) := by
    rw [Set.range_list_map]
    rintro ⟨path, value⟩ hmem
    have hpath := Json.same_obj_iff.1 h path
    rw [(Fields.get?_eq_some_iff hkeys).2 hmem, filterFields, Fields.get?_map_write] at hpath
    cases hfilter : query.filters.entries.lookup path with
    | none => simp [hfilter] at hpath
    | some filter =>
        have hsame : value.same filter.toJson = true := by
          rw [Json.same_iff]
          simpa [hfilter] using hpath
        obtain ⟨other, rfl⟩ := Filter.exists_of_same (hvalues _ hmem) hsame
        exact ⟨(path, other), rfl⟩
  obtain ⟨entries, hentries⟩ := hwritten
  exact ⟨entries, hentries.symm⟩

/-- Then they are on the same paths, for values that are the same. -/
theorem rel_filters_of_same {entries : List (String × Filter)} {query : SearchQuery}
    (hpaths : (entries.map (·.1)).Nodup)
    (h : (Json.obj (entries.map fun entry => (entry.1, entry.2.toJson))).same
      (.obj query.filterFields) = true) (path : String) :
    Option.Rel Filter.Same ((SortedTable.ofEntries entries).get? path)
      (query.filters.get? path) := by
  have hpath := Json.same_obj_iff.1 h path
  rw [filterFields, Fields.get?_map_write, Fields.get?_map_write] at hpath
  rw [SortedTable.get?_ofEntries hpaths]
  exact Filter.rel_same_of_map_canonical_eq hpath

/-- The filters that an object has for those of a query, if it has the same value for them. -/
theorem WrittenAs.exists_filters {query : SearchQuery} {object : Fields}
    (h : query.WrittenAs (fun value own => value.same own = true) object)
    (hdistinct : (Json.obj object).distinctKeys = true) :
    ∃ entries : List (String × Filter),
      (Fields.get? "filters" object =
          some (.obj (entries.map fun entry => (entry.1, entry.2.toJson))) ∨
        Fields.get? "filters" object = none ∧ entries = []) ∧
      (∀ entry ∈ entries, entry.2.value.distinctKeys = true) ∧
      ∀ path, Option.Rel Filter.Same ((SortedTable.ofEntries entries).get? path)
        (query.filters.get? path) := by
  simp only [WrittenAs, fields, List.forall_mem_cons] at h
  obtain ⟨_, ⟨value, hvalue, hsame⟩ | ⟨hnone, homit⟩, _⟩ := h
  · have hinner : value.distinctKeys = true :=
      (Json.distinctKeys_obj_iff.1 hdistinct).2 _ (Fields.mem_of_get?_eq_some hvalue)
    obtain ⟨inner, rfl⟩ := Json.exists_obj_of_same hsame
    obtain ⟨entries, rfl⟩ := exists_entries_of_same hinner hsame
    obtain ⟨hkeys, hdocuments⟩ := Json.distinctKeys_obj_iff.1 hinner
    refine ⟨entries, .inl hvalue, fun entry hentry => ?_, rel_filters_of_same ?_ hsame⟩
    · rw [← Filter.distinctKeys_toJson]
      exact hdocuments _ (List.mem_map_of_mem hentry)
    · rw [List.map_map] at hkeys
      exact hkeys
  · have hempty : query.filters = .empty := by simpa [MayOmit] using homit
    refine ⟨[], .inr ⟨hnone, rfl⟩, by simp, fun path => ?_⟩
    rw [hempty]
    exact .none

/-- An object that has the same values as the query's own document, down to the order of fields,
yields a query that is the same. -/
theorem WrittenAs.exists_yields {query : SearchQuery} {object : Fields}
    (h : query.WrittenAs (fun value own => value.same own = true) object)
    (hdistinct : (Json.obj object).distinctKeys = true) :
    ∃ entries found, Yields object entries found ∧ found.Same query := by
  obtain ⟨entries, hentries, hdocuments, hrel⟩ := h.exists_filters hdistinct
  simp only [WrittenAs, fields, List.forall_mem_cons] at h
  obtain ⟨htypes, _, hlimit, hoffset, _⟩ := h
  have hnumber {name : String} {n : Nat}
      (hsome : ∃ value, Fields.get? name object = some value ∧ value.same (.ofNat n) = true) :
      Fields.get? name object = some (.ofNat n) := by
    obtain ⟨value, hvalue, hsame⟩ := hsome
    rw [hvalue, Json.eq_of_same_ofNat hsame]
  refine ⟨entries, { query with filters := .ofEntries entries },
    ⟨(Json.distinctKeys_obj_iff.1 hdistinct).1, hdocuments, ?_, hentries, rfl, ?_, ?_⟩,
    ⟨rfl, hrel, rfl, rfl⟩⟩
  · obtain ⟨value, hvalue, hsame⟩ : ∃ value, Fields.get? "entityType" object = some value ∧
        value.same (.arr (query.entityTypes.map .str)) = true := by simpa [MayOmit] using htypes
    rw [hvalue, Json.eq_of_same_strs hsame]
  · exact hnumber (by simpa [MayOmit] using hlimit)
  · exact hoffset.imp hnumber (And.imp_right fun homit => by simpa [MayOmit] using homit)

/-- A query is read back from its document, whatever the values are that its filters ask for, as long
as they name every key once.  It is also read from every object that has the values of that document
under the names of its fields, in any order and beside any other fields, where filters may be left out
if there are none and the offset if it is zero.  If the values differ from those in the document in the
order of their fields, a query comes out that is the same and has the same response from every store,
and its values name every key once again. -/
theorem documents_read_back (query : SearchQuery) (hvalues : query.HasDistinctKeys) :
    ofJson? query.toJson = .ok query ∧
    (∀ object : Fields, (object.map (·.1)).Nodup → query.WrittenAs (· = ·) object →
      ofJson? (.obj object) = .ok query) ∧
    ∀ object : Fields, (Json.obj object).distinctKeys = true →
      query.WrittenAs (fun value own => value.same own = true) object →
      ∃ found, ofJson? (.obj object) = .ok found ∧ found.Same query ∧
        (∀ store : Store, store.search found = store.search query) ∧ found.HasDistinctKeys := by
  have hread (object : Fields) (hdistinct : (object.map (·.1)).Nodup)
      (hwritten : query.WrittenAs (· = ·) object) : ofJson? (.obj object) = .ok query :=
    (hwritten.yields hvalues hdistinct).ofJson?_eq
  refine ⟨?_, hread, ?_⟩
  · have hnames : (query.fields.map (·.1)).Nodup := by
      change ["entityType", "filters", "limit", "offset"].Nodup
      decide
    rw [toJson_eq]
    exact hread query.fields hnames fun field hfield =>
      .inl ⟨field.2, (Fields.get?_eq_some_iff hnames).2 hfield, rfl⟩
  · intro object hdistinct hwritten
    obtain ⟨entries, found, hyields, hsame⟩ := hwritten.exists_yields hdistinct
    have hfound : shape.read (Outline.ofJson (.obj object)) = .ok found := hyields.ofJson?_eq
    exact ⟨found, hfound, hsame, hsame.search_eq, hasDistinctKeys_of_read hfound⟩

/-- A query with values that look like a filter and like a part of a query. -/
def lookalikeQuery : SearchQuery :=
  ((forEntity "WaterFacility").withEq "wfId" (.obj [("eq", .obj [("eq", .null)])])
    |>.withEq "location" (.obj [("filters", .arr []), ("limit", .ofNat 1)])).withLimit 5

/-- The fields of this query in another order, without the offset and with a field of another name. -/
def looseFields : Fields := [
  ("limit", .ofNat 5),
  ("sort", .arr [.str "wfId"]),
  ("filters", .obj lookalikeQuery.filterFields),
  ("entityType", .arr [.str "WaterFacility"])]

/-- The fields of this query with the filters and the fields of their values in another order. -/
def reorderedFields : Fields := [
  ("offset", .ofNat 0),
  ("filters", .obj [
    ("wfId", .obj [("eq", .obj [("eq", .obj [("eq", .null)])])]),
    ("location", .obj [("eq", .obj [("limit", .ofNat 1), ("filters", .arr [])])])]),
  ("limit", .ofNat 5),
  ("entityType", .arr [.str "WaterFacility"])]

/-- Values that look like filters come back as values. -/
theorem documents_read_back_of_lookalikes :
    lookalikeQuery.HasDistinctKeys ∧ ofJson? lookalikeQuery.toJson = .ok lookalikeQuery ∧
    (looseFields.map (·.1)).Nodup ∧ lookalikeQuery.WrittenAs (· = ·) looseFields ∧
    ofJson? (.obj looseFields) = .ok lookalikeQuery ∧
    (Json.obj reorderedFields).distinctKeys = true ∧
    lookalikeQuery.WrittenAs (fun value own => value.same own = true) reorderedFields ∧
    ∃ found, ofJson? (.obj reorderedFields) = .ok found ∧ found.Same lookalikeQuery := by
  have hvalues : lookalikeQuery.HasDistinctKeys :=
    ((hasDistinctKeys_forEntity _).withEq "wfId" (by decide)).withEq "location" (by decide)
  have hloose : (looseFields.map (·.1)).Nodup := by decide
  have hwritten : lookalikeQuery.WrittenAs (· = ·) looseFields := by
    simp only [WrittenAs, fields, List.forall_mem_cons]
    exact ⟨.inl ⟨_, rfl, rfl⟩, .inl ⟨_, rfl, rfl⟩, .inl ⟨_, rfl, rfl⟩,
      .inr ⟨rfl, .inr ⟨rfl, rfl⟩⟩, by simp⟩
  have hreordered : (Json.obj reorderedFields).distinctKeys = true := by decide
  have hsame : lookalikeQuery.WrittenAs (fun value own => value.same own = true)
      reorderedFields := by
    simp only [WrittenAs, fields, List.forall_mem_cons]
    exact ⟨.inl ⟨_, rfl, by decide⟩, .inl ⟨_, rfl, by decide⟩, .inl ⟨_, rfl, by decide⟩,
      .inl ⟨_, rfl, by decide⟩, by simp⟩
  obtain ⟨hown, hexact, hlike⟩ := documents_read_back lookalikeQuery hvalues
  obtain ⟨found, hread, hfound, _⟩ := hlike reorderedFields hreordered hsame
  exact ⟨hvalues, hown, hloose, hwritten, hexact looseFields hloose hwritten, hreordered, hsame,
    found, hread, hfound⟩

end SearchQuery
end WaterRegistry
