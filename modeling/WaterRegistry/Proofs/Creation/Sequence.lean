import Mathlib.Algebra.GroupWithZero.Nat
import WaterRegistry.Proofs.Creation.RootKey
import WaterRegistry.Proofs.Creation.Run
import WaterRegistry.Proofs.Generator.Sequence

/-!
# Creations numbered by a sequence

A sequence serves all types of a registry from one counter.  Where the identifiers are fields of the
documents themselves, every value that is stored in such a field has been numbered below the counter,
and two fields never hold the same value: not in one document, not in two, and not in documents of
different types.  So what is numbered next is stored nowhere, and no creation is refused for it.
-/

namespace WaterRegistry
namespace Config

/-- The names of the fields of a type's documents that identifiers are written into. -/
def identifierKeys (config : Config) (entityType : String) : List String :=
  match config.schema? entityType with
  | some schema => schema.identifierFields.map (·.bareName)
  | none => []

/-- All identifiers are fields of the documents themselves. -/
def HasRootKeys (config : Config) : Prop :=
  ∀ schema ∈ config.schemas, ∀ field ∈ schema.identifierFields, field.IsRootKey

instance (config : Config) : Decidable config.HasRootKeys :=
  inferInstanceAs (Decidable (∀ schema ∈ config.schemas, ∀ field ∈ schema.identifierFields,
    field.IsRootKey))

end Config

/-- A place for an identifier: a field of the entity with an index among those of its type. -/
structure IdentifierPlace where
  entityType : String
  index : Nat
  key : String
  deriving DecidableEq

namespace IdentifierPlace

/-- A store has an entity there, and its type has an identifier in that field. -/
def IsIn (config : Config) (store : Store) (place : IdentifierPlace) : Prop :=
  place.index < (store.documentsOf place.entityType).length ∧
    place.key ∈ config.identifierKeys place.entityType

/-- The value that a store has there. -/
def value? (store : Store) (place : IdentifierPlace) : Option Json :=
  (store.documentsOf place.entityType)[place.index]?.bind fun document => document.get? place.key

end IdentifierPlace

namespace Draft

variable {config : Config} {root : Json} {draft : Draft}

theorem identifierKeys_eq (hdraft : ofRoot config root = .ok draft) :
    config.identifierKeys draft.entityType = draft.fields.map (·.bareName) := by
  obtain ⟨_, _, schema, _, hschema, _, hfields⟩ := ofRoot_eq_ok hdraft
  rw [Config.identifierKeys, hschema, hfields]

theorem isRootKey (hkeys : config.HasRootKeys) (hdraft : ofRoot config root = .ok draft) :
    ∀ field ∈ draft.fields, field.IsRootKey := by
  obtain ⟨_, _, schema, _, hschema, _, hfields⟩ := ofRoot_eq_ok hdraft
  rw [hfields]
  exact hkeys schema (List.mem_of_find?_eq_some hschema)

/-- Whatever the client has put there, a filled document holds numbers in all of its identifier
fields, and a different one in each. -/
theorem exists_fill_numbered {requested : List IdentifierField}
    (hkeys : ∀ field ∈ requested, field.IsRootKey) (label : String) {next : UInt64}
    (hroom : next.toNat + requested.length < 2 ^ 64) (fields : Fields) :
    ∃ filled,
      fill (.obj fields) (Generator.numberFields label next .empty requested).1 = .obj filled ∧
      Generator.Numbers label next.toNat (next.toNat + requested.length)
        (· ∈ requested.map (·.bareName)) fun key => Fields.get? key filled := by
  have hpaths : ∀ entry ∈ (Generator.numberFields label next .empty requested).1.entries,
      IdentifierField.IsRootKey ⟨entry.1⟩ := by
    intro entry hentry
    obtain ⟨field, hfield, hpath⟩ :=
      (Generator.exists_mem_numberFields_iff label next).1 ⟨entry, hentry, rfl⟩
    rw [← hpath]
    exact hkeys field hfield
  obtain ⟨filled, hfilled, hall⟩ := fill_of_isRootKey hpaths fields
  have hempty : Generator.NumbersTexts label next.toNat next.toNat .empty :=
    .of_forall_not label next.toNat _ fun _ => List.not_mem_nil
  have htexts := Generator.numbersTexts_numberFields hempty (Nat.le_refl _) hroom
  refine ⟨filled, hfilled, htexts.transfer keyOf fun key hkey => ?_⟩
  obtain ⟨field, hfield, rfl⟩ := List.mem_map.1 hkey
  -- The text that is written last under the name may be that of another path.
  rcases hall field.bareName with ⟨last, hlast, hown, hget⟩ | ⟨hnone, _⟩
  · exact ⟨last, hlast, hown, hget⟩
  · obtain ⟨entry, hentry, hpath⟩ :=
      (Generator.exists_mem_numberFields_iff label next).2 ⟨field, hfield, rfl⟩
    refine absurd ?_ (hnone entry hentry)
    rw [keyOf, hpath]

end Draft

namespace Store

/-- The values that are stored in identifier fields have been numbered below `next`, and no two of
them are the same. -/
def Sequenced (config : Config) (label : String) (next : Nat) (store : Store) : Prop :=
  Generator.Numbers label 1 next (IdentifierPlace.IsIn config store) (IdentifierPlace.value? store)

theorem sequenced_empty (config : Config) (label : String) : Sequenced config label 1 empty :=
  .of_forall_not label 1 _ fun _ hplace => Nat.not_lt_zero _ hplace.1

namespace Accepts

variable {config : Config} {store after : Store} {entityType : String} {fields : Fields}
  {paths : List String}

/-- Accepting a document adds the places of its own fields. -/
theorem isIn_or (h : store.Accepts entityType fields paths after) {place : IdentifierPlace}
    (hplace : place.IsIn config after) :
    place.IsIn config store ∨ ∃ key ∈ config.identifierKeys entityType,
      place = ⟨entityType, (store.documentsOf entityType).length, key⟩ := by
  obtain ⟨other, index, key⟩ := place
  obtain ⟨hindex, hkey⟩ := hplace
  dsimp only at hindex hkey
  by_cases hother : other = entityType
  · subst hother
    rw [h.documentsOf_self, List.length_append, List.length_singleton] at hindex
    by_cases hold : index < (store.documentsOf other).length
    · exact .inl ⟨hold, hkey⟩
    · have hlast : index = (store.documentsOf other).length := by omega
      exact .inr ⟨key, hkey, by rw [hlast]⟩
  · rw [h.documentsOf_of_ne hother] at hindex
    exact .inl ⟨hindex, hkey⟩

theorem value?_eq (h : store.Accepts entityType fields paths after) {place : IdentifierPlace}
    (hplace : place.IsIn config store) : place.value? after = place.value? store := by
  rw [IdentifierPlace.value?, IdentifierPlace.value?]
  by_cases hother : place.entityType = entityType
  · have hindex := hplace.1
    rw [hother] at hindex ⊢
    rw [h.documentsOf_self, List.getElem?_append_left hindex]
  · rw [h.documentsOf_of_ne hother]

theorem value?_new (h : store.Accepts entityType fields paths after) {key : String}
    (hkey : key ≠ osidField) :
    IdentifierPlace.value? after ⟨entityType, (store.documentsOf entityType).length, key⟩ =
      Fields.get? key fields := by
  rw [IdentifierPlace.value?, h.documentsOf_self, List.getElem?_concat_length, Option.bind_some]
  exact Fields.get?_set_of_ne hkey _ fields

end Accepts

namespace Sequenced

variable {config : Config} {label : String} {next high : Nat} {counter : UInt64}
  {store after : Store}

/-- Nothing that is numbered from now on is stored already. -/
theorem holds_eq_false (h : store.Sequenced config label next) {n : Nat} (hn : next ≤ n)
    {entityType : String} {field : IdentifierField} (hroot : field.IsRootKey)
    (hfield : field.bareName ∈ config.identifierKeys entityType) :
    holds (store.entitiesOf entityType) field.path (.str (Generator.sequenceText label n)) =
      false := by
  rw [Bool.eq_false_iff]
  intro hheld
  obtain ⟨entity, hentity, other, hother, hsame⟩ := holds_iff.1 hheld
  obtain ⟨index, hindex⟩ := List.getElem?_of_mem hentity
  have hdocument : (store.documentsOf entityType)[index]? = some entity.document := by
    rw [documentsOf, List.getElem?_map, hindex, Option.map_some]
  obtain ⟨hlt, _⟩ := List.getElem?_eq_some_iff.1 hdocument
  -- The document is an object, since it holds a number in this field.
  obtain ⟨m, _, hm, hvalue⟩ := h.numbered ⟨entityType, index, field.bareName⟩ ⟨hlt, hfield⟩
  rw [IdentifierPlace.value?, hdocument, Option.bind_some] at hvalue
  cases hobject : entity.document with
  | obj fields =>
      rw [hobject] at hvalue hother
      rw [hroot.pointer?_eq] at hother
      obtain rfl : other = .str (Generator.sequenceText label m) :=
        Option.some.inj (hother.symm.trans hvalue)
      rw [Json.same_str_iff, Json.str.injEq, Generator.sequenceText_inj] at hsame
      omega
  | _ =>
      rw [hobject] at hvalue
      cases hvalue

/-- A document with numbers from now on in its identifier fields holds no value that is stored. -/
theorem free (h : store.Sequenced config label next) {root : Json} {draft : Draft}
    (hkeys : config.HasRootKeys) (hdraft : Draft.ofRoot config root = .ok draft) {filled : Fields}
    (hfilled : Generator.Numbers label next high (· ∈ draft.fields.map (·.bareName))
      fun key => Fields.get? key filled) :
    ∀ path ∈ draft.fields.map (·.path), ∀ value,
      constrainedValue? (.obj filled) path = some value →
      holds (store.entitiesOf draft.entityType) path value = false := by
  intro path hpath value hvalue
  obtain ⟨field, hfield, rfl⟩ := List.mem_map.1 hpath
  have hroot := Draft.isRootKey hkeys hdraft field hfield
  have hkey : field.bareName ∈ draft.fields.map (·.bareName) := List.mem_map_of_mem hfield
  -- The store reads the field itself, and finds its number there.
  obtain ⟨n, hn, _, hget⟩ := hfilled.numbered field.bareName hkey
  obtain ⟨hfound, _⟩ := constrainedValue?_eq_some.1 hvalue
  rw [hroot.pointer?_eq, hget, Option.some.injEq] at hfound
  rw [← Draft.identifierKeys_eq hdraft] at hkey
  rw [← hfound]
  exact h.holds_eq_false hn hroot hkey

/-- Accepting such a document leaves all identifiers different. -/
theorem accepts (h : store.Sequenced config label next) (hpos : 1 ≤ next) {entityType : String}
    {filled : Fields} {paths : List String}
    (hacc : store.Accepts entityType filled paths after)
    (hfilled : Generator.Numbers label next high (· ∈ config.identifierKeys entityType)
      fun key => Fields.get? key filled)
    (hle : next ≤ high) (hosid : osidField ∉ config.identifierKeys entityType) :
    after.Sequenced config label high := by
  have hold : Generator.Numbers label 1 next (IdentifierPlace.IsIn config store)
      (IdentifierPlace.value? after) :=
    h.transfer id fun place hplace => ⟨place, hplace, rfl, hacc.value?_eq hplace⟩
  have hnew : Generator.Numbers label next high
      (fun place => ∃ key ∈ config.identifierKeys entityType,
        place = ⟨entityType, (store.documentsOf entityType).length, key⟩)
      (IdentifierPlace.value? after) := by
    apply hfilled.transfer fun key => ⟨entityType, (store.documentsOf entityType).length, key⟩
    rintro place ⟨key, hkey, rfl⟩
    -- The id is written after the numbers, but over none of them.
    refine ⟨key, hkey, rfl, hacc.value?_new ?_⟩
    rintro rfl
    exact hosid hkey
  exact (hold.append hnew hpos hle).transfer id fun place hplace =>
    ⟨place, hacc.isIn_or hplace, rfl, rfl⟩

/-- A creation is not refused, and takes one number for each of the fields of its type. -/
theorem exists_create (h : store.Sequenced config label counter.toNat) (hpos : 1 ≤ counter.toNat)
    (hkeys : config.HasRootKeys) {root : Json} {draft : Draft}
    (hdraft : Draft.ofRoot config root = .ok draft)
    (hroom : counter.toNat + draft.fields.length < 2 ^ 64) :
    ∃ filled after,
      store.insert ⟨draft.entityType,
          Draft.fill draft.document
            (Generator.numberFields label counter .empty draft.fields).1,
          draft.fields.map (·.path)⟩ = (.ok store.nextOsid, after) ∧
        store.Accepts draft.entityType filled (draft.fields.map (·.path)) after ∧
        after.Sequenced config label (counter.toNat + draft.fields.length) := by
  have hroots := Draft.isRootKey hkeys hdraft
  obtain ⟨submitted, _, _, _, _, hdocument, _⟩ := Draft.ofRoot_eq_ok hdraft
  obtain ⟨filled, hfill, hfilled⟩ := Draft.exists_fill_numbered hroots label hroom submitted
  obtain ⟨after, hinsert, hacc⟩ := insert_of_free (h.free hkeys hdraft hfilled)
  rw [← Draft.identifierKeys_eq hdraft] at hfilled
  have hosid : osidField ∉ config.identifierKeys draft.entityType := by
    rw [Draft.identifierKeys_eq hdraft]
    intro hmem
    obtain ⟨field, hfield, hname⟩ := List.mem_map.1 hmem
    exact (hroots field hfield).ne_osid hname
  refine ⟨filled, after, ?_, hacc, h.accepts hpos hacc hfilled (Nat.le_add_right _ _) hosid⟩
  rw [hdocument, hfill]
  exact hinsert

end Sequenced
end Store

namespace Draft

/-- How many fields are numbered for a request. -/
def fieldCount (config : Config) (root : Json) : Nat :=
  match ofRoot config root with
  | .ok draft => draft.fields.length
  | .error _ => 0

/-- Whether a request is for an entity of a type, and is taken on. -/
def isFor (config : Config) (entityType : String) (root : Json) : Bool :=
  match ofRoot config root with
  | .ok draft => draft.entityType = entityType
  | .error _ => false

end Draft

namespace Registry

/-- A registry over a store within reach, with a sequence as its generator. -/
def ofSequence (config : Config) (captures : Bool) (label : String) (next : UInt64)
    (store : Store) : Registry where
  config
  client := ⟨.live, store⟩
  generator := .sequence label next
  captures

/-- Serves creation requests one after the other, and gives the answers with the registry at the
end. -/
def createAll : List Json → Registry → List (Reply String) × Registry
  | [], registry => ([], registry)
  | root :: rest, registry =>
    let (reply, after) := registry.create root
    let (replies, last) := createAll rest after
    (reply :: replies, last)

theorem createAll_cons (root : Json) (rest : List Json) (registry : Registry) :
    createAll (root :: rest) registry =
      ((registry.create root).1 :: (createAll rest (registry.create root).2).1,
        (createAll rest (registry.create root).2).2) :=
  rfl

section

variable {config : Config} {captures : Bool} {label : String} {next : UInt64} {store : Store}

theorem create_ofSequence_of_error {root : Json} {error : RegistryError}
    (hdraft : Draft.ofRoot config root = .error error) :
    (ofSequence config captures label next store).create root =
      (some (.error error), ofSequence config captures label next store) := by
  simp only [create, createWith, ofSequence, hdraft]

/-- A request that is taken on is numbered, and then handed to the store.  Where there is no field, no
number is taken either. -/
theorem create_ofSequence {root : Json} {draft : Draft}
    (hdraft : Draft.ofRoot config root = .ok draft) :
    (ofSequence config captures label next store).create root =
      let (generated, last) := Generator.numberFields label next .empty draft.fields
      let (answer, after) := store.insert ⟨draft.entityType, Draft.fill draft.document generated,
        draft.fields.map (·.path)⟩
      (some answer, ofSequence config captures label last after) := by
  have hgenerate (search : SearchQuery → SearchResult) :
      (ofSequence config captures label next store).generate search root draft =
        (some (.ok (Generator.numberFields label next .empty draft.fields).1),
          ofSequence config captures label
            (Generator.numberFields label next .empty draft.fields).2 store) := by
    unfold generate
    split
    · -- The sequence is not asked, and would not have counted.
      rename_i hempty
      rw [List.isEmpty_iff.1 hempty]
      rfl
    · rfl
  rw [create, createWith]
  simp only [show (ofSequence config captures label next store).config = config from rfl, hdraft,
    hgenerate]
  rfl

/-- A request that is taken on is not refused, and adds an entity.  One that is not taken on touches
neither the counter nor the store. -/
theorem exists_create_ofSequence (captures : Bool) (hkeys : config.HasRootKeys)
    (h : store.Sequenced config label next.toNat) (hpos : 1 ≤ next.toNat) (root : Json)
    (hroom : next.toNat + Draft.fieldCount config root < 2 ^ 64) :
    ∃ reply last after,
      (ofSequence config captures label next store).create root =
        (reply, ofSequence config captures label last after) ∧
      last.toNat = next.toNat + Draft.fieldCount config root ∧
      after.Sequenced config label last.toNat ∧
      (∀ entityType, (after.documentsOf entityType).length =
        (store.documentsOf entityType).length +
          if Draft.isFor config entityType root then 1 else 0) ∧
      ∀ draft, Draft.ofRoot config root = .ok draft → ∃ osid, reply = some (Except.ok osid) := by
  cases hdraft : Draft.ofRoot config root with
  | error error =>
      refine ⟨_, next, store, create_ofSequence_of_error hdraft, ?_, h, ?_, nofun⟩
      · simp [Draft.fieldCount, hdraft]
      · simp [Draft.isFor, hdraft]
  | ok draft =>
      have hcount : Draft.fieldCount config root = draft.fields.length := by
        simp [Draft.fieldCount, hdraft]
      rw [hcount] at hroom ⊢
      obtain ⟨_, after, hinsert, hacc, hafter⟩ := h.exists_create hpos hkeys hdraft hroom
      have hlast := Generator.toNat_numberFields label .empty hroom
      rw [← hlast] at hafter
      refine ⟨some (.ok store.nextOsid), _, after, ?_, hlast, hafter, fun entityType => ?_,
        fun _ _ => ⟨_, rfl⟩⟩
      · simp only [create_ofSequence hdraft, hinsert]
      · by_cases htype : entityType = draft.entityType
        · subst htype
          simp [hacc.documentsOf_self, Draft.isFor, hdraft]
        · simp [hacc.documentsOf_of_ne htype, Draft.isFor, hdraft, Ne.symm htype]

/-- So a run is refused nothing that it takes on, and leaves all identifiers different. -/
theorem createAll_ofSequence (captures : Bool) (hkeys : config.HasRootKeys)
    (h : store.Sequenced config label next.toNat) (hpos : 1 ≤ next.toNat) (roots : List Json)
    (hroom : next.toNat + (roots.map (Draft.fieldCount config)).sum < 2 ^ 64) :
    ∃ replies last after,
      (ofSequence config captures label next store).createAll roots =
        (replies, ofSequence config captures label last after) ∧
      after.Sequenced config label (next.toNat + (roots.map (Draft.fieldCount config)).sum) ∧
      (∀ entityType, (after.documentsOf entityType).length =
        (store.documentsOf entityType).length + roots.countP (Draft.isFor config entityType)) ∧
      ∀ (index : Nat) (root : Json) (draft : Draft), roots[index]? = some root →
        Draft.ofRoot config root = .ok draft →
        ∃ osid, replies[index]? = some (some (Except.ok osid)) := by
  induction roots generalizing next store with
  | nil => exact ⟨[], next, store, rfl, h, fun _ => rfl, nofun⟩
  | cons root rest ih =>
      rw [List.map_cons, List.sum_cons, ← Nat.add_assoc] at hroom ⊢
      obtain ⟨reply, middle, between, hcreate, hmiddle, hbetween, hlength, hreply⟩ :=
        exists_create_ofSequence captures hkeys h hpos root (by omega)
      rw [← hmiddle] at hroom ⊢
      obtain ⟨replies, last, after, hrun, hafter, hlength', hreplies⟩ :=
        ih hbetween (by omega) hroom
      refine ⟨reply :: replies, last, after, ?_, hafter, fun entityType => ?_, ?_⟩
      · rw [createAll_cons, hcreate, hrun]
      · rw [hlength', hlength, List.countP_cons]
        omega
      · rintro (_ | index) found draft hfound hdraft
        · obtain rfl : root = found := Option.some.inj hfound
          obtain ⟨osid, rfl⟩ := hreply draft hdraft
          exact ⟨osid, rfl⟩
        · exact hreplies index found draft hfound hdraft

end

/-- Whatever the label, and whatever clients put into the identifier fields: in a run from an empty
store and an unused sequence that numbers fewer than `2 ^ 64 - 1` fields, every request for an object
of a configured type gets an id, and the store holds an entity for each of these.  Each of their
identifier fields holds a number of the sequence, and no two of them hold the same one, be they in one
entity or in several, of one type or of different ones. -/
theorem sequence_never_refuses_nor_repeats (label : String) (captures : Bool) {config : Config}
    (hkeys : config.HasRootKeys) {roots : List Json}
    (hroom : (roots.map (Draft.fieldCount config)).sum < 2 ^ 64 - 1) :
    let run := createAll roots ⟨config, ⟨.live, .empty⟩, .newSequence label, captures⟩
    let store := run.2.client.store
    (∀ (index : Nat) (entityType : String) (fields others : Fields) (schema : Schema),
      roots[index]? = some (.obj ((entityType, .obj fields) :: others)) →
      config.schema? entityType = some schema →
      ∃ osid, run.1[index]? = some (some (.ok osid))) ∧
    (∀ entityType, (store.documentsOf entityType).length =
      roots.countP (Draft.isFor config entityType)) ∧
    (∀ place : IdentifierPlace, place.IsIn config store →
      ∃ n, 1 ≤ n ∧ n ≤ (roots.map (Draft.fieldCount config)).sum ∧
        place.value? store = some (.str (Generator.sequenceText label n))) ∧
    ∀ place other : IdentifierPlace, place.IsIn config store → other.IsIn config store →
      place.value? store = other.value? store → place = other := by
  intro run store
  have hone : (1 : UInt64).toNat = 1 := rfl
  obtain ⟨replies, last, after, hrun, hafter, hlength, hreplies⟩ :=
    @createAll_ofSequence config label 1 .empty captures hkeys
      (Store.sequenced_empty config label) (Nat.le_refl 1) roots (by omega)
  have hstart : run = (replies, ofSequence config captures label last after) := hrun
  have hstore : store = after := by
    show run.2.client.store = after
    rw [hstart]
    rfl
  rw [hstore]
  refine ⟨?_, ?_, ?_, hafter.distinct⟩
  · intro index entityType fields others schema hroot hschema
    rw [hstart]
    have hdraft : Draft.ofRoot config (.obj ((entityType, .obj fields) :: others)) =
        .ok ⟨entityType, .obj fields, schema.identifierFields⟩ := by
      simp [Draft.ofRoot, Binding.ofRoot?, Json.isObject, hschema]
    exact hreplies index _ _ hroot hdraft
  · intro entityType
    rw [hlength, Store.documentsOf_empty, List.length_nil, Nat.zero_add]
  · intro place hplace
    obtain ⟨n, hlower, hupper, hvalue⟩ := hafter.numbered place hplace
    exact ⟨n, hlower, by omega, hvalue⟩

/-- Meters, with two paths for one code, and seals, whose numbers come from the same counter. -/
def meterConfig : Config :=
  { Config.basic with
    schemas := [⟨"Meter", [⟨"code"⟩, ⟨"/code"⟩, ⟨"no"⟩]⟩, ⟨"Seal", [⟨"/no"⟩]⟩] }

/-- Two meters and a seal, with values of the clients in some identifier fields, and a request that is
not taken on. -/
def meterRoots : List Json :=
  [.obj [("Meter", .obj [("no", .obj []), ("code", .str "S-4")])], .obj [("Meter", .null)],
    .obj [("Seal", .obj [("no", .str "S-1")])], .obj [("Meter", .obj [])]]

/-- The values of the clients give way to numbers.  Of the two numbers for a code the one for the path
without the slash is written last. -/
theorem sequence_never_refuses_nor_repeats_for_meters :
    let run := createAll meterRoots ⟨meterConfig, ⟨.live, .empty⟩, .newSequence "S", true⟩
    let store := run.2.client.store
    meterConfig.HasRootKeys ∧
      (meterRoots.map (Draft.fieldCount meterConfig)).sum < 2 ^ 64 - 1 ∧
      run.1 = [some (.ok "1-1"), some (.error (notAnObject "Meter")), some (.ok "1-2"),
        some (.ok "1-3")] ∧
      store.documentsOf "Meter" =
        [.obj [("no", .str "S-3"), ("code", .str "S-1"), ("osid", .str "1-1")],
          .obj [("code", .str "S-5"), ("no", .str "S-7"), ("osid", .str "1-3")]] ∧
      store.documentsOf "Seal" = [.obj [("no", .str "S-4"), ("osid", .str "1-2")]] ∧
      ∀ place other : IdentifierPlace, place.IsIn meterConfig store →
        other.IsIn meterConfig store → place.value? store = other.value? store →
        place = other := by
  intro run store
  have hkeys : meterConfig.HasRootKeys := by decide +kernel
  have hroom : (meterRoots.map (Draft.fieldCount meterConfig)).sum < 2 ^ 64 - 1 := by decide
  obtain ⟨_, _, _, hdistinct⟩ := sequence_never_refuses_nor_repeats "S" true hkeys hroom
  refine ⟨hkeys, hroom, ?_, ?_, ?_, hdistinct⟩
  · dsimp only [run]
    rfl
  · dsimp only [store, run]
    rfl
  · dsimp only [store, run]
    rfl

end Registry
end WaterRegistry
