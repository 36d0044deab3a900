import WaterRegistry.Proofs.Facility.Duplicate
import WaterRegistry.Survey.Import

/-!
# How an attempt at a survey row ends

A record that holds no row fails.  A row describes a facility, whose identifier depends on five of
its columns.  If a facility with this identifier is stored already, the attempt ends as a duplicate;
otherwise the facility is stored, and it is found again under the id that it has been given.  There is
no other ending, and the store has changed only in the last of the three.
-/

namespace WaterRegistry

/-- A registry without a configuration of its own, whose facilities hold their own identifiers. -/
structure FacilityRegistry.Regular (registry : FacilityRegistry) : Prop where
  config_eq : registry.config = FacilityRegistry.defaultConfig
  registered : registry.store.Registered

/-- Every run leads to such a registry. -/
theorem FacilityRegistry.regular_createAll (requests : List FacilityRequest) :
    ((⟨defaultConfig, .empty⟩ : FacilityRegistry).createAll requests).2.Regular where
  config_eq := by rw [createAll_eq]
  registered := registered_createAll Store.registered_empty rfl List.mem_cons_self
    Facility.isNamed_defaultField requests

/-- A registry without a configuration of its own, in which `count` entities have been created. -/
structure FacilityRegistry.Sound (registry : FacilityRegistry) (count : Nat) : Prop where
  config_eq : registry.config = FacilityRegistry.defaultConfig
  registered : registry.store.Registered
  numbered : registry.store.Numbered count

theorem FacilityRegistry.Sound.regular {registry : FacilityRegistry} {count : Nat}
    (h : registry.Sound count) : registry.Regular :=
  ⟨h.config_eq, h.registered⟩

/-- Every run leads to such a registry, as long as the counter of ids does not come round. -/
theorem FacilityRegistry.sound_createAll {requests : List FacilityRequest}
    (hfew : successes ((⟨defaultConfig, .empty⟩ : FacilityRegistry).createAll requests).1 <
      2 ^ 32 - 1) :
    ((⟨defaultConfig, .empty⟩ : FacilityRegistry).createAll requests).2.Sound
      (successes ((⟨defaultConfig, .empty⟩ : FacilityRegistry).createAll requests).1) where
  config_eq := (regular_createAll requests).config_eq
  registered := (regular_createAll requests).registered
  numbered := by
    rw [createAll_eq] at hfew ⊢
    exact Store.numbered_createAll hfew

namespace Survey
namespace Row

/-- The key of the facility that a row describes. -/
def key (row : Row) : FacilityKey :=
  ⟨row.geoCode, row.waterPointType, row.county, row.district, row.community⟩

/-- The facility that is to be created for a row. -/
def contender (row : Row) : Contender where
  fields := [("geoCode", .str row.geoCode), ("waterPointType", .str row.waterPointType),
    ("location", .obj row.location)] ++ row.details
  others := []

/-- The key of a row is that of its document, whatever its other columns hold. -/
theorem id_contender (row : Row) : row.contender.id = row.key.id :=
  rfl

theorem root_contender (row : Row) : row.contender.root = facilityRoot row.toDocument :=
  rfl

end Row

/-- What an attempt at a record does to the registry.  It stores a facility only if the record describes
one whose identifier is new. -/
inductive Settles (header : List String) (record : Record) (before : FacilityRegistry) :
    UploadStatus → FacilityRegistry → Prop
  | failed (error : RowError) : Row.ofRecord header record = .error error →
      Settles header record before .failed before
  | duplicate (row : Row) : Row.ofRecord header record = .ok row →
      before.store.HasFacility row.key.id →
      Settles header record before .duplicate before
  | success (row : Row) (osid : String) (store : Store) : Row.ofRecord header record = .ok row →
      ¬ before.store.HasFacility row.key.id →
      before.store.insert row.contender.insertion = (.ok osid, store) →
      Settles header record before .success { before with store }

/-- The ways in which an attempt at a record ends: with what outcome, and in what registry. -/
inductive Ends (header : List String) (record : Record) (before : FacilityRegistry) :
    RowOutcome → FacilityRegistry → Prop
  | failed (error : RowError) : Row.ofRecord header record = .error error →
      Ends header record before
        (.without .failed ("Transform error: " ++ error.message)) before
  | duplicate (row : Row) : Row.ofRecord header record = .ok row →
      before.store.HasFacility row.key.id →
      Ends header record before
        (.without .duplicate
          (RegistryError.generation (Facility.duplicateError row.key.id)).message) before
  | success (row : Row) (osid : String) (store : Store) : Row.ofRecord header record = .ok row →
      ¬ before.store.HasFacility row.key.id →
      before.store.insert row.contender.insertion = (.ok osid, store) →
      Ends header record before ⟨.success, "Created", some osid, some row.key.id⟩
        { before with store }

/-- `after` is `store` with one more facility, the last one, which holds its identifier and its id. -/
structure Registers (store : Store) (id osid : String) (after : Store) : Prop where
  osid_eq : osid = store.nextOsid
  entitiesOf_self : ∃ document,
    after.entitiesOf facilityType = store.entitiesOf facilityType ++ [⟨osid, document⟩] ∧
      document.get? facilityIdField = some (.str id) ∧
      document.get? osidField = some (.str osid)
  entitiesOf_of_ne : ∀ other, other ≠ facilityType →
    after.entitiesOf other = store.entitiesOf other

theorem registers_of_insert {store after : Store} {contender : Contender} {osid : String}
    (hinsert : store.insert contender.insertion = (.ok osid, after)) :
    Registers store contender.id osid after := by
  obtain ⟨hosid, fields, hdocument, hacc⟩ := Store.insert_eq_ok hinsert
  have hfields : Facility.identify contender.fields = fields := Json.obj.inj hdocument
  subst hfields hosid
  refine ⟨rfl, ⟨_, ?_, contender.get?_accepted store, Fields.get?_set_self _ _ _⟩, ?_⟩
  · rw [hacc.entitiesOf_eq]
    exact if_pos rfl
  · intro other hother
    rw [hacc.entitiesOf_eq]
    exact if_neg hother

/-- A facility is found under the id that it has just been given. -/
theorem Registers.get?_eq {store after : Store} {id osid : String}
    (h : Registers store id osid after) {count : Nat} (hstore : store.Numbered count) :
    ∃ document, after.get? facilityType osid = some document ∧
      document.get? facilityIdField = some (.str id) := by
  obtain ⟨document, hentities, hid, _⟩ := h.entitiesOf_self
  have hold : (store.entitiesOf facilityType).find? (·.osid = osid) = none := by
    rw [List.find?_eq_none]
    intro entity hmem
    rw [h.osid_eq, decide_eq_true_eq]
    exact hstore.osid_ne_nextOsid hmem
  refine ⟨document, ?_, hid⟩
  rw [Store.get?, hentities, List.find?_append, hold, Option.none_or]
  simp

section

variable {registry : FacilityRegistry} {count : Nat}

theorem schema?_of_regular (h : registry.Regular) :
    registry.config.schema? facilityType = some ⟨facilityType, [Facility.defaultField]⟩ := by
  rw [h.config_eq]
  rfl

/-- A row that describes a stored facility is refused. -/
theorem register_held (h : registry.Regular) {row : Row}
    (hheld : registry.store.HasFacility row.key.id) :
    register registry row.toDocument =
      (.without .duplicate
        (RegistryError.generation (Facility.duplicateError row.key.id)).message, registry) := by
  rw [← row.id_contender] at hheld ⊢
  rw [register, ← row.root_contender, FacilityRegistry.create_of_hasFacility h.registered
    (schema?_of_regular h) List.mem_cons_self hheld]
  rfl

/-- A row that describes a new facility stores it, and then looks at what is stored under its id. -/
theorem register_stored (h : registry.Regular) {row : Row}
    (hnew : ¬ registry.store.HasFacility row.key.id) :
    ∃ osid store, registry.store.insert row.contender.insertion = (.ok osid, store) ∧
      register registry row.toDocument =
        (⟨.success, "Created", some osid,
          ((store.get? facilityType osid).bind (·.get? facilityIdField)).bind Json.string?⟩,
          { registry with store }) := by
  rw [← row.id_contender] at hnew
  rcases hinsert : registry.store.insert row.contender.insertion with ⟨answer, store⟩
  cases answer with
  | error error =>
      -- The only constrained field is the identifier, which nobody holds.
      obtain ⟨_, _, hheld⟩ := Contender.insert_eq_error hinsert
      exact absurd hheld hnew
  | ok osid =>
      refine ⟨osid, store, rfl, ?_⟩
      have hasked : registry.store.insert
          (row.contender.insertionFor ⟨facilityType, [Facility.defaultField]⟩) =
            (.ok osid, store) := by
        rw [Contender.insertionFor_defaultField, hinsert]
      have hcreate := FacilityRegistry.create_of_not_hasFacility (schema?_of_regular h)
        List.mem_cons_self Facility.isNamed_defaultField hnew hasked
      rw [register, ← Row.root_contender, hcreate]
      simp only [FacilityRegistry.entity]
      cases store.get? facilityType osid <;> rfl

/-- As long as the counter of ids does not come round, it is the facility itself that is found. -/
theorem register_new (h : registry.Sound count) {row : Row}
    (hnew : ¬ registry.store.HasFacility row.key.id) :
    ∃ osid store, registry.store.insert row.contender.insertion = (.ok osid, store) ∧
      register registry row.toDocument =
        (⟨.success, "Created", some osid, some row.key.id⟩, { registry with store }) := by
  obtain ⟨osid, store, hinsert, hregister⟩ := register_stored h.regular hnew
  obtain ⟨document, hfound, hid⟩ := (registers_of_insert hinsert).get?_eq h.numbered
  refine ⟨osid, store, hinsert, ?_⟩
  rw [hregister, hfound, Option.bind_some, hid]
  rfl

/-- Every attempt settles its record. -/
theorem settles_attempt (h : registry.Regular) (header : List String) (record : Record) :
    Settles header record registry (attempt registry header record).1.status
      (attempt registry header record).2 := by
  unfold attempt
  cases hrow : Row.ofRecord header record with
  | error error => exact .failed error hrow
  | ok row =>
      dsimp only
      by_cases hheld : registry.store.HasFacility row.key.id
      · rw [register_held h hheld]
        exact .duplicate row hrow hheld
      · obtain ⟨osid, store, hinsert, hregister⟩ := register_stored h hheld
        rw [hregister]
        exact .success row osid store hrow hheld hinsert

/-- Every attempt ends in one of the ways. -/
theorem ends_attempt (h : registry.Sound count) (header : List String) (record : Record) :
    Ends header record registry (attempt registry header record).1
      (attempt registry header record).2 := by
  unfold attempt
  cases hrow : Row.ofRecord header record with
  | error error => exact .failed error hrow
  | ok row =>
      dsimp only
      by_cases hheld : registry.store.HasFacility row.key.id
      · rw [register_held h.regular hheld]
        exact .duplicate row hrow hheld
      · obtain ⟨osid, store, hinsert, hregister⟩ := register_new h hheld
        rw [hregister]
        exact .success row osid store hrow hheld hinsert

end

namespace Settles

variable {header : List String} {record : Record} {before after : FacilityRegistry}
  {status : UploadStatus}

theorem registered (h : Settles header record before status after)
    (hbefore : before.store.Registered) : after.store.Registered := by
  cases h with
  | failed => exact hbefore
  | duplicate => exact hbefore
  | success _ _ _ _ _ hinsert => exact (Contender.insert_eq_ok hbefore hinsert).1

theorem regular (h : Settles header record before status after) (hbefore : before.Regular) :
    after.Regular := by
  refine ⟨?_, h.registered hbefore.registered⟩
  cases h with
  | failed => exact hbefore.config_eq
  | duplicate => exact hbefore.config_eq
  | success => exact hbefore.config_eq

/-- An attempt adds the identifier of the record's row, if there is a row, and no other one. -/
theorem hasFacility_iff (h : Settles header record before status after)
    (hbefore : before.store.Registered) (id : String) :
    after.store.HasFacility id ↔ before.store.HasFacility id ∨
      ∃ row, Row.ofRecord header record = .ok row ∧ row.key.id = id := by
  cases h with
  | failed error hrow => simp [hrow]
  | duplicate row hrow hheld =>
      -- Nothing is added, and the identifier of the row has been stored before.
      constructor
      · exact .inl
      · rintro (hstored | ⟨other, hother, rfl⟩)
        · exact hstored
        · rw [hrow] at hother
          cases hother
          exact hheld
  | success row osid store hrow _ hinsert =>
      have hadded := (Contender.insert_eq_ok hbefore hinsert).2.2 id
      rw [hadded]
      apply or_congr_right
      constructor
      · rintro rfl
        exact ⟨row, hrow, rfl⟩
      · rintro ⟨other, hother, rfl⟩
        rw [hrow] at hother
        cases hother
        rfl

end Settles

namespace Ends

variable {header : List String} {record : Record} {before after : FacilityRegistry}
  {outcome : RowOutcome} {count : Nat}

/-- An attempt keeps the registry as it has to be, and counts what it creates. -/
theorem sound (h : Ends header record before outcome after) (hbefore : before.Sound count)
    (hfew : outcome.status = .success → count + 1 < 2 ^ 32 - 1) :
    after.Sound (if outcome.status = .success then count + 1 else count) := by
  cases h with
  | failed => exact hbefore
  | duplicate => exact hbefore
  | success row osid store _ _ hinsert =>
      obtain ⟨_, _, _, hacc⟩ := Store.insert_eq_ok hinsert
      exact ⟨hbefore.config_eq, (Contender.insert_eq_ok hbefore.registered hinsert).1,
        hbefore.numbered.accepts hacc (hfew rfl)⟩

theorem settles (h : Ends header record before outcome after) :
    Settles header record before outcome.status after := by
  cases h with
  | failed error hrow => exact .failed error hrow
  | duplicate row hrow hheld => exact .duplicate row hrow hheld
  | success row osid store hrow hnew hinsert => exact .success row osid store hrow hnew hinsert

end Ends

end Survey
end WaterRegistry
