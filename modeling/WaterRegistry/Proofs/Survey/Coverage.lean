import WaterRegistry.Proofs.Survey.Attempt

/-!
# What a run of attempts leaves stored

After an attempt the facility that its record describes is stored, whether the attempt has created it
or has met it; attempting the record again changes nothing.  A run of attempts covers its records in
this sense, and as nothing is taken away, they stay covered.
-/

namespace WaterRegistry

/-- Whether the facility that a record describes is stored, if it describes one. -/
def Store.Covers (store : Store) (header : List String) (record : Survey.Record) : Prop :=
  ∀ row, Survey.Row.ofRecord header record = .ok row → store.HasFacility row.key.id

namespace Survey

/-- The registry after attempts at records, one after the other. -/
def registryAfter (header : List String) (registry : FacilityRegistry) (records : List Record) :
    FacilityRegistry :=
  records.foldl (fun registry record => (attempt registry header record).2) registry

variable {header : List String} {record : Record} {registry : FacilityRegistry}

@[simp] theorem registryAfter_nil : registryAfter header registry [] = registry :=
  rfl

theorem registryAfter_cons (rest : List Record) :
    registryAfter header registry (record :: rest) =
      registryAfter header (attempt registry header record).2 rest :=
  rfl

theorem registryAfter_append (earlier later : List Record) :
    registryAfter header registry (earlier ++ later) =
      registryAfter header (registryAfter header registry earlier) later :=
  List.foldl_append

namespace Settles

variable {before after : FacilityRegistry} {status : UploadStatus}

/-- An attempt at a covered record changes nothing. -/
theorem eq_of_covers (h : Settles header record before status after)
    (hcovers : before.store.Covers header record) : after = before := by
  cases h with
  | failed => rfl
  | duplicate => rfl
  | success row _ _ hrow hnew _ => exact absurd (hcovers row hrow) hnew

/-- What is created is described by the record, and was not stored before. -/
theorem exists_row (h : Settles header record before status after) (hstatus : status = .success) :
    ∃ row, Row.ofRecord header record = .ok row ∧ ¬ before.store.HasFacility row.key.id := by
  cases h with
  | failed => cases hstatus
  | duplicate => cases hstatus
  | success row _ _ hrow hnew _ => exact ⟨row, hrow, hnew⟩

end Settles

theorem regular_registryAfter (h : registry.Regular) (header : List String) (records : List Record) :
    (registryAfter header registry records).Regular := by
  induction records generalizing registry with
  | nil => exact h
  | cons record rest ih => exact ih ((settles_attempt h header record).regular h)

/-- A run of attempts adds the identifiers of the rows that its records hold, and no other ones. -/
theorem hasFacility_registryAfter_iff (h : registry.Regular) (records : List Record) (id : String) :
    (registryAfter header registry records).store.HasFacility id ↔
      registry.store.HasFacility id ∨
        ∃ record ∈ records, ∃ row, Row.ofRecord header record = .ok row ∧ row.key.id = id := by
  induction records generalizing registry with
  | nil => simp
  | cons record rest ih =>
      have hsettles := settles_attempt h header record
      rw [registryAfter_cons, ih (hsettles.regular h), hsettles.hasFacility_iff h.registered,
        or_assoc]
      simp only [List.mem_cons, exists_eq_or_imp]

/-- So nothing is taken away. -/
theorem hasFacility_registryAfter (h : registry.Regular) (header : List String)
    (records : List Record) {id : String} (hheld : registry.store.HasFacility id) :
    (registryAfter header registry records).store.HasFacility id :=
  (hasFacility_registryAfter_iff h records id).2 (.inl hheld)

theorem covers_registryAfter (h : registry.Regular) {records : List Record}
    (hmem : record ∈ records) :
    (registryAfter header registry records).store.Covers header record := fun row hrow =>
  (hasFacility_registryAfter_iff h records row.key.id).2 (.inr ⟨record, hmem, row, hrow, rfl⟩)

/-- Attempts at covered records change nothing. -/
theorem registryAfter_eq_self (h : registry.Regular) {records : List Record}
    (hcovered : ∀ record ∈ records, registry.store.Covers header record) :
    registryAfter header registry records = registry := by
  induction records with
  | nil => rfl
  | cons record rest ih =>
      obtain ⟨hfirst, hrest⟩ := List.forall_mem_cons.1 hcovered
      rw [registryAfter_cons, (settles_attempt h header record).eq_of_covers hfirst, ih hrest]

end Survey
end WaterRegistry
