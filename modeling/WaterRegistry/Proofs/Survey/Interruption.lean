import WaterRegistry.Proofs.Facility.Stored
import WaterRegistry.Proofs.Survey.History
import WaterRegistry.Proofs.Survey.Import

/-!
# What an import leaves when it fails

An import reads its log and its whole table before it attempts anything.  So a log that cannot be read,
and a table with an unreadable header or record, wherever the record stands, leave store and log as
they are; and so does an import that finds nothing to attempt.

After that only a line that is not written ends an import.  Then the attempts before it are in the
log, line by line, and their facilities are stored in the same order.  The attempt whose line is missing
may have stored one facility that the log does not show.  Nothing has been attempted after it.

All of this holds for every registry, whatever its configuration and its store.
-/

namespace WaterRegistry

theorem RegistryError.status_ne_success (error : RegistryError) : error.status ≠ .success := by
  unfold RegistryError.status
  split <;> simp

namespace Survey

/-- Whether there is a file that holds a table. -/
def ImportRequest.Readable (request : ImportRequest) : Prop :=
  ∃ bytes, request.file = .ok bytes ∧ Survey.Readable bytes.data.toList

theorem ImportRequest.exists_table_iff (request : ImportRequest) :
    (∃ table, request.table = .ok table) ↔ request.Readable := by
  rw [ImportRequest.Readable, ImportRequest.table]
  split
  · rename_i fault hfile
    simp [hfile]
  · rename_i bytes hfile
    simp [hfile, exists_ofBytes_iff]

/-- Whether an entity is the one that an attempt has stored: the attempt counts as a creation, its entry
shows the id of the entity, and the entity has the key of the record's row. -/
structure IsStoredBy (header : List String) (attempt : Attempt) (entity : StoredEntity) : Prop where
  success : attempt.outcome.status = .success
  osid_eq : attempt.entry.osid = some entity.osid
  row : ∃ row, Row.ofRecord header attempt.record = .ok row ∧
    FacilityKey.ofDocument entity.document = row.key

/-- Whether some entities are those that attempts have stored, in the order of the attempts. -/
def Stored (header : List String) (attempts : List Attempt) (entities : List StoredEntity) : Prop :=
  List.Forall₂ (IsStoredBy header) (attempts.filter (·.outcome.status = .success)) entities

namespace Stored

variable {header : List String} {made : Attempt} {attempts : List Attempt} {entity : StoredEntity}
  {entities : List StoredEntity}

theorem cons (hfirst : IsStoredBy header made entity) (h : Stored header attempts entities) :
    Stored header (made :: attempts) (entity :: entities) := by
  rw [Stored, List.filter_cons_of_pos (by simpa using hfirst.success)]
  exact .cons hfirst h

theorem cons_of_ne (hstatus : made.outcome.status ≠ .success)
    (h : Stored header attempts entities) : Stored header (made :: attempts) entities := by
  rwa [Stored, List.filter_cons_of_neg (by simpa using hstatus)]

end Stored

/-- An attempt in any registry stores one facility and shows its id, or stores nothing. -/
theorem attempt_cases (registry : FacilityRegistry) (header : List String) (record : Record) :
    (attempt registry header record).1.status ≠ .success ∧
        (attempt registry header record).2 = registry ∨
      ∃ row osid document, Row.ofRecord header record = .ok row ∧
        (attempt registry header record).1.status = .success ∧
        (attempt registry header record).1.osid = some osid ∧
        FacilityKey.ofDocument document = row.key ∧
        ∀ entityType, (attempt registry header record).2.store.entitiesOf entityType =
          if entityType = facilityType then
            registry.store.entitiesOf entityType ++ [⟨osid, document⟩]
          else registry.store.entitiesOf entityType := by
  unfold attempt
  cases hrow : Row.ofRecord header record with
  | error error => exact .inl ⟨nofun, rfl⟩
  | ok row =>
      rcases hcreate : registry.create (facilityRoot row.toDocument) with ⟨answer, after⟩
      cases answer with
      | error error =>
          simp only [register, hcreate]
          exact .inl ⟨error.status_ne_success, FacilityRegistry.create_eq_error hcreate⟩
      | ok osid =>
          obtain ⟨_, document, hkey, hstored⟩ := FacilityRegistry.create_facility_eq_ok hcreate
          simp only [register, hcreate]
          exact .inr ⟨row, osid, document, rfl, trivial, rfl, hkey, hstored⟩

/-- A run of attempts adds the facilities that it creates, and nothing else. -/
theorem exists_stored (stamp : Nat → String) (header : List String) (index : Nat)
    (registry : FacilityRegistry) (records : List Record) :
    ∃ added, Stored header (attemptEach stamp header index registry records).1 added ∧
      ∀ entityType, (registryAfter header registry records).store.entitiesOf entityType =
        registry.store.entitiesOf entityType ++ if entityType = facilityType then added else [] := by
  induction records generalizing index registry with
  | nil => exact ⟨[], .nil, by simp⟩
  | cons record rest ih =>
      obtain ⟨added, hadded, hentities⟩ := ih (index + 1) (attempt registry header record).2
      rw [attemptEach_cons, registryAfter_cons]
      rcases attempt_cases registry header record with
        ⟨hstatus, hsame⟩ | ⟨row, osid, document, hrow, hstatus, hosid, hkey, hstored⟩
      · refine ⟨added, hadded.cons_of_ne hstatus, ?_⟩
        rw [hsame] at hentities ⊢
        exact hentities
      · refine ⟨⟨osid, document⟩ :: added, hadded.cons ⟨hstatus, hosid, row, hrow, hkey⟩,
          fun entityType => ?_⟩
        rw [hentities, hstored]
        split <;> simp

/-- An import whose log or table cannot be read leaves store and log as they are, and so does one that
finds nothing to attempt.  An import of a readable table with a readable log fails only at a line that
is not written.  By then the records before it have been attempted: their lines are what has been added
to the log, and their facilities have been added to the store, in the order of the table.  The record
itself has been attempted too, and may have added one facility more; no later record has been
attempted. -/
theorem failed_import_leaves_prefix (request : ImportRequest) (registry : FacilityRegistry)
    (log : LogFile) :
    ((¬ ∃ uploaded, log.uploaded = .ok uploaded) ∨ ¬ request.Readable →
      ∃ cause, request.run registry log = (.error cause, registry, log)) ∧
    ∀ uploaded table, log.uploaded = .ok uploaded → request.table = .ok table →
      (pending uploaded table = [] → request.run registry log =
        (.ok ⟨table.records.length, table.records.length, .zero⟩, registry, log)) ∧
      ∀ cause after last, request.run registry log = (.error cause, after, last) →
        ∃ fault made failed later added own, cause = .log fault ∧
          pending uploaded table = made.map (·.record) ++ failed.record :: later ∧
          attemptEach request.stamp table.header 0 registry
            (made.map (·.record) ++ [failed.record]) = (made ++ [failed], after) ∧
          last.write (request.refusal made.length) failed.entry = .error fault ∧
          (entriesOf made).foldlM LogFile.append log = .ok last ∧
          last.content?.getD "" = log.content?.getD "" ++ String.join (logLines made) ∧
          Stored table.header made added ∧ Stored table.header [failed] own ∧ own.length ≤ 1 ∧
          ∀ entityType, after.store.entitiesOf entityType =
            registry.store.entitiesOf entityType ++
              if entityType = facilityType then added ++ own else [] := by
  refine ⟨?_, fun uploaded table hreadable htable => ⟨?_, ?_⟩⟩
  · intro hunreadable
    cases htable : request.table with
    | error error =>
        obtain ⟨cause, hrun⟩ := request.run_eq_of_error htable
        exact ⟨cause, hrun⟩
    | ok table =>
        have hreadable := request.exists_table_iff.1 ⟨table, htable⟩
        cases hlog : log.uploaded with
        | error fault =>
            refine ⟨.log fault, ?_⟩
            rw [request.run_eq_of_table htable, importTable_of_unreadable_log _ _ hlog]
        | ok uploaded =>
            exact absurd hunreadable
              (not_or.2 ⟨not_not_intro ⟨uploaded, hlog⟩, not_not_intro hreadable⟩)
  · intro hnone
    rw [request.run_eq_of_table htable]
    rcases importTable_course request.stamp request.refusal hreadable registry table with
      ⟨last, hfold, hrun⟩ | ⟨earlier, _, _, _, _, hsplit, _⟩
    · rw [hnone] at hfold hrun
      cases hfold
      exact hrun
    · rw [hnone] at hsplit
      cases earlier <;> cases hsplit
  · intro cause after last hrun
    rw [request.run_eq_of_table htable] at hrun
    rcases importTable_course request.stamp request.refusal hreadable registry table with
      ⟨last, hfold, hall⟩ | ⟨earlier, record, later, fault, last, hsplit, hfold, hfault, hstop⟩
    · rw [hall] at hrun
      cases hrun
    · rw [hstop] at hrun
      cases hrun
      have hrecords := records_attemptEach request.stamp table.header 0 registry earlier
      have hlength : (attemptEach request.stamp table.header 0 registry earlier).1.length =
          earlier.length := by
        rw [← congrArg List.length hrecords, List.length_map]
      obtain ⟨added, hadded, hentities⟩ :=
        exists_stored request.stamp table.header 0 registry earlier
      obtain ⟨own, hown, hlast⟩ := exists_stored request.stamp table.header earlier.length
        (registryAfter table.header registry earlier) [record]
      refine ⟨fault, (attemptEach request.stamp table.header 0 registry earlier).1,
        attemptAt request.stamp table.header earlier.length
          (registryAfter table.header registry earlier) record, later, added, own, rfl, ?_, ?_, ?_,
        hfold, ?_, hadded, hown, ?_, fun entityType => ?_⟩
      · rw [hrecords]
        exact hsplit
      · rw [hrecords]
        refine Prod.ext ?_ (registry_attemptEach _ _ _ _ _)
        rw [attemptEach_append, Nat.zero_add]
        rfl
      · rw [hlength]
        exact hfault
      · rw [LogFile.content_foldlM_append hreadable hfold, map_toLine_entriesOf]
      · rw [← hown.length_eq]
        exact List.length_filter_le _ _
      · rw [registryAfter_append, hlast, hentities]
        split <;> simp

/-- Of three wells the first is logged, and the line of the second is refused.  Two facilities are
stored, and at most one of them is not in the log. -/
theorem failed_import_leaves_prefix_of_wells :
    let registry : FacilityRegistry := ⟨FacilityRegistry.defaultConfig, .empty⟩
    let request : ImportRequest :=
      { importOf "geo_code,county\n6CVX,Nimba\n6CVY,Bong\n6CVZ,Bong\n" with
        refusal := fun i => if i = 1 then some .denied else none }
    ∃ after last made added own,
      request.run registry .missing = (.error (.log .denied), after, last) ∧
      last.content? = some "6CVX|SUCCESS|Created|1-1|WF-NIM-UNK-UNK-1253D9|now\n" ∧
      Stored ["geo_code", "county"] made added ∧ own.length ≤ 1 ∧
      after.store.entitiesOf facilityType = added ++ own ∧ (added ++ own).length = 2 := by
  intro registry request
  have htable : request.table = .ok ⟨["geo_code", "county"],
      [⟨⟨1, 2, 16⟩, ["6CVX", "Nimba"]⟩, ⟨⟨2, 3, 27⟩, ["6CVY", "Bong"]⟩,
        ⟨⟨3, 4, 37⟩, ["6CVZ", "Bong"]⟩]⟩ := rfl
  have hanswer : (request.run registry .missing).1 = .error (.log .denied) := by decide +kernel
  have hcontent : (request.run registry .missing).2.2.content? =
      some "6CVX|SUCCESS|Created|1-1|WF-NIM-UNK-UNK-1253D9|now\n" := by decide +kernel
  have hcount : ((request.run registry .missing).2.1.store.entitiesOf facilityType).length = 2 := by
    decide +kernel
  rcases hrun : request.run registry .missing with ⟨answer, after, last⟩
  rw [hrun] at hanswer hcontent hcount
  obtain rfl : answer = .error (.log .denied) := hanswer
  obtain ⟨_, hread⟩ := failed_import_leaves_prefix request registry .missing
  obtain ⟨_, made, _, _, added, own, _, _, _, _, _, _, hadded, _, hown, hentities⟩ :=
    (hread [] _ rfl htable).2 _ after last hrun
  have hsplit : after.store.entitiesOf facilityType = added ++ own := hentities facilityType
  exact ⟨after, last, made, added, own, rfl, hcontent, hadded, hown, hsplit, hsplit ▸ hcount⟩

end Survey
end WaterRegistry
