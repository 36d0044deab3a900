import WaterRegistry.Proofs.Facility.Parts
import WaterRegistry.Proofs.Survey.Course
import WaterRegistry.Proofs.Survey.LogLine

/-!
# The outcomes of an import

An import is a trail of attempts, in the order of the table, each in the registry that the one before
it has left.  What an attempt comes to depends on its row and on the identifiers that are stored when
its turn comes: those that were stored at the start, and those of the rows before it.  So the outcomes,
the lines of the log and the growth of the store can be read off the table.
-/

namespace WaterRegistry

theorem Store.of_mem_osidOf {n : Nat} {c : Char} (h : c ∈ (osidOf n).toList) :
    c.isAlphanum = true ∨ c = '-' := by
  rw [osidOf, String.toList_append] at h
  rcases List.mem_append.1 h with hfirst | hdigit
  · have hlabel : c = '1' ∨ c = '-' := by simpa using hfirst
    exact hlabel.imp_left fun hone => by rw [hone]; rfl
  · left
    rw [Nat.toString_eq_ofList_toDigits, String.toList_ofList] at hdigit
    have hisDigit : c.isDigit = true :=
      Nat.isDigit_of_mem_toDigits (Nat.succ_pos 9) (Nat.le_refl 10) hdigit
    rw [Char.isAlphanum, hisDigit, Bool.or_true]

namespace Survey

/-- An import whose log takes every line attempts every record. -/
theorem importTable_eq (stamp : Nat → String) {log : LogFile} {uploaded : List String}
    (hreadable : log.uploaded = .ok uploaded)
    (happends : ∀ entry, ∃ next, log.append entry = .ok next) (registry : FacilityRegistry)
    (table : Table) :
    let attempts := (attemptEach stamp table.header 0 registry (pending uploaded table)).1
    ∃ last, importTable stamp (fun _ => none) registry log (.ok table) =
        (.ok ⟨table.records.length, table.records.length - (pending uploaded table).length,
          .ofStatuses (statuses attempts)⟩,
          registryAfter table.header registry (pending uploaded table), last) ∧
      last.content?.getD "" = log.content?.getD "" ++ String.join (logLines attempts) := by
  intro attempts
  rcases importTable_course stamp (fun _ => none) hreadable registry table with
    ⟨last, hfold, hrun⟩ | ⟨_, _, _, _, _, _, hfold, hrefused, _⟩
  · refine ⟨last, hrun, ?_⟩
    rw [LogFile.content_foldlM_append hreadable hfold, map_toLine_entriesOf]
  · obtain ⟨next, hnext⟩ := LogFile.takes_foldlM_append happends hfold _
    exact absurd (hrefused.symm.trans hnext) (by simp)

/-- Attempts that follow each other: each ends in one of the ways, and the next one starts in the
registry that it has left. -/
inductive Trail (header : List String) :
    FacilityRegistry → List Attempt → FacilityRegistry → Prop
  | nil (registry : FacilityRegistry) : Trail header registry [] registry
  | cons {record : Record} {before after last : FacilityRegistry} {outcome : RowOutcome}
      {time : String} {rest : List Attempt} : Ends header record before outcome after →
      Trail header after rest last →
      Trail header before
        (⟨record, before, outcome, logEntry (geoCodeOf header record) outcome time, after⟩ :: rest)
        last

/-- As long as the counter of ids does not come round, the attempts of an import follow each other,
and the registry at the end is as it has to be. -/
theorem trail_attemptEach (stamp : Nat → String) (header : List String) (index : Nat)
    {registry : FacilityRegistry} {count : Nat} (h : registry.Sound count)
    (records : List Record)
    (hfew : count + (statuses (attemptEach stamp header index registry records).1).count .success <
      2 ^ 32 - 1) :
    Trail header registry (attemptEach stamp header index registry records).1
      (attemptEach stamp header index registry records).2 := by
  induction records generalizing index registry count with
  | nil => exact .nil registry
  | cons record rest ih =>
      have hends := ends_attempt h header record
      -- The first attempt and the others share the bound, so what the first has created is split off.
      have hcount : count + (statuses (attemptEach stamp header index registry
          (record :: rest)).1).count .success =
          (if (attempt registry header record).1.status = .success then count + 1 else count) +
            (statuses (attemptEach stamp header (index + 1)
              (attempt registry header record).2 rest).1).count .success := by
        simp only [attemptEach, statuses, List.map_cons, List.count_cons, beq_iff_eq]
        split <;> omega
      rw [hcount] at hfew
      have hafter := hends.sound h fun hsuccess => by
        rw [if_pos hsuccess] at hfew
        omega
      exact .cons hends (ih (index + 1) hafter hfew)

namespace Attempt

/-- An attempt is decided by its record and the identifiers that are stored before it.  It fails if
the record holds no row, and is a duplicate if the identifier of the row is stored; otherwise one
facility is stored, under the id and with the identifier that are logged. -/
structure Decided (header : List String) (attempt : Attempt) : Prop where
  failed_iff : attempt.outcome.status = .failed ↔
    ∃ error, Row.ofRecord header attempt.record = .error error
  duplicate_iff : ∀ row, Row.ofRecord header attempt.record = .ok row →
    (attempt.outcome.status = .duplicate ↔ attempt.before.store.HasFacility row.key.id)
  success_iff : ∀ row, Row.ofRecord header attempt.record = .ok row →
    (attempt.outcome.status = .success ↔ ¬ attempt.before.store.HasFacility row.key.id)
  registers : ∀ row, Row.ofRecord header attempt.record = .ok row →
    attempt.outcome.status = .success →
      ∃ osid, Registers attempt.before.store row.key.id osid attempt.after.store ∧
        attempt.entry.toLine = String.intercalate "|" [
          ProgressEntry.clean (geoCodeOf header attempt.record), "SUCCESS", "Created", osid,
          row.key.id, attempt.entry.timestamp]
  unchanged : attempt.outcome.status ≠ .success → attempt.after = attempt.before

/-- The line of a facility that has been created shows its id and its identifier. -/
theorem toLine_logEntry (geoCode time : String) (n : Nat) (key : FacilityKey) :
    (logEntry geoCode ⟨.success, "Created", some (Store.osidOf n), some key.id⟩ time).toLine =
      String.intercalate "|" [ProgressEntry.clean geoCode, "SUCCESS", "Created", Store.osidOf n,
        key.id, time] := by
  have hmessage : ProgressEntry.clean "Created" = "Created" := by decide
  simp only [ProgressEntry.toLine, logEntry, Option.isSome_some, if_true,
    ProgressEntry.cleanOption, Option.map_some, Option.getD_some, UploadStatus.text, hmessage,
    ProgressEntry.clean_eq_self fun _ => Store.of_mem_osidOf,
    ProgressEntry.clean_eq_self fun _ => FacilityKey.of_mem_id]

theorem decided_of_ends {header : List String} {record : Record}
    {before after : FacilityRegistry} {outcome : RowOutcome} {time : String}
    (h : Ends header record before outcome after) :
    Decided header
      ⟨record, before, outcome, logEntry (geoCodeOf header record) outcome time, after⟩ := by
  cases h with
  | failed error hrow =>
      constructor <;> simp [hrow, RowOutcome.without]
  | duplicate row hrow hheld =>
      constructor <;> simp [hrow, hheld, RowOutcome.without]
  | success row osid store hrow hnew hinsert =>
      have hregisters := registers_of_insert hinsert
      constructor
      · simp [hrow]
      · simp [hrow, hnew]
      · simp [hrow, hnew]
      · intro other hother _
        rw [hrow] at hother
        cases hother
        refine ⟨osid, hregisters, ?_⟩
        rw [hregisters.osid_eq, Store.nextOsid_eq]
        exact toLine_logEntry _ _ _ row.key
      · exact fun hstatus => absurd rfl hstatus

end Attempt

namespace Trail

variable {header : List String} {first last : FacilityRegistry} {attempts : List Attempt}

/-- The attempts before and after a point of a trail are trails. -/
theorem split {earlier later : List Attempt} (h : Trail header first (earlier ++ later) last) :
    ∃ between, Trail header first earlier between ∧ Trail header between later last := by
  induction earlier generalizing first with
  | nil => exact ⟨first, .nil first, h⟩
  | cons attempt rest ih =>
      cases h with
      | cons hends hrest =>
          obtain ⟨between, hearlier, hlater⟩ := ih hrest
          exact ⟨between, .cons hends hearlier, hlater⟩

theorem decided (h : Trail header first attempts last) :
    ∀ attempt ∈ attempts, attempt.Decided header := by
  induction h with
  | nil registry => simp
  | cons hends _ ih => exact List.forall_mem_cons.2 ⟨Attempt.decided_of_ends hends, ih⟩

/-- At the end the identifiers of the start are stored, and those of the rows. -/
theorem hasFacility_iff (h : Trail header first attempts last)
    (hfirst : first.store.Registered) (id : String) :
    last.store.HasFacility id ↔ first.store.HasFacility id ∨
      ∃ attempt ∈ attempts, ∃ row, Row.ofRecord header attempt.record = .ok row ∧
        row.key.id = id := by
  induction h with
  | nil registry => simp
  | cons hends _ ih =>
      rw [ih (hends.settles.registered hfirst), hends.settles.hasFacility_iff hfirst, or_assoc]
      simp only [List.mem_cons, exists_eq_or_imp]

/-- Attempts change the stored entities only by adding the facilities that they create. -/
theorem entitiesOf_eq (h : Trail header first attempts last) :
    (∃ added, last.store.entitiesOf facilityType =
        first.store.entitiesOf facilityType ++ added ∧
      added.length = (statuses attempts).count .success) ∧
    ∀ other, other ≠ facilityType → last.store.entitiesOf other = first.store.entitiesOf other := by
  induction h with
  | nil registry => exact ⟨⟨[], by rw [List.append_nil], rfl⟩, fun _ _ => rfl⟩
  | cons hends _ ih =>
      obtain ⟨⟨added, hlast, hlength⟩, hothers⟩ := ih
      cases hends with
      | failed => exact ⟨⟨added, hlast, hlength⟩, hothers⟩
      | duplicate => exact ⟨⟨added, hlast, hlength⟩, hothers⟩
      | success row osid store _ _ hinsert =>
          have hregisters := registers_of_insert hinsert
          obtain ⟨document, hself, _⟩ := hregisters.entitiesOf_self
          refine ⟨⟨⟨osid, document⟩ :: added, ?_, ?_⟩, ?_⟩
          · rw [hlast, hself, List.append_assoc]
            rfl
          · rw [List.length_cons, hlength]
            simp [statuses]
          · intro other hother
            rw [hothers other hother, hregisters.entitiesOf_of_ne other hother]

end Trail

/-- An import of a readable table, with a readable log that takes every line, into a registry without
a configuration of its own, as long as the counter of ids does not come round.  It attempts the
records that are not skipped, in the order of the table.  Each attempt is decided by its record and by
the identifiers that are stored before it: those of the start, and those of the rows before.  At the
end the store has those of the start and of all rows, and has grown by the facilities that count as
created. -/
theorem import_outcomes_decided {stamp : Nat → String} {earlier : List FacilityRequest}
    {answers : List (Except RegistryError String)} {registry : FacilityRegistry}
    (hreached : (⟨FacilityRegistry.defaultConfig, .empty⟩ : FacilityRegistry).createAll earlier =
      (answers, registry))
    {log : LogFile} {uploaded : List String} {table : Table}
    (hreadable : log.uploaded = .ok uploaded)
    (happends : ∀ entry, ∃ next, log.append entry = .ok next)
    {attempts : List Attempt} {last : FacilityRegistry}
    (hattempts : attemptEach stamp table.header 0 registry (pending uploaded table) =
      (attempts, last))
    (hfew : successes answers + (statuses attempts).count .success < 2 ^ 32 - 1) :
    (∃ lastLog, importTable stamp (fun _ => none) registry log (.ok table) =
        (.ok ⟨table.records.length, table.records.length - (pending uploaded table).length,
          .ofStatuses (statuses attempts)⟩, last, lastLog) ∧
      lastLog.content?.getD "" = log.content?.getD "" ++ String.join (logLines attempts)) ∧
    attempts.map (·.record) = pending uploaded table ∧
    (∀ attempt ∈ attempts, attempt.Decided table.header) ∧
    (∀ previous attempt later, attempts = previous ++ attempt :: later → ∀ id,
      (attempt.before.store.HasFacility id ↔ registry.store.HasFacility id ∨
        ∃ other ∈ previous, ∃ row, Row.ofRecord table.header other.record = .ok row ∧
          row.key.id = id)) ∧
    (∀ id, last.store.HasFacility id ↔ registry.store.HasFacility id ∨
      ∃ record ∈ pending uploaded table, ∃ row, Row.ofRecord table.header record = .ok row ∧
        row.key.id = id) ∧
    (∃ added, last.store.entitiesOf facilityType =
        registry.store.entitiesOf facilityType ++ added ∧
      added.length = (statuses attempts).count .success) ∧
    ∀ other, other ≠ facilityType →
      last.store.entitiesOf other = registry.store.entitiesOf other := by
  have hanswers := congrArg Prod.fst hreached
  have hregistry := congrArg Prod.snd hreached
  have hlist := congrArg Prod.fst hattempts
  have hlast := congrArg Prod.snd hattempts
  dsimp only at hanswers hregistry hlist hlast
  have hsound : registry.Sound (successes answers) := by
    rw [← hanswers, ← hregistry]
    apply FacilityRegistry.sound_createAll
    rw [hanswers]
    omega
  have htrail : Trail table.header registry attempts last := by
    have hrun := trail_attemptEach stamp table.header 0 hsound (pending uploaded table)
      (by rwa [hlist])
    rwa [hlist, hlast] at hrun
  have hrecords : attempts.map (·.record) = pending uploaded table := by
    rw [← hlist, records_attemptEach]
  refine ⟨?_, hrecords, htrail.decided, ?_, ?_, htrail.entitiesOf_eq⟩
  · obtain ⟨lastLog, hrun, hcontent⟩ := importTable_eq stamp hreadable happends registry table
    rw [← registry_attemptEach stamp table.header 0, hlist, hlast] at hrun
    rw [hlist] at hcontent
    exact ⟨lastLog, hrun, hcontent⟩
  · -- The attempts before this one are a trail of their own, which ends where it begins.
    rintro previous attempt later rfl id
    obtain ⟨between, hprevious, hrest⟩ := htrail.split
    cases hrest
    exact hprevious.hasFacility_iff hsound.registered id
  · intro id
    rw [htrail.hasFacility_iff hsound.registered, ← hrecords]
    apply or_congr_right
    constructor
    · rintro ⟨attempt, hmem, hrow⟩
      exact ⟨attempt.record, List.mem_map_of_mem hmem, hrow⟩
    · rintro ⟨record, hmem, hrow⟩
      obtain ⟨attempt, hattempt, rfl⟩ := List.mem_map.1 hmem
      exact ⟨attempt, hattempt, hrow⟩

/-- Five wells.  The first two differ in the case of their counties, the third has no number as its
latitude, and the last two are at other places. -/
def wellTable : Table where
  header := ["geo_code", "county", "lat"]
  records := [⟨⟨1, 2, 20⟩, ["6CVX", "Nimba", "7.1"]⟩, ⟨⟨2, 3, 40⟩, ["6CVX", "NIMBA", ""]⟩,
    ⟨⟨3, 4, 60⟩, ["6CVY", "Nimba", "north"]⟩, ⟨⟨4, 5, 80⟩, ["6CVZ", "Bong", ""]⟩,
    ⟨⟨5, 6, 100⟩, ["6CW2", "Bong", ""]⟩]

/-- The log of an earlier import, which has created the last well. -/
def wellLog : LogFile :=
  .text "6CW2|SUCCESS|Created|1-1|WF-BON-UNK-UNK-000000|now\n"

/-- The well in Bong that is not skipped has been registered by hand. -/
def wellRequests : List FacilityRequest :=
  [⟨facilityRoot (.obj [("geoCode", .str "6CVZ"), ("location", .obj [("county", .str "Bong")])]),
    fun _ => .error .timeout⟩]

/-- Of four records that are attempted, one is created. -/
theorem import_outcomes_decided_of_wells :
    let registry :=
      ((⟨FacilityRegistry.defaultConfig, .empty⟩ : FacilityRegistry).createAll wellRequests).2
    let run := attemptEach (fun _ => "now") wellTable.header 0 registry
      (pending ["6CW2"] wellTable)
    wellLog.uploaded = .ok ["6CW2"] ∧
      statuses run.1 = [.success, .duplicate, .failed, .duplicate] ∧
      (∀ attempt ∈ run.1, attempt.Decided wellTable.header) ∧
      ∃ lastLog, importTable (fun _ => "now") (fun _ => none) registry wellLog (.ok wellTable) =
        (.ok ⟨5, 1, ⟨1, 2, 1⟩⟩, run.2, lastLog) := by
  intro registry run
  have hreadable : wellLog.uploaded = .ok ["6CW2"] := congrArg Except.ok (by decide)
  have hstatuses : statuses run.1 = [.success, .duplicate, .failed, .duplicate] := by
    decide +kernel
  let answers :=
    ((⟨FacilityRegistry.defaultConfig, .empty⟩ : FacilityRegistry).createAll wellRequests).1
  have hreached : (⟨FacilityRegistry.defaultConfig, .empty⟩ : FacilityRegistry).createAll
      wellRequests = (answers, registry) := rfl
  have hattempts : attemptEach (fun _ => "now") wellTable.header 0 registry
      (pending ["6CW2"] wellTable) = (run.1, run.2) := (Prod.eta run).symm
  have hanswers : successes answers = 1 := by decide +kernel
  have hfew : successes answers + (statuses run.1).count .success < 2 ^ 32 - 1 := by
    rw [hanswers, hstatuses]
    decide
  obtain ⟨⟨lastLog, himport, _⟩, _, hdecided, _⟩ := import_outcomes_decided hreached hreadable
    (fun _ => ⟨_, rfl⟩) hattempts hfew
  refine ⟨hreadable, hstatuses, hdecided, lastLog, ?_⟩
  rw [himport, hstatuses]
  rfl

end Survey
end WaterRegistry
