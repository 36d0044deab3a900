import WaterRegistry.Proofs.Survey.Course
import WaterRegistry.Proofs.Survey.ResumeKey

/-!
# What an import writes to its log

Attempts are logged in their order, one line each, until a line is refused.  The line of an attempt is
read back with its outcome and with the cleaned geo code of its record.  So what the log shows as
created after an import is what it showed before, and the codes of records that the import has
created.
-/

namespace WaterRegistry
namespace Survey

open ProgressEntry

variable {header : List String} {stamp : Nat → String}

theorem mem_pending {uploaded : List String} {table : Table} {record : Record} :
    record ∈ pending uploaded table ↔
      record ∈ table.records ∧ geoCodeOf table.header record ∉ uploaded := by
  simp [pending]

/-- The entries that the lines of attempts are read as. -/
def readings (attempts : List Attempt) : List ProgressEntry :=
  attempts.map (·.entry.readBack)

theorem map_readBack_entriesOf (attempts : List Attempt) :
    (entriesOf attempts).map readBack = readings attempts :=
  List.map_map

/-- An attempt takes its place in the run, and is logged as it ends. -/
theorem of_mem_attemptEach {index : Nat} {registry : FacilityRegistry} {records : List Record}
    {made : Attempt} (h : made ∈ (attemptEach stamp header index registry records).1) :
    ∃ earlier later, records = earlier ++ made.record :: later ∧
      made.outcome = (attempt (registryAfter header registry earlier) header made.record).1 ∧
      ∃ i, made.entry = logEntry (geoCodeOf header made.record) made.outcome (stamp i) := by
  induction records generalizing index registry with
  | nil => cases h
  | cons record rest ih =>
      rw [attemptEach] at h
      rcases List.mem_cons.1 h with rfl | hrest
      · exact ⟨[], rest, rfl, rfl, index, rfl⟩
      · obtain ⟨earlier, later, rfl, houtcome, hentry⟩ := ih hrest
        exact ⟨record :: earlier, later, rfl, houtcome, hentry⟩

/-- Where no time has a line feed, the entries of attempts have none in theirs. -/
theorem lineFeed_not_mem_timestamp (hstamp : ∀ i, '\n' ∉ (stamp i).toList) {index : Nat}
    {registry : FacilityRegistry} {records : List Record} {entry : ProgressEntry}
    (h : entry ∈ entriesOf (attemptEach stamp header index registry records).1) :
    '\n' ∉ entry.timestamp.toList := by
  obtain ⟨made, hmade, rfl⟩ := List.mem_map.1 h
  obtain ⟨_, _, _, _, i, hentry⟩ := of_mem_attemptEach hmade
  rw [hentry]
  exact hstamp i

/-- A code that attempts leave in the log is the cleaned code of a record whose facility the run has
created: it was not stored when the run began. -/
theorem of_mem_createdCodes_readings {index : Nat} {registry : FacilityRegistry}
    (hregistry : registry.Regular) {records : List Record}
    (htrimmed : ∀ record ∈ records, trim (geoCodeOf header record) = geoCodeOf header record)
    {code : String}
    (h : code ∈ createdCodes (readings (attemptEach stamp header index registry records).1)) :
    ∃ record ∈ records, clean (geoCodeOf header record) = code ∧
      ∃ row, Row.ofRecord header record = .ok row ∧ ¬ registry.store.HasFacility row.key.id := by
  obtain ⟨entry, hentry, hsuccess, rfl⟩ := mem_createdCodes.1 h
  obtain ⟨made, hmade, rfl⟩ := List.mem_map.1 hentry
  obtain ⟨earlier, later, hrecords, houtcome, _, hlogged⟩ := of_mem_attemptEach hmade
  have hmem : made.record ∈ records := by
    rw [hrecords]
    exact List.mem_append_right _ List.mem_cons_self
  have hstatus : made.outcome.status = .success := by
    rw [status_readBack, hlogged] at hsuccess
    exact hsuccess
  have hbefore := regular_registryAfter hregistry header earlier
  obtain ⟨row, hrow, hnew⟩ :=
    (settles_attempt hbefore header made.record).exists_row (houtcome ▸ hstatus)
  refine ⟨made.record, hmem, ?_, row, hrow, fun hheld => hnew ?_⟩
  · rw [geoCode_readBack, hlogged, logEntry, trimStart_clean (htrimmed _ hmem)]
  · exact hasFacility_registryAfter hregistry header earlier hheld

/-- The entries that attempts write to a log without an unfinished line are read back from it. -/
theorem holds_of_foldlM_append (hstamp : ∀ i, '\n' ∉ (stamp i).toList) {log last : LogFile}
    {logged : List ProgressEntry} (hlog : log.Holds logged) {index : Nat}
    {registry : FacilityRegistry} {records : List Record}
    (hfold : (entriesOf (attemptEach stamp header index registry records).1).foldlM
      LogFile.append log = .ok last) :
    last.Holds (logged ++ readings (attemptEach stamp header index registry records).1) := by
  obtain ⟨_, hsame, hlast⟩ := hlog.foldlM_append fun _ => lineFeed_not_mem_timestamp hstamp
  rw [hfold] at hsame
  cases hsame
  rwa [map_readBack_entriesOf] at hlast

/-- An import with a log that has no unfinished line.  Either it attempts all records that are not
skipped, or it ends at the first one whose line is refused. -/
theorem importTable_cases (hstamp : ∀ i, '\n' ∉ (stamp i).toList)
    (refusal : Nat → Option FileFault) {log : LogFile} {logged : List ProgressEntry}
    (hlog : log.Holds logged) (registry : FacilityRegistry) (table : Table) :
    let records := pending (createdCodes logged) table
    (∃ summary last, importTable stamp refusal registry log (.ok table) =
        (.ok summary, registryAfter table.header registry records, last) ∧
      last.Holds (logged ++ readings (attemptEach stamp table.header 0 registry records).1)) ∨
    ∃ earlier record later fault last, records = earlier ++ record :: later ∧
      refusal earlier.length = some fault ∧
      importTable stamp refusal registry log (.ok table) =
        (.error (.log fault), registryAfter table.header registry (earlier ++ [record]), last) ∧
      last.Holds (logged ++ readings (attemptEach stamp table.header 0 registry earlier).1) := by
  intro records
  rcases importTable_course stamp refusal hlog.uploaded registry table with
    ⟨last, hfold, hrun⟩ | ⟨earlier, record, later, fault, last, hsplit, hfold, hfault, hrun⟩
  · exact .inl ⟨_, last, hrun, holds_of_foldlM_append hstamp hlog hfold⟩
  · have hlast := holds_of_foldlM_append hstamp hlog hfold
    refine .inr ⟨earlier, record, later, fault, last, hsplit, ?_, hrun, hlast⟩
    cases hrefusal : refusal earlier.length with
    | some other =>
        rw [hrefusal] at hfault
        exact congrArg some (Except.error.inj hfault)
    | none =>
        -- The log would have taken the line.
        have htime : '\n' ∉ (attemptAt stamp table.header earlier.length
            (registryAfter table.header registry earlier) record).entry.timestamp.toList :=
          hstamp earlier.length
        obtain ⟨_, happend, _⟩ := hlast.append htime
        rw [hrefusal] at hfault
        exact absurd (hfault.symm.trans happend) (by simp)

/-- If no line is refused, it attempts them all. -/
theorem importTable_holds (hstamp : ∀ i, '\n' ∉ (stamp i).toList) {log : LogFile}
    {logged : List ProgressEntry} (hlog : log.Holds logged) (registry : FacilityRegistry)
    (table : Table) :
    ∃ summary last, importTable stamp (fun _ => none) registry log (.ok table) =
        (.ok summary,
          registryAfter table.header registry (pending (createdCodes logged) table), last) ∧
      last.Holds (logged ++ readings (attemptEach stamp table.header 0 registry
        (pending (createdCodes logged) table)).1) := by
  rcases importTable_cases hstamp (fun _ => none) hlog registry table with
    hall | ⟨_, _, _, _, _, _, hrefused, _⟩
  · exact hall
  · cases hrefused

end Survey
end WaterRegistry
