import WaterRegistry.Proofs.Survey.History
import WaterRegistry.Proofs.Survey.Import

/-!
# The summary of an import and its log

An import counts its outcomes while it runs, and writes them to a log that is read back as text.  The
two agree: an import that comes to its end leaves one more entry for every record that it has
attempted, in the order of the table and with the outcome of the attempt, whatever its fields hold.  So
the outcomes that are counted in the log afterwards are those of before and those of the summary.

The log has no unfinished line at the start.  It may be one that cannot be created; then the import
only comes to its end if there is nothing to attempt.
-/

namespace WaterRegistry

theorem Tally.total_ofStatuses (statuses : List UploadStatus) :
    (ofStatuses statuses).total = statuses.length := by
  induction statuses with
  | nil => rfl
  | cons status rest ih =>
      rw [ofStatuses, total] at ih ⊢
      cases status <;> simp only [List.count_cons, List.length_cons, ← ih] <;> simp <;> omega

/-- The tally of a log counts the outcomes in its entries. -/
theorem LogFile.stats_eq {log : LogFile} {entries : List ProgressEntry}
    (h : log.entries = .ok entries) : log.stats = .ok (.ofStatuses (entries.map (·.status))) := by
  rw [stats, h, ← Tally.foldl_record_zero, List.foldl_map]
  rfl

/-- Entries that are added to a log which has no unfinished line, or is not there, are read back after
those of before. -/
theorem LogFile.entries_of_foldlM_append {log last : LogFile}
    (hlog : log.Whole ∨ ∃ fault, log = .uncreatable fault) {added : List ProgressEntry}
    (htimes : ∀ entry ∈ added, '\n' ∉ entry.timestamp.toList)
    (hfold : added.foldlM LogFile.append log = .ok last) :
    ∃ entries, log.entries = .ok entries ∧
      last.entries = .ok (entries ++ added.map ProgressEntry.readBack) := by
  rcases hlog with hwhole | ⟨fault, rfl⟩
  · obtain ⟨entries, hentries⟩ := hwhole.holds
    obtain ⟨_, hsame, hlast⟩ := hentries.foldlM_append htimes
    rw [hfold] at hsame
    cases hsame
    exact ⟨entries, hentries.entries_eq, hlast.entries_eq⟩
  · -- No entry can be added, so none has been.
    cases added with
    | nil =>
        cases hfold
        exact ⟨[], rfl, rfl⟩
    | cons entry rest => cases hfold

namespace Survey

/-- What is read back of attempts are their outcomes. -/
theorem status_readings (stamp : Nat → String) (header : List String) (index : Nat)
    (registry : FacilityRegistry) (records : List Record) :
    (readings (attemptEach stamp header index registry records).1).map (·.status) =
      statuses (attemptEach stamp header index registry records).1 := by
  rw [readings, statuses, List.map_map]
  apply List.map_congr_left
  intro made hmade
  obtain ⟨_, _, _, _, _, hentry⟩ := of_mem_attemptEach hmade
  rw [Function.comp_apply, ProgressEntry.status_readBack, hentry]
  rfl

/-- Every record of a table is skipped or pending. -/
theorem length_records (uploaded : List String) (table : Table) :
    table.records.length =
      table.records.countP (fun record => geoCodeOf table.header record ∈ uploaded) +
        (pending uploaded table).length := by
  rw [pending, ← List.countP_eq_length_filter,
    List.length_eq_countP_add_countP fun record => geoCodeOf table.header record ∈ uploaded]
  congr 2
  funext record
  simp

/-- An import that comes to its end has read its table and its log, and has written the lines of all
its attempts. -/
theorem ImportRequest.exists_of_run_eq_ok {request : ImportRequest}
    {registry after : FacilityRegistry} {log last : LogFile} {summary : Summary}
    (hrun : request.run registry log = (.ok summary, after, last)) :
    ∃ table uploaded attempts, request.table = .ok table ∧ log.uploaded = .ok uploaded ∧
      attemptEach request.stamp table.header 0 registry (pending uploaded table) =
        (attempts, after) ∧
      (entriesOf attempts).foldlM LogFile.append log = .ok last ∧
      summary = ⟨table.records.length, table.records.length - (pending uploaded table).length,
        .ofStatuses (statuses attempts)⟩ := by
  cases htable : request.table with
  | error error =>
      obtain ⟨cause, herror⟩ := request.run_eq_of_error htable
      rw [herror] at hrun
      cases hrun
  | ok table =>
      rw [request.run_eq_of_table htable] at hrun
      cases hreadable : log.uploaded with
      | error fault =>
          rw [importTable_of_unreadable_log _ _ hreadable] at hrun
          cases hrun
      | ok uploaded =>
          rcases importTable_course request.stamp request.refusal hreadable registry table with
            ⟨last, hfold, hall⟩ | ⟨_, _, _, _, _, _, _, _, hfault⟩
          · rw [hall] at hrun
            cases hrun
            exact ⟨table, uploaded, _, rfl, rfl,
              Prod.ext rfl (registry_attemptEach _ _ _ _ _), hfold, rfl⟩
          · rw [hfault] at hrun
            cases hrun

/-- After an import that comes to its end, into any registry, with a log that has no unfinished line
or is not there, and with times without line feeds.  The summary gives the number of the records and
how many of them were skipped because the log showed their geo codes as created; the others have been
attempted.  The entries of the log are those of before and one for each attempt, in their order and
with their outcomes.  So every outcome is counted in the log as often as before and in the summary. -/
theorem summary_agrees_with_log {request : ImportRequest}
    (hstamp : ∀ i, '\n' ∉ (request.stamp i).toList) {registry after : FacilityRegistry}
    {log last : LogFile} (hlog : log.Whole ∨ ∃ fault, log = .uncreatable fault)
    {summary : Summary} (hrun : request.run registry log = (.ok summary, after, last)) :
    ∃ table entries uploaded attempts before now, request.table = .ok table ∧
      log.entries = .ok entries ∧ log.uploaded = .ok uploaded ∧ log.stats = .ok before ∧
      last.stats = .ok now ∧
      attemptEach request.stamp table.header 0 registry (pending uploaded table) =
        (attempts, after) ∧
      attempts.map (·.record) = pending uploaded table ∧
      summary.total = table.records.length ∧
      summary.skipped =
        table.records.countP (fun record => geoCodeOf table.header record ∈ uploaded) ∧
      summary.total = summary.skipped + summary.tally.total ∧
      last.entries = .ok (entries ++ readings attempts) ∧
      (readings attempts).map (·.status) = statuses attempts ∧
      now = ⟨before.success + summary.tally.success, before.duplicate + summary.tally.duplicate,
        before.failed + summary.tally.failed⟩ := by
  obtain ⟨table, uploaded, attempts, htable, huploaded, hattempts, hfold, rfl⟩ :=
    request.exists_of_run_eq_ok hrun
  have hmade : (attemptEach request.stamp table.header 0 registry (pending uploaded table)).1 =
      attempts := congrArg Prod.fst hattempts
  have htimes : ∀ entry ∈ entriesOf attempts, '\n' ∉ entry.timestamp.toList := fun entry hentry =>
    lineFeed_not_mem_timestamp hstamp (hmade ▸ hentry)
  have hrecords : attempts.map (·.record) = pending uploaded table := by
    rw [← hmade, records_attemptEach]
  have hstatuses : (readings attempts).map (·.status) = statuses attempts := by
    rw [← hmade]
    exact status_readings _ _ _ _ _
  obtain ⟨entries, hentries, hlast⟩ := LogFile.entries_of_foldlM_append hlog htimes hfold
  rw [map_readBack_entriesOf] at hlast
  have hlength := length_records uploaded table
  have hattempted : (statuses attempts).length = (pending uploaded table).length := by
    rw [statuses, List.length_map, ← hrecords, List.length_map]
  refine ⟨table, entries, uploaded, attempts, _, _, htable, hentries, huploaded,
    LogFile.stats_eq hentries, LogFile.stats_eq hlast, hattempts, hrecords, rfl, ?_, ?_, hlast,
    hstatuses, ?_⟩
  · dsimp only
    omega
  · rw [Tally.total_ofStatuses]
    dsimp only
    omega
  · rw [List.map_append, hstatuses]
    simp only [Tally.ofStatuses, List.count_append]

/-- Of five wells one has been created before, one is created, two are duplicates and one has no number
as its latitude.  The log then has as many entries of each outcome as before and as in the summary. -/
theorem summary_agrees_with_log_of_wells :
    let registry :=
      ((⟨FacilityRegistry.defaultConfig, .empty⟩ : FacilityRegistry).createAll wellRequests).2
    let request := importOf ("geo_code,county,lat\n6CVX,Nimba,7.1\n6CVX,NIMBA,\n" ++
      "6CVY,Nimba,north\n6CVZ,Bong,\n6CW2,Bong,\n")
    (∀ i, '\n' ∉ (request.stamp i).toList) ∧
      (wellLog.Whole ∨ ∃ fault, wellLog = .uncreatable fault) ∧
      wellLog.stats = .ok ⟨1, 0, 0⟩ ∧
      ∃ after last, request.run registry wellLog = (.ok ⟨5, 1, ⟨1, 2, 1⟩⟩, after, last) ∧
        last.stats = .ok ⟨2, 2, 1⟩ := by
  intro registry request
  have hnow : '\n' ∉ "now".toList := by decide
  have hstamp : ∀ i, '\n' ∉ (request.stamp i).toList := fun _ => hnow
  have hlog : wellLog.Whole ∨ ∃ fault, wellLog = .uncreatable fault :=
    .inl (LogFile.whole_text (.inr (by decide)))
  have hstats : wellLog.stats = .ok ⟨1, 0, 0⟩ := congrArg Except.ok (by decide)
  have hsummary : (request.run registry wellLog).1 = .ok ⟨5, 1, ⟨1, 2, 1⟩⟩ := by decide +kernel
  rcases hrun : request.run registry wellLog with ⟨answer, after, last⟩
  rw [hrun] at hsummary
  obtain rfl : answer = .ok ⟨5, 1, ⟨1, 2, 1⟩⟩ := hsummary
  obtain ⟨_, _, _, _, before, now, _, _, _, hbefore, hlast, _, _, _, _, _, _, _, hsum⟩ :=
    summary_agrees_with_log hstamp hlog hrun
  rw [hstats] at hbefore
  cases hbefore
  exact ⟨hstamp, hlog, hstats, after, last, rfl, hlast.trans (congrArg Except.ok hsum)⟩

end Survey
end WaterRegistry
