import WaterRegistry.Proofs.Survey.Coverage
import WaterRegistry.Proofs.Survey.Reading

/-!
# The course of an import

Whatever the log is and whichever of its lines are refused, an import attempts its records in their
order, and writes the line of each attempt before it goes on to the next record.  So it comes to all
of its records, or it ends at the first one whose line is not written.  That record has been attempted,
and what it describes may have been stored, but only the attempts before it are in the log.
-/

namespace WaterRegistry

/-- The numbers of outcomes in a list. -/
def Tally.ofStatuses (statuses : List UploadStatus) : Tally :=
  ⟨statuses.count .success, statuses.count .duplicate, statuses.count .failed⟩

/-- Recording outcomes one after the other counts them. -/
theorem Tally.foldl_record (tally : Tally) (statuses : List UploadStatus) :
    statuses.foldl Tally.record tally =
      ⟨tally.success + statuses.count .success, tally.duplicate + statuses.count .duplicate,
        tally.failed + statuses.count .failed⟩ := by
  induction statuses generalizing tally with
  | nil => rfl
  | cons status rest ih =>
      rw [List.foldl_cons, ih]
      cases status <;> simp [Tally.record, Nat.add_assoc, Nat.add_comm 1]

theorem Tally.foldl_record_zero (statuses : List UploadStatus) :
    statuses.foldl Tally.record .zero = .ofStatuses statuses := by
  rw [foldl_record]
  simp [ofStatuses, zero]

theorem LogFile.write_eq_ok {refusal : Option FileFault} {log next : LogFile}
    {entry : ProgressEntry} (h : log.write refusal entry = .ok next) :
    log.append entry = .ok next := by
  cases refusal with
  | some fault => cases h
  | none => exact h

/-- A log that can be read is a text once a line has been added to it. -/
theorem LogFile.append_eq_text {log next : LogFile} {uploaded : List String}
    (hreadable : log.uploaded = .ok uploaded) {entry : ProgressEntry}
    (h : log.append entry = .ok next) :
    next = .text (log.content?.getD "" ++ (entry.toLine ++ "\n")) := by
  cases log with
  | missing =>
      cases h
      exact congrArg LogFile.text String.empty_append.symm
  | text content =>
      cases h
      rfl
  | uncreatable fault => cases h
  | unusable fault => cases h
  | garbled bytes => cases hreadable

/-- So it grows by the lines that are added. -/
theorem LogFile.content_foldlM_append {log last : LogFile} {uploaded : List String}
    (hreadable : log.uploaded = .ok uploaded) {entries : List ProgressEntry}
    (h : entries.foldlM LogFile.append log = .ok last) :
    last.content?.getD "" =
      log.content?.getD "" ++ String.join (entries.map fun entry => entry.toLine ++ "\n") := by
  induction entries generalizing log uploaded with
  | nil =>
      cases h
      simp
  | cons entry rest ih =>
      obtain ⟨next, happend, hrest⟩ := exists_of_bind_eq_ok h
      obtain rfl := append_eq_text hreadable happend
      rw [ih rfl hrest]
      simp [content?, String.append_assoc]

/-- A log that takes every line goes on doing so. -/
theorem LogFile.takes_foldlM_append {log last : LogFile}
    (htakes : ∀ entry, ∃ next, log.append entry = .ok next) {entries : List ProgressEntry}
    (h : entries.foldlM LogFile.append log = .ok last) (entry : ProgressEntry) :
    ∃ next, last.append entry = .ok next := by
  induction entries generalizing log with
  | nil =>
      cases h
      exact htakes entry
  | cons first rest ih =>
      obtain ⟨next, happend, hrest⟩ := exists_of_bind_eq_ok h
      refine ih (fun other => ?_) hrest
      cases log with
      | missing => cases happend; exact ⟨_, rfl⟩
      | text content => cases happend; exact ⟨_, rfl⟩
      | garbled bytes => cases happend; exact ⟨_, rfl⟩
      | uncreatable fault => cases happend
      | unusable fault => cases happend

namespace Survey

/-- An attempt at a record, with the registry before and after it, and the entry that is logged. -/
structure Attempt where
  record : Record
  before : FacilityRegistry
  outcome : RowOutcome
  entry : ProgressEntry
  after : FacilityRegistry

/-- Attempts records one after the other, as an import does, and gives the registry at the end. -/
def attemptEach (stamp : Nat → String) (header : List String) (index : Nat)
    (registry : FacilityRegistry) : List Record → List Attempt × FacilityRegistry
  | [] => ([], registry)
  | record :: rest =>
    let (outcome, after) := attempt registry header record
    let entry := logEntry (geoCodeOf header record) outcome (stamp index)
    let (attempts, last) := attemptEach stamp header (index + 1) after rest
    (⟨record, registry, outcome, entry, after⟩ :: attempts, last)

/-- The outcomes of attempts, in their order. -/
def statuses (attempts : List Attempt) : List UploadStatus :=
  attempts.map (·.outcome.status)

/-- The entries of attempts, in their order. -/
def entriesOf (attempts : List Attempt) : List ProgressEntry :=
  attempts.map (·.entry)

/-- The lines of attempts, in their order, each with the line feed that ends it. -/
def logLines (attempts : List Attempt) : List String :=
  attempts.map fun attempt => attempt.entry.toLine ++ "\n"

theorem map_toLine_entriesOf (attempts : List Attempt) :
    ((entriesOf attempts).map fun entry => entry.toLine ++ "\n") = logLines attempts :=
  List.map_map

/-- The attempt at a record that has its turn in a run. -/
def attemptAt (stamp : Nat → String) (header : List String) (index : Nat)
    (registry : FacilityRegistry) (record : Record) : Attempt :=
  let (outcome, after) := attempt registry header record
  ⟨record, registry, outcome, logEntry (geoCodeOf header record) outcome (stamp index), after⟩

section

variable {stamp : Nat → String} {header : List String} {index : Nat} {registry : FacilityRegistry}

theorem attemptEach_cons (record : Record) (rest : List Record) :
    attemptEach stamp header index registry (record :: rest) =
      (attemptAt stamp header index registry record ::
          (attemptEach stamp header (index + 1) (attempt registry header record).2 rest).1,
        (attemptEach stamp header (index + 1) (attempt registry header record).2 rest).2) :=
  rfl

theorem records_attemptEach (stamp : Nat → String) (header : List String) (index : Nat)
    (registry : FacilityRegistry) (records : List Record) :
    (attemptEach stamp header index registry records).1.map (·.record) = records := by
  induction records generalizing index registry with
  | nil => rfl
  | cons record rest ih =>
      rw [attemptEach]
      exact congrArg (record :: ·) (ih _ _)

theorem registry_attemptEach (stamp : Nat → String) (header : List String) (index : Nat)
    (registry : FacilityRegistry) (records : List Record) :
    (attemptEach stamp header index registry records).2 = registryAfter header registry records := by
  induction records generalizing index registry with
  | nil => rfl
  | cons record rest ih =>
      rw [attemptEach_cons, registryAfter_cons]
      exact ih _ _

/-- The first attempts of a run are those that a run of the first records makes. -/
theorem attemptEach_append (earlier later : List Record) :
    (attemptEach stamp header index registry (earlier ++ later)).1 =
      (attemptEach stamp header index registry earlier).1 ++
        (attemptEach stamp header (index + earlier.length)
          (registryAfter header registry earlier) later).1 := by
  induction earlier generalizing index registry with
  | nil => rfl
  | cons record rest ih =>
      rw [List.cons_append, attemptEach_cons, attemptEach_cons, registryAfter_cons, ih,
        List.length_cons, Nat.add_assoc, Nat.add_comm 1]
      rfl

theorem attemptAll_cons (refusal : Nat → Option FileFault) (log : LogFile) (tally : Tally)
    (record : Record) (rest : List Record) :
    attemptAll stamp refusal header index ⟨registry, log, tally⟩ (record :: rest) =
      match log.write (refusal index) (attemptAt stamp header index registry record).entry with
      | .error fault => (.error fault, ⟨(attempt registry header record).2, log, tally⟩)
      | .ok next => attemptAll stamp refusal header (index + 1)
          ⟨(attempt registry header record).2, next,
            tally.record (attempt registry header record).1.status⟩ rest :=
  rfl

/-- A run of an import attempts all of its records and writes their lines, or it ends with the attempt
at the first record whose line is not written. -/
theorem attemptAll_course (refusal : Nat → Option FileFault) (log : LogFile) (tally : Tally)
    (records : List Record) :
    (∃ last,
      (entriesOf (attemptEach stamp header index registry records).1).foldlM LogFile.append log =
        .ok last ∧
      attemptAll stamp refusal header index ⟨registry, log, tally⟩ records =
        (.ok (), ⟨registryAfter header registry records, last,
          (statuses (attemptEach stamp header index registry records).1).foldl Tally.record
            tally⟩)) ∨
    ∃ earlier record later fault last, records = earlier ++ record :: later ∧
      (entriesOf (attemptEach stamp header index registry earlier).1).foldlM LogFile.append log =
        .ok last ∧
      last.write (refusal (index + earlier.length)) (attemptAt stamp header
        (index + earlier.length) (registryAfter header registry earlier) record).entry =
          .error fault ∧
      attemptAll stamp refusal header index ⟨registry, log, tally⟩ records =
        (.error fault, ⟨registryAfter header registry (earlier ++ [record]), last,
          (statuses (attemptEach stamp header index registry earlier).1).foldl Tally.record
            tally⟩) := by
  induction records generalizing index registry log tally with
  | nil => exact .inl ⟨log, rfl, rfl⟩
  | cons record rest ih =>
      rw [attemptAll_cons]
      cases hwrite :
          log.write (refusal index) (attemptAt stamp header index registry record).entry with
      | error fault => exact .inr ⟨[], record, rest, fault, log, rfl, rfl, hwrite, rfl⟩
      | ok next =>
          have happend := LogFile.write_eq_ok hwrite
          -- What the first line adds to the log comes before the lines of the others.
          have hfold : ∀ attempts : List Attempt,
              (entriesOf (attemptAt stamp header index registry record :: attempts)).foldlM
                LogFile.append log = (entriesOf attempts).foldlM LogFile.append next := by
            intro attempts
            rw [entriesOf, List.map_cons, List.foldlM_cons, happend]
            rfl
          rcases @ih (index + 1) (attempt registry header record).2 next
              (tally.record (attempt registry header record).1.status) with
            ⟨last, hlast, hrun⟩ | ⟨earlier, refused, later, fault, last, rfl, hlast, hfault, hrun⟩
          · refine .inl ⟨last, ?_, hrun⟩
            rw [attemptEach_cons, hfold, hlast]
          · refine .inr ⟨record :: earlier, refused, later, fault, last, rfl, ?_, ?_, hrun⟩
            · rw [attemptEach_cons, hfold, hlast]
            · rw [List.length_cons, Nat.add_comm earlier.length, ← Nat.add_assoc]
              exact hfault

theorem importTable_of_unreadable_log (stamp : Nat → String) (refusal : Nat → Option FileFault)
    {log : LogFile} {fault : FileFault} (hlog : log.uploaded = .error fault)
    (registry : FacilityRegistry) (table : Except TableError Table) :
    importTable stamp refusal registry log table = (.error (.log fault), registry, log) := by
  rw [importTable, importTableM, hlog]
  rfl

/-- An import whose log can be read is a run of attempts at the records that are not skipped. -/
theorem importTable_of_readable_log (stamp : Nat → String) (refusal : Nat → Option FileFault)
    {log : LogFile} {uploaded : List String} (hlog : log.uploaded = .ok uploaded)
    (registry : FacilityRegistry) (table : Table) :
    importTable stamp refusal registry log (.ok table) =
      let (ended, progress) :=
        attemptAll stamp refusal table.header 0 ⟨registry, log, .zero⟩ (pending uploaded table)
      (match ended with
        | .error fault => .error (.log fault)
        | .ok () => .ok ⟨table.records.length,
            table.records.length - (pending uploaded table).length, progress.tally⟩,
        progress.registry, progress.log) := by
  rw [importTable, importTableM, hlog]
  rfl

/-- So an import whose log can be read takes the course of its attempts. -/
theorem importTable_course (stamp : Nat → String) (refusal : Nat → Option FileFault)
    {log : LogFile} {uploaded : List String} (hreadable : log.uploaded = .ok uploaded)
    (registry : FacilityRegistry) (table : Table) :
    let records := pending uploaded table
    (∃ last,
      (entriesOf (attemptEach stamp table.header 0 registry records).1).foldlM LogFile.append log =
        .ok last ∧
      importTable stamp refusal registry log (.ok table) =
        (.ok ⟨table.records.length, table.records.length - records.length,
            .ofStatuses (statuses (attemptEach stamp table.header 0 registry records).1)⟩,
          registryAfter table.header registry records, last)) ∨
    ∃ earlier record later fault last, records = earlier ++ record :: later ∧
      (entriesOf (attemptEach stamp table.header 0 registry earlier).1).foldlM LogFile.append log =
        .ok last ∧
      last.write (refusal earlier.length) (attemptAt stamp table.header earlier.length
        (registryAfter table.header registry earlier) record).entry = .error fault ∧
      importTable stamp refusal registry log (.ok table) =
        (.error (.log fault), registryAfter table.header registry (earlier ++ [record]), last) := by
  intro records
  rcases attemptAll_course refusal log .zero records with
    ⟨last, hlast, hrun⟩ | ⟨earlier, record, later, fault, last, hsplit, hlast, hfault, hrun⟩
  · refine .inl ⟨last, hlast, ?_⟩
    rw [importTable_of_readable_log stamp refusal hreadable, hrun, Tally.foldl_record_zero]
  · rw [Nat.zero_add] at hfault
    refine .inr ⟨earlier, record, later, fault, last, hsplit, hlast, hfault, ?_⟩
    rw [importTable_of_readable_log stamp refusal hreadable, hrun]

end

end Survey
end WaterRegistry
