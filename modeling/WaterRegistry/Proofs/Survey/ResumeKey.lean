import WaterRegistry.Proofs.Survey.LogGrowth

/-!
# The geo codes that a log shows as created

An import is resumed by geo codes: those of the created rows are recovered from the log, and compared
with those of the records as they stand in the table.  What comes back of a geo code is its cleaned
form.  So a code without bars and line breaks comes back as it is, and no other code comes back with
it; a code that has a bar is not found again, and is taken for the code that it is cleaned to.
-/

namespace WaterRegistry
namespace ProgressEntry

/-- The geo codes of the entries that record a creation. -/
def createdCodes (entries : List ProgressEntry) : List String :=
  (entries.filter (·.status = .success)).map (·.geoCode)

theorem createdCodes_append (earlier later : List ProgressEntry) :
    createdCodes (earlier ++ later) = createdCodes earlier ++ createdCodes later := by
  rw [createdCodes, List.filter_append, List.map_append]
  rfl

theorem mem_createdCodes {entries : List ProgressEntry} {code : String} :
    code ∈ createdCodes entries ↔
      ∃ entry ∈ entries, entry.status = .success ∧ entry.geoCode = code := by
  simp [createdCodes, and_assoc]

/-- The codes that come back are the cleaned ones. -/
theorem createdCodes_map_readBack {entries : List ProgressEntry}
    (htrimmed : ∀ entry ∈ entries, trim entry.geoCode = entry.geoCode) :
    createdCodes (entries.map readBack) = (createdCodes entries).map clean := by
  induction entries with
  | nil => rfl
  | cons entry rest ih =>
      obtain ⟨hentry, hrest⟩ := List.forall_mem_cons.1 htrimmed
      have hcode : entry.readBack.geoCode = clean entry.geoCode := by
        rw [geoCode_readBack, trimStart_clean hentry]
      have hcons : ∀ (first : ProgressEntry) (others : List ProgressEntry),
          createdCodes (first :: others) =
            if first.status = .success then first.geoCode :: createdCodes others
            else createdCodes others := by
        intro first others
        by_cases h : first.status = .success <;> simp [createdCodes, h]
      rw [List.map_cons, hcons, hcons, ih hrest, hcode, status_readBack]
      split <;> rfl

end ProgressEntry

namespace LogFile

open ProgressEntry

theorem Holds.uploaded {log : LogFile} {entries : List ProgressEntry} (h : log.Holds entries) :
    log.uploaded = .ok (createdCodes entries) := by
  rw [LogFile.uploaded, h.entries_eq]
  rfl

/-- A log without an unfinished line takes any number of entries, and holds them afterwards. -/
theorem Holds.foldlM_append {log : LogFile} {entries : List ProgressEntry} (h : log.Holds entries)
    {added : List ProgressEntry} (htimes : ∀ entry ∈ added, '\n' ∉ entry.timestamp.toList) :
    ∃ last, added.foldlM LogFile.append log = .ok last ∧
      last.Holds (entries ++ added.map readBack) := by
  induction added generalizing log entries with
  | nil => exact ⟨log, rfl, by rwa [List.map_nil, List.append_nil]⟩
  | cons entry rest ih =>
      obtain ⟨hentry, hrest⟩ := List.forall_mem_cons.1 htimes
      obtain ⟨next, happend, hnext⟩ := h.append hentry
      obtain ⟨last, hfold, hlast⟩ := ih hnext hrest
      refine ⟨last, ?_, ?_⟩
      · rw [List.foldlM_cons, happend]
        exact hfold
      · rwa [List.map_cons, List.append_cons]

/-- When entries are added to a log without an unfinished line, the codes that it shows as created are
those of before and the cleaned codes of the entries that record a creation.  So a code is shown
exactly if it was before, or is the cleaned form of such a code; and if these codes have neither bars
nor line breaks, then they are themselves what is shown. -/
theorem uploaded_foldlM_append {log : LogFile} (hwhole : log.Whole) {added : List ProgressEntry}
    (htrimmed : ∀ entry ∈ added, trim entry.geoCode = entry.geoCode)
    (htimes : ∀ entry ∈ added, Plain entry.timestamp) :
    ∃ before last after, log.uploaded = .ok before ∧
      added.foldlM LogFile.append log = .ok last ∧ last.uploaded = .ok after ∧
      after = before ++ (createdCodes added).map clean ∧
      (∀ code, code ∈ after ↔ code ∈ before ∨
        ∃ entry ∈ added, entry.status = .success ∧ clean entry.geoCode = code) ∧
      ((∀ code ∈ createdCodes added, Plain code) → after = before ++ createdCodes added) := by
  obtain ⟨entries, hentries⟩ := hwhole.holds
  obtain ⟨last, hfold, hlast⟩ := hentries.foldlM_append fun entry hentry =>
    (htimes entry hentry).lineFeed_not_mem
  have hafter : createdCodes (entries ++ added.map readBack) =
      createdCodes entries ++ (createdCodes added).map clean := by
    rw [createdCodes_append, createdCodes_map_readBack htrimmed]
  refine ⟨createdCodes entries, last, createdCodes (entries ++ added.map readBack),
    hentries.uploaded, hfold, hlast.uploaded, hafter, fun code => ?_, fun hplain => ?_⟩
  · rw [hafter, List.mem_append, List.mem_map]
    apply or_congr_right
    constructor
    · rintro ⟨original, hmem, rfl⟩
      obtain ⟨entry, hentry, hsuccess, rfl⟩ := mem_createdCodes.1 hmem
      exact ⟨entry, hentry, hsuccess, rfl⟩
    · rintro ⟨entry, hentry, hsuccess, rfl⟩
      exact ⟨_, mem_createdCodes.2 ⟨entry, hentry, hsuccess, rfl⟩, rfl⟩
  · rw [hafter]
    conv_rhs => rhs; rw [← List.map_id (createdCodes added)]
    rw [List.map_congr_left fun code hcode => (clean_eq_self_iff code).2 (hplain code hcode)]
    rfl

/-- Of three entries that are added to a log with a foreign line, two record a creation. -/
theorem uploaded_foldlM_append_of_wells :
    let log := LogFile.text "# wells\r\n6CW2|SUCCESS|Created\n"
    let added : List ProgressEntry := [
      ⟨"6CVX", .success, "Created", some "1-1", some "WF-NIM-UNK-UNK-000000", "now"⟩,
      ⟨"6CVY", .failed, "Transform error", none, none, "now"⟩,
      ⟨"6CV|Z", .success, "Created", some "1-2", none, "now"⟩]
    log.Whole ∧ (∀ entry ∈ added, trim entry.geoCode = entry.geoCode) ∧
      (∀ entry ∈ added, Plain entry.timestamp) ∧
      ∃ last, added.foldlM LogFile.append log = .ok last ∧
        last.uploaded = .ok ["6CW2", "6CVX", "6CV/Z"] := by
  intro log added
  have hwhole : log.Whole := whole_text (.inr (by decide))
  have htrimmed : ∀ entry ∈ added, trim entry.geoCode = entry.geoCode := by decide
  have htimes : ∀ entry ∈ added, Plain entry.timestamp := by decide
  obtain ⟨before, last, after, hbefore, hfold, hlast, hafter, _⟩ :=
    uploaded_foldlM_append hwhole htrimmed htimes
  refine ⟨hwhole, htrimmed, htimes, last, hfold, ?_⟩
  obtain rfl : ["6CW2"] = before := Except.ok.inj hbefore
  rw [hlast, hafter]
  decide

/-- A created row whose geo code has a bar is not found again by its code, and another code is found
in its place. -/
theorem uploaded_of_barred_code :
    let entry : ProgressEntry := ⟨"6CV|X", .success, "Created", some "1-1", none, "now"⟩
    trim entry.geoCode = entry.geoCode ∧ Plain entry.timestamp ∧
      ∃ last, LogFile.missing.uploaded = .ok [] ∧
        [entry].foldlM LogFile.append .missing = .ok last ∧ last.uploaded = .ok ["6CV/X"] ∧
        entry.geoCode ∉ ["6CV/X"] := by
  intro entry
  have htrimmed : trim entry.geoCode = entry.geoCode := by decide
  have htime : Plain entry.timestamp := by decide
  have hmissing : LogFile.missing.Holds [] := ⟨trivial, rfl⟩
  have htimes : ∀ other ∈ [entry], '\n' ∉ other.timestamp.toList := by decide
  obtain ⟨last, hfold, hlast⟩ := hmissing.foldlM_append htimes
  have hcodes : createdCodes ([] ++ [entry].map readBack) = ["6CV/X"] := by decide
  refine ⟨htrimmed, htime, last, hmissing.uploaded, hfold, ?_, by decide⟩
  rw [hlast.uploaded, hcodes]

end LogFile
end WaterRegistry
