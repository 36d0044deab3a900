import WaterRegistry.Proofs.Survey.Import
import WaterRegistry.Proofs.Survey.Logged

/-!
# Starting an import again

An import that has only come to some of its records has stored what they describe, and its log shows
which of them it has created.  When it is started again over the whole table, the created records are
skipped and the others of that part are met once more, but by then what they describe is stored, so
nothing comes of them.  The remaining records are judged as if there had been no interruption: their
geo codes are not those of the first part, so that none of them is skipped on its account.
-/

namespace WaterRegistry
namespace Survey

open ProgressEntry

variable {header : List String} {registry : FacilityRegistry} {log : LogFile}
  {logged : List ProgressEntry} {earlier later : List Record}

theorem pending_append (uploaded : List String) (earlier later : List Record) :
    pending uploaded ⟨header, earlier ++ later⟩ =
      pending uploaded ⟨header, earlier⟩ ++ pending uploaded ⟨header, later⟩ :=
  List.filter_append earlier later

/-- The records of a table whose geo codes can be told apart, in a table and in a log. -/
structure Resumable (header : List String) (records : List Record) : Prop where
  distinct : (records.map (geoCodeOf header)).Nodup
  plain : ∀ record ∈ records, Plain (geoCodeOf header record)
  trimmed : ∀ record ∈ records, trim (geoCodeOf header record) = geoCodeOf header record

namespace Resumable

/-- The geo codes of a part of the records are not met in the rest. -/
theorem geoCodeOf_ne (h : Resumable header (earlier ++ later)) {first second : Record}
    (hfirst : first ∈ earlier) (hsecond : second ∈ later) :
    geoCodeOf header first ≠ geoCodeOf header second := by
  have hdistinct := h.distinct
  rw [List.map_append, List.nodup_append] at hdistinct
  exact hdistinct.2.2 _ (List.mem_map_of_mem hfirst) _ (List.mem_map_of_mem hsecond)

/-- What the first part leaves in the log are geo codes of its own. -/
theorem of_mem_readings (h : Resumable header (earlier ++ later)) (hregistry : registry.Regular)
    {stamp : Nat → String} {index : Nat} {attempted : List Record}
    (hattempted : ∀ record ∈ attempted, record ∈ earlier) {code : String}
    (hcode : code ∈
      createdCodes (readings (attemptEach stamp header index registry attempted).1)) :
    ∃ record ∈ earlier, geoCodeOf header record = code := by
  have hmem : ∀ record ∈ attempted, record ∈ earlier ++ later := fun record hrecord =>
    List.mem_append_left _ (hattempted record hrecord)
  obtain ⟨record, hrecord, rfl, _⟩ := of_mem_createdCodes_readings hregistry
    (fun record hrecord => h.trimmed record (hmem record hrecord)) hcode
  refine ⟨record, hattempted record hrecord, ?_⟩
  rw [(clean_eq_self_iff _).2 (h.plain record (hmem record hrecord))]

/-- So of the rest no record is skipped that was not skipped before. -/
theorem pending_later (h : Resumable header (earlier ++ later)) {uploaded created : List String}
    (hcreated : ∀ code ∈ created, ∃ record ∈ earlier, geoCodeOf header record = code) :
    pending (uploaded ++ created) ⟨header, later⟩ = pending uploaded ⟨header, later⟩ := by
  apply List.filter_congr
  intro record hrecord
  have hother : geoCodeOf header record ∉ created := fun hmem => by
    obtain ⟨first, hfirst, hsame⟩ := hcreated _ hmem
    exact h.geoCodeOf_ne hfirst hrecord hsame
  simp [hother]

/-- Attempts at the first part, and then at all that its log does not show as created, lead where the
attempts at all records lead. -/
theorem registryAfter_pending (h : Resumable header (earlier ++ later))
    (hregistry : registry.Regular) (uploaded : List String) {created : List String}
    (hcreated : ∀ code ∈ created, ∃ record ∈ earlier, geoCodeOf header record = code) :
    registryAfter header (registryAfter header registry (pending uploaded ⟨header, earlier⟩))
        (pending (uploaded ++ created) ⟨header, earlier ++ later⟩) =
      registryAfter header registry (pending uploaded ⟨header, earlier ++ later⟩) := by
  have hbetween := regular_registryAfter hregistry header
    (pending uploaded ⟨header, earlier⟩)
  -- What is attempted again of the first part has been attempted before.
  have hcovered : ∀ record ∈ pending (uploaded ++ created) ⟨header, earlier⟩,
      (registryAfter header registry (pending uploaded ⟨header, earlier⟩)).store.Covers
        header record := by
    intro record hrecord
    obtain ⟨hmem, hcode⟩ := mem_pending.1 hrecord
    exact covers_registryAfter hregistry
      (mem_pending.2 ⟨hmem, fun hold => hcode (List.mem_append_left _ hold)⟩)
  rw [pending_append, registryAfter_append, registryAfter_eq_self hbetween hcovered,
    h.pending_later hcreated, pending_append, registryAfter_append]

end Resumable

/-- An import of the first records of a table, and then one of the whole table with the log and the
registry that this has left, store the same documents under the same ids and in the same order as a
single import of the whole table: the registries at the end are equal.  This holds for a log without
an unfinished line and for times without line feeds, if the geo codes differ and the log keeps them as
they are. -/
theorem importTable_take_then_all {requests : List FacilityRequest} {registry : FacilityRegistry}
    (hreached :
      ((⟨FacilityRegistry.defaultConfig, .empty⟩ : FacilityRegistry).createAll requests).2 =
        registry)
    {log : LogFile} (hwhole : log.Whole) {table : Table}
    (hdistinct : (table.records.map (geoCodeOf table.header)).Nodup)
    (hplain : ∀ record ∈ table.records, Plain (geoCodeOf table.header record))
    (htrimmed : ∀ record ∈ table.records,
      trim (geoCodeOf table.header record) = geoCodeOf table.header record)
    {first second single : Nat → String} (hfirst : ∀ i, '\n' ∉ (first i).toList)
    (hsecond : ∀ i, '\n' ∉ (second i).toList) (hsingle : ∀ i, '\n' ∉ (single i).toList) (k : Nat) :
    ∃ part between partLog rest restLog whole wholeLog last,
      importTable first (fun _ => none) registry log
        (.ok { table with records := table.records.take k }) = (.ok part, between, partLog) ∧
      importTable second (fun _ => none) between partLog (.ok table) = (.ok rest, last, restLog) ∧
      importTable single (fun _ => none) registry log (.ok table) =
        (.ok whole, last, wholeLog) := by
  have hregistry : registry.Regular := hreached ▸ FacilityRegistry.regular_createAll requests
  obtain ⟨logged, hlogged⟩ := hwhole.holds
  obtain ⟨header, records⟩ := table
  dsimp only at hdistinct hplain htrimmed ⊢
  -- Each of the three imports comes down to attempts at the records that its log leaves pending.
  obtain ⟨part, partLog, hpart, hpartLog⟩ :=
    importTable_holds hfirst hlogged registry ⟨header, records.take k⟩
  dsimp only at hpart hpartLog
  obtain ⟨rest, restLog, hrest, _⟩ := importTable_holds hsecond hpartLog
    (registryAfter header registry (pending (createdCodes logged) ⟨header, records.take k⟩))
    ⟨header, records⟩
  obtain ⟨whole, wholeLog, hwholeRun, _⟩ :=
    importTable_holds hsingle hlogged registry ⟨header, records⟩
  refine ⟨part, _, partLog, rest, restLog, whole, wholeLog, _, hpart, hrest, ?_⟩
  -- What the second one meets is what the single one meets, but for records that are covered.
  have hresumable : Resumable header (records.take k ++ records.drop k) := by
    rw [List.take_append_drop]
    exact ⟨hdistinct, hplain, htrimmed⟩
  have hcreated : ∀ code ∈ createdCodes (readings (attemptEach first header 0 registry
      (pending (createdCodes logged) ⟨header, records.take k⟩)).1),
      ∃ record ∈ records.take k, geoCodeOf header record = code := fun code hcode =>
    hresumable.of_mem_readings hregistry (fun _ hrecord => (mem_pending.1 hrecord).1) hcode
  have hsame := hresumable.registryAfter_pending hregistry (createdCodes logged) hcreated
  rw [List.take_append_drop, ← createdCodes_append] at hsame
  rw [hwholeRun, hsame]

/-- Five wells with geo codes of their own.  The second has no number as its latitude. -/
def siteTable : Table where
  header := ["geo_code", "county", "lat"]
  records := [⟨⟨1, 2, 20⟩, ["6CVX", "Nimba", "7.1"]⟩, ⟨⟨2, 3, 40⟩, ["6CVY", "Nimba", "north"]⟩,
    ⟨⟨3, 4, 60⟩, ["6CVZ", "Bong", ""]⟩, ⟨⟨4, 5, 80⟩, ["6CW2", "Bong", ""]⟩,
    ⟨⟨5, 6, 100⟩, ["6CW3", "Bong", ""]⟩]

/-- An import that ends after three wells, of which it creates one, and is started again. -/
theorem importTable_take_then_all_of_wells :
    let registry :=
      ((⟨FacilityRegistry.defaultConfig, .empty⟩ : FacilityRegistry).createAll wellRequests).2
    let now : Nat → String := fun _ => "now"
    wellLog.Whole ∧ (siteTable.records.map (geoCodeOf siteTable.header)).Nodup ∧
      (∀ record ∈ siteTable.records, Plain (geoCodeOf siteTable.header record)) ∧
      (∀ record ∈ siteTable.records,
        trim (geoCodeOf siteTable.header record) = geoCodeOf siteTable.header record) ∧
      (∀ i, '\n' ∉ (now i).toList) ∧
      ∃ between partLog rest restLog wholeLog last,
        importTable now (fun _ => none) registry wellLog
            (.ok { siteTable with records := siteTable.records.take 3 }) =
          (.ok ⟨3, 0, ⟨1, 1, 1⟩⟩, between, partLog) ∧
        importTable now (fun _ => none) between partLog (.ok siteTable) =
          (.ok rest, last, restLog) ∧
        importTable now (fun _ => none) registry wellLog (.ok siteTable) =
          (.ok ⟨5, 1, ⟨2, 1, 1⟩⟩, last, wholeLog) := by
  intro registry now
  have hreached : ((⟨FacilityRegistry.defaultConfig, .empty⟩ : FacilityRegistry).createAll
      wellRequests).2 = registry := rfl
  have hwhole : wellLog.Whole := LogFile.whole_text (.inr (by decide))
  have hdistinct : (siteTable.records.map (geoCodeOf siteTable.header)).Nodup := by decide
  have hplain : ∀ record ∈ siteTable.records, Plain (geoCodeOf siteTable.header record) := by
    decide
  have htrimmed : ∀ record ∈ siteTable.records,
      trim (geoCodeOf siteTable.header record) = geoCodeOf siteTable.header record := by decide
  have hnow : ∀ i, '\n' ∉ (now i).toList := fun _ => by decide
  obtain ⟨part, between, partLog, rest, restLog, whole, wholeLog, last, hpart, hrest, hall⟩ :=
    importTable_take_then_all hreached hwhole hdistinct hplain htrimmed hnow hnow hnow 3
  have hpartSummary : (importTable now (fun _ => none) registry wellLog
      (.ok { siteTable with records := siteTable.records.take 3 })).1 =
        .ok ⟨3, 0, ⟨1, 1, 1⟩⟩ := by decide +kernel
  have hwholeSummary : (importTable now (fun _ => none) registry wellLog (.ok siteTable)).1 =
      .ok ⟨5, 1, ⟨2, 1, 1⟩⟩ := by decide +kernel
  rw [hpart] at hpartSummary
  rw [hall] at hwholeSummary
  cases hpartSummary
  cases hwholeSummary
  exact ⟨hwhole, hdistinct, hplain, htrimmed, hnow, between, partLog, rest, restLog, wholeLog, last,
    hpart, hrest, hall⟩

end Survey
end WaterRegistry
