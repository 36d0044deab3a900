import WaterRegistry.Proofs.Survey.LogLine

/-!
# Log lines there and back

The line of an entry is read as the entry with each field put on one line.  Of the white space around
the fields only that at the start of the geo code is lost.  What has been read is settled: its fields
have neither bars nor line breaks, its geo code starts with no white space and its time ends with
none.  So a line that is written for it is read as the same entry again, however short the first line
was; only what stands behind a sixth bar would be passed over.
-/

namespace WaterRegistry
namespace ProgressEntry

/-- A field on one line: bars become slashes, line breaks become spaces, and all else stays. -/
def oneLine (field : String) : String :=
  String.ofList (field.toList.map
    (Function.update (Function.update (Function.update id '|' '/') '\r' ' ') '\n' ' '))

theorem clean_eq_oneLine : clean = oneLine := by
  funext field
  rw [clean, oneLine]
  refine congrArg String.ofList (List.map_congr_left fun c _ => ?_)
  simp only [cleanChar, Function.update_apply, id]
  grind

/-- The line of an entry has the five bars between its fields, and those of its time. -/
theorem count_bar_toLine {entry : ProgressEntry} (h : '|' ∉ entry.timestamp.toList) :
    entry.toLine.toList.count '|' = 5 := by
  have hplain {field : String} (hfield : Plain field) : field.toList.count '|' = 0 :=
    List.count_eq_zero.2 hfield.bar_not_mem
  rw [toList_toLine]
  simp [hplain (plain_clean _), hplain (plain_text _), hplain (plain_cleanOption _),
    List.count_eq_zero.2 h]

/-- An entry as it comes from a line: cleaned, and without white space at its ends. -/
structure Settled (entry : ProgressEntry) : Prop where
  geoCode_plain : Plain entry.geoCode
  geoCode_start : trimStart entry.geoCode = entry.geoCode
  message_plain : Plain entry.message
  osid_plain : ∀ osid, entry.osid = some osid → Plain osid ∧ osid ≠ ""
  wfId_plain : ∀ wfId, entry.wfId = some wfId → Plain wfId ∧ wfId ≠ ""
  timestamp_bar : '|' ∉ entry.timestamp.toList
  timestamp_end : trimEnd entry.timestamp = entry.timestamp

/-- The time of an entry comes back unchanged if it has no bar and no white space at its end. -/
theorem timestamp_readBack {entry : ProgressEntry} (hbar : '|' ∉ entry.timestamp.toList)
    (hend : trimEnd entry.timestamp = entry.timestamp) :
    entry.readBack.timestamp = entry.timestamp := by
  have hwhole : entry.timestamp.toList.takeWhile (· ≠ '|') = entry.timestamp.toList := by
    rw [List.takeWhile_eq_self_iff]
    rintro c hc
    simpa using fun hcbar : c = '|' => hbar (hcbar ▸ hc)
  rw [readBack, hend, hwhole, String.ofList_toList]

theorem Settled.readBack_eq_self {entry : ProgressEntry} (h : entry.Settled) :
    entry.readBack = entry := by
  have hclean {field : String} (hfield : Plain field) : clean field = field :=
    (clean_eq_self_iff field).2 hfield
  have hoption {field : Option String}
      (hfield : ∀ text, field = some text → Plain text ∧ text ≠ "") :
      (field.map clean).filter (· ≠ "") = field := by
    cases field with
    | none => rfl
    | some text => simp [hclean (hfield text rfl).1, (hfield text rfl).2, Option.filter]
  have htime : String.ofList ((trimEnd entry.timestamp).toList.takeWhile (· ≠ '|')) =
      entry.timestamp := timestamp_readBack h.timestamp_bar h.timestamp_end
  rw [readBack, htime, hclean h.geoCode_plain, h.geoCode_start, hclean h.message_plain,
    hoption h.osid_plain, hoption h.wfId_plain]

/-- Where the fields of an entry stand in its line. -/
theorem of_ofFields? {fields : List String} {entry : ProgressEntry}
    (h : ofFields? fields = some entry) :
    fields[0]? = some entry.geoCode ∧ fields[2]? = some entry.message ∧
      entry.osid = field? fields 3 ∧ entry.wfId = field? fields 4 ∧
      entry.timestamp = (fields[5]?).getD "" := by
  unfold ofFields? at h
  split at h
  · obtain ⟨_, _, rfl⟩ := Option.map_eq_some_iff.1 h
    exact ⟨rfl, rfl, rfl, rfl, getD_field? _ 5⟩
  · cases h

/-- Trimming takes no bars away, so it does not change how many fields there are. -/
theorem length_splitOnChar_trim (line : String) :
    (splitOnChar '|' (trim line)).length = (splitOnChar '|' line).length := by
  have hbar : isBlank '|' = false := by decide
  rw [splitOnChar, splitOnChar, List.length_map, List.length_map, length_pieces, length_pieces,
    trim, String.toList_ofList, count_trimList hbar]

theorem plain_of_mem_splitOnChar {line field : String}
    (hline : ∀ c ∈ line.toList, c ≠ '\r' ∧ c ≠ '\n')
    (h : field ∈ splitOnChar '|' (trim line)) : Plain field := by
  obtain ⟨piece, hpiece, rfl⟩ := List.mem_map.1 h
  intro c hc
  rw [String.toList_ofList] at hc
  have hkept : c ∈ trimList isBlank line.toList := by
    simpa [trim] using subset_of_mem_pieces hpiece hc
  refine ⟨fun hbar => not_mem_of_mem_pieces hpiece (hbar ▸ hc), hline c ?_⟩
  obtain ⟨front, back, hwhole, _⟩ := exists_margins isBlank line.toList
  rw [hwhole]
  simp [hkept]

/-- The first field stands where the line has been trimmed in front. -/
theorem trimStart_of_first {line field : String}
    (h : (splitOnChar '|' (trim line))[0]? = some field) : trimStart field = field := by
  obtain ⟨more, hfirst⟩ := exists_splitOn_eq '|' (trimList isBlank line.toList)
  rw [splitOnChar, pieces_eq_splitOn, trim, String.toList_ofList, hfirst, List.map_cons,
    List.getElem?_cons_zero, Option.some.injEq] at h
  rw [← h, trimStart, String.toList_ofList, dropWhile_takeWhile_eq_self (dropWhile_trimList _ _)]

/-- The sixth of at most six fields is the last one, and stands where the line has been trimmed at
the end. -/
theorem trimEnd_of_last {line : String} (hfew : (splitOnChar '|' (trim line)).length ≤ 6) :
    trimEnd (((splitOnChar '|' (trim line))[5]?).getD "") =
      ((splitOnChar '|' (trim line))[5]?).getD "" := by
  -- The last field is a suffix of the trimmed line, so it ends as the line does.
  obtain ⟨front, last, hfields, hsuffix⟩ : ∃ front last,
      (trimList isBlank line.toList).splitOn '|' = front ++ [last] ∧
        last <:+ trimList isBlank line.toList := by
    obtain ⟨front, hlast⟩ := exists_splitOn_append '|' (trimList isBlank line.toList)
    have hfields := hlast [] List.not_mem_nil
    rw [List.append_nil, List.append_nil] at hfields
    exact ⟨front, _, hfields, List.rtakeWhile_suffix _ _⟩
  have hend : trimEnd (String.ofList last) = String.ofList last := by
    rw [trimEnd, String.toList_ofList,
      rdropWhile_eq_self_of_suffix (rdropWhile_trimList _ _) hsuffix]
  rw [splitOnChar, pieces_eq_splitOn, trim, String.toList_ofList, hfields, List.map_append] at hfew ⊢
  rw [List.length_append, List.length_map, List.map_singleton, List.length_singleton] at hfew
  rcases Nat.lt_or_ge front.length 5 with hless | hmore
  · rw [List.getElem?_eq_none (by simp; omega)]
    rfl
  · have hfront : front.length = 5 := by omega
    rw [List.getElem?_append_right (by simp [hfront])]
    simpa [hfront] using hend

/-- What is read from a line without line breaks and with at most six fields is settled. -/
theorem settled_of_ofLine? {line : String} {entry : ProgressEntry}
    (hline : ∀ c ∈ line.toList, c ≠ '\r' ∧ c ≠ '\n') (hfew : (splitOnChar '|' line).length ≤ 6)
    (h : ofLine? line = some entry) : entry.Settled := by
  rw [← length_splitOnChar_trim] at hfew
  rw [ofLine?] at h
  obtain ⟨hcode, hmessage, hosid, hwfId, htime⟩ := of_ofFields? h
  have hplain {index : Nat} {field : String}
      (hfield : (splitOnChar '|' (trim line))[index]? = some field) : Plain field :=
    plain_of_mem_splitOnChar hline (List.mem_of_getElem? hfield)
  have hoption {index : Nat} {field : String}
      (hfield : field? (splitOnChar '|' (trim line)) index = some field) :
      Plain field ∧ field ≠ "" := by
    rw [field?, Option.filter_eq_some_iff] at hfield
    exact ⟨hplain hfield.1, by simpa using hfield.2⟩
  have htimePlain : Plain entry.timestamp := by
    cases hfield : (splitOnChar '|' (trim line))[5]? with
    | none =>
        -- A line of fewer fields has no time, and the empty one is plain.
        rw [htime, hfield]
        simp [Plain]
    | some field =>
        rw [htime, hfield]
        exact hplain hfield
  exact {
    geoCode_plain := hplain hcode
    geoCode_start := trimStart_of_first hcode
    message_plain := hplain hmessage
    osid_plain := fun osid h' => hoption (hosid ▸ h')
    wfId_plain := fun wfId h' => hoption (hwfId ▸ h')
    timestamp_bar := htimePlain.bar_not_mem
    timestamp_end := by rw [htime, trimEnd_of_last hfew] }

/-- The line of an entry whose time has no bar and no white space at its end is read as the entry
with its fields on one line each, its geo code without the white space in front, and its empty ids
absent; and it is one line of six fields if its time has no line break.  In the other direction, what
is read from a line of at most six fields is read again from the line that is written for it. -/
theorem lines_read_back :
    (∀ entry : ProgressEntry, '|' ∉ entry.timestamp.toList →
      (∀ c, entry.timestamp.toList.getLast? = some c → isBlank c = false) →
      ofLine? entry.toLine = some
        { geoCode := trimStart (oneLine entry.geoCode)
          status := entry.status
          message := oneLine entry.message
          osid := (entry.osid.map oneLine).filter (· ≠ "")
          wfId := (entry.wfId.map oneLine).filter (· ≠ "")
          timestamp := entry.timestamp } ∧
      ((∀ c ∈ entry.timestamp.toList, c ≠ '\r' ∧ c ≠ '\n') →
        entry.toLine.toList.count '|' = 5 ∧
          ∀ c ∈ entry.toLine.toList, c ≠ '\r' ∧ c ≠ '\n')) ∧
    ∀ (line : String) (entry : ProgressEntry), (∀ c ∈ line.toList, c ≠ '\r' ∧ c ≠ '\n') →
      (splitOnChar '|' line).length ≤ 6 → ofLine? line = some entry →
      ofLine? entry.toLine = some entry := by
  constructor
  · intro entry hbar hblank
    have hend : trimEnd entry.timestamp = entry.timestamp := by
      have hlist : entry.timestamp.toList.rdropWhile isBlank = entry.timestamp.toList := by
        rw [List.rdropWhile_eq_self_iff]
        intro hne
        exact Bool.eq_false_iff.1 (hblank _ (List.getLast?_eq_some_getLast hne))
      rw [trimEnd, hlist, String.ofList_toList]
    refine ⟨?_, fun hbreak => ⟨count_bar_toLine hbar, ?_⟩⟩
    · have htime := timestamp_readBack hbar hend
      rw [ofLine?_toLine, ← clean_eq_oneLine, ← htime]
      rfl
    · intro c hc
      constructor <;> rintro rfl
      · exact break_not_mem_toLine (.inl rfl) (fun h => (hbreak _ h).1 rfl) hc
      · exact break_not_mem_toLine (.inr rfl) (fun h => (hbreak _ h).2 rfl) hc
  · intro line entry hline hfew hread
    rw [ofLine?_toLine, (settled_of_ofLine? hline hfew hread).readBack_eq_self]

/-- An entry with bars, line breaks and white space in its fields, and a line of three fields. -/
theorem lines_read_back_of_padded_fields :
    let entry : ProgressEntry := ⟨"\n6CV|X ", .failed, " a|b\r\n", some "", some " ", "now"⟩
    let line := " 6CVX |SUCCESS| Created "
    let read : ProgressEntry := ⟨"6CVX ", .success, " Created", none, none, ""⟩
    ('|' ∉ entry.timestamp.toList ∧
      (∀ c, entry.timestamp.toList.getLast? = some c → isBlank c = false) ∧
      (∀ c ∈ entry.timestamp.toList, c ≠ '\r' ∧ c ≠ '\n') ∧
      ofLine? entry.toLine = some ⟨"6CV/X ", .failed, " a/b  ", none, some " ", "now"⟩ ∧
      entry.toLine.toList.count '|' = 5) ∧
    (∀ c ∈ line.toList, c ≠ '\r' ∧ c ≠ '\n') ∧ (splitOnChar '|' line).length ≤ 6 ∧
      ofLine? line = some read ∧ ofLine? read.toLine = some read := by
  have hbreak : ∀ c ∈ "now".toList, c ≠ '\r' ∧ c ≠ '\n' := by simp
  have hline : ∀ c ∈ " 6CVX |SUCCESS| Created ".toList, c ≠ '\r' ∧ c ≠ '\n' := by simp
  have hfew : (splitOnChar '|' " 6CVX |SUCCESS| Created ").length ≤ 6 := by decide
  intro entry line read
  have hbar : '|' ∉ entry.timestamp.toList := by decide
  have hblank : ∀ c, entry.timestamp.toList.getLast? = some c → isBlank c = false := by
    have hlast : entry.timestamp.toList.getLast? = some 'w' := by decide
    intro c hc
    obtain rfl := Option.some.inj (hlast.symm.trans hc)
    decide
  have hread : ofLine? line = some read := by decide
  obtain ⟨hback, hone⟩ := lines_read_back.1 entry hbar hblank
  refine ⟨⟨hbar, hblank, hbreak, ?_, (hone hbreak).1⟩, hline, hfew, hread,
    lines_read_back.2 line read hline hfew hread⟩
  rw [hback]
  decide

end ProgressEntry
end WaterRegistry
