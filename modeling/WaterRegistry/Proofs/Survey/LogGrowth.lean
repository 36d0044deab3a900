import WaterRegistry.Proofs.Survey.LogLine

/-!
# How a log grows

The entries of a log are those of the pieces between its line feeds.  A line that is added lands behind
what stands after the last line feed.  Where this is nothing, or white space, the line is read on its
own, and the log has one entry more; where a line has been left unfinished, the two are read as one.
So a log grows by the entries that are written exactly if it has no unfinished line, and then it has
none afterwards either.
-/

namespace WaterRegistry
namespace LogFile

open ProgressEntry

/-- A line is read the same with and without a carriage return at its end. -/
theorem ofLine?_endedLine (line : List Char) :
    ofLine? (String.ofList (endedLine line)) = ofLine? (String.ofList line) := by
  unfold endedLine
  split
  · rename_i hlast
    obtain ⟨start, rfl⟩ := List.getLast?_eq_some_iff.1 hlast
    have hreturn : ∀ c ∈ ['\r'], isBlank c = true := List.forall_mem_singleton.2 (by decide)
    rw [List.dropLast_concat, ofLine?, ofLine?, trim, trim, String.toList_ofList,
      String.toList_ofList, trimList_append_of_forall_right hreturn]
  · rfl

/-- The entries of a text are those of the pieces between its line feeds. -/
theorem entriesOfText_eq (content : String) :
    entriesOfText content =
      (content.toList.splitOn '\n').filterMap fun line => ofLine? (String.ofList line) := by
  rw [entriesOfText, lines, ← pieces_eq_splitOn]
  fun_induction linesOfPieces (pieces '\n' content.toList) with
  | case1 => rfl
  | case2 last hempty =>
      rw [List.isEmpty_iff.1 hempty]
      decide
  | case3 last hempty => simp only [List.filterMap_cons, List.filterMap_nil]
  | case4 line rest hrest ih =>
      rw [List.filterMap_cons, List.filterMap_cons, ih, ofLine?_endedLine]

/-- What stands behind the last line feed of a text. -/
def openLine (content : String) : List Char :=
  content.toList.rtakeWhile (· ≠ '\n')

/-- A text that is empty or ends in a line feed has nothing behind its last line feed. -/
theorem openLine_eq_nil {content : String}
    (h : content = "" ∨ content.toList.getLast? = some '\n') : openLine content = [] := by
  rw [openLine, List.rtakeWhile_eq_nil_iff]
  intro hne
  rcases h with rfl | hlast
  · exact absurd rfl hne
  · rw [List.getLast?_eq_some_getLast hne, Option.some.injEq] at hlast
    simp [hlast]

/-- A line that is added is read together with the open line. -/
theorem exists_entriesOfText_append (content : String) :
    ∃ finished : List ProgressEntry,
      entriesOfText content =
        finished ++ (ofLine? (String.ofList (openLine content))).toList ∧
      ∀ line : String, '\n' ∉ line.toList →
        entriesOfText (content ++ (line ++ "\n")) =
          finished ++ (ofLine? (String.ofList (openLine content ++ line.toList))).toList := by
  obtain ⟨finished, hsplit⟩ : ∃ finished, ∀ line : List Char, '\n' ∉ line →
      (content.toList ++ line).splitOn '\n' = finished ++ [openLine content ++ line] :=
    exists_splitOn_append '\n' content.toList
  refine ⟨finished.filterMap fun line => ofLine? (String.ofList line), ?_, fun line hline => ?_⟩
  · have hself := hsplit [] List.not_mem_nil
    rw [List.append_nil, List.append_nil] at hself
    rw [entriesOfText_eq, hself, List.filterMap_append, List.filterMap_cons]
    cases ofLine? (String.ofList (openLine content)) <;> rfl
  · have hcut : (content ++ (line ++ "\n")).toList.splitOn '\n' =
        (content.toList ++ line.toList).splitOn '\n' ++ [[]] := by
      have hlist : (content ++ (line ++ "\n")).toList =
          (content.toList ++ line.toList) ++ '\n' :: [] := by simp
      rw [hlist, List.splitOn_append_cons_self, List.splitOn_nil]
    have hempty : ofLine? (String.ofList []) = none := by decide
    rw [entriesOfText_eq, hcut, hsplit _ hline, List.filterMap_append, List.filterMap_append,
      List.filterMap_cons, List.filterMap_cons, hempty]
    cases ofLine? (String.ofList (openLine content ++ line.toList)) <;> simp

/-- Whether a log takes lines and has no unfinished line: it is not there yet, or it is a text with
nothing but white space behind its last line feed. -/
def Whole : LogFile → Prop
  | .missing => True
  | .text content => ∀ c ∈ openLine content, isBlank c = true
  | .uncreatable _ | .unusable _ | .garbled _ => False

theorem whole_text {content : String}
    (h : content = "" ∨ content.toList.getLast? = some '\n') : (LogFile.text content).Whole := by
  intro c hc
  rw [openLine_eq_nil h] at hc
  cases hc

/-- A log without an unfinished line, and its entries. -/
structure Holds (log : LogFile) (entries : List ProgressEntry) : Prop where
  whole : log.Whole
  entries_eq : log.entries = .ok entries

theorem Whole.holds {log : LogFile} (h : log.Whole) : ∃ entries, log.Holds entries := by
  cases log with
  | missing => exact ⟨[], h, rfl⟩
  | text content => exact ⟨entriesOfText content, h, rfl⟩
  | uncreatable => cases h
  | unusable => cases h
  | garbled => cases h

theorem ofLine?_of_blank {line : List Char} (h : ∀ c ∈ line, isBlank c = true) :
    ofLine? (String.ofList line) = none := by
  have htrim : trim (String.ofList line) = "" := by
    have hnil := trimList_append_of_forall h []
    rw [List.append_nil] at hnil
    rw [trim, String.toList_ofList, hnil]
    rfl
  rw [ofLine?, htrim]
  decide

/-- A log without an unfinished line grows by the entry that is added, as its line is read. -/
theorem Holds.append {log : LogFile} {entries : List ProgressEntry} (h : log.Holds entries)
    {entry : ProgressEntry} (htime : '\n' ∉ entry.timestamp.toList) :
    ∃ next, log.append entry = .ok next ∧ next.Holds (entries ++ [entry.readBack]) := by
  have hline := lineFeed_not_mem_toLine htime
  have hwhole : ∀ content : String, (LogFile.text (content ++ (entry.toLine ++ "\n"))).Whole :=
    fun content => whole_text (.inr (by simp [String.toList_append]))
  have hgrow : ∀ content : String, (∀ c ∈ openLine content, isBlank c = true) →
      entriesOfText (content ++ (entry.toLine ++ "\n")) =
        entriesOfText content ++ [entry.readBack] := by
    intro content hblank
    obtain ⟨finished, hbefore, hafter⟩ := exists_entriesOfText_append content
    have hread : ofLine? (String.ofList (openLine content ++ entry.toLine.toList)) =
        some entry.readBack := by
      rw [← ofLine?_toLine, ofLine?, ofLine?, trim, trim, String.toList_ofList,
        trimList_append_of_forall hblank]
    rw [hafter _ hline, hbefore, hread, ofLine?_of_blank hblank]
    simp
  cases log with
  | missing =>
      have hnone : entries = entriesOfText "" := by
        have hempty : entriesOfText "" = [] := by decide
        rw [hempty]
        exact (Except.ok.inj h.entries_eq).symm
      have hfirst : ("" : String) ++ (entry.toLine ++ "\n") = entry.toLine ++ "\n" :=
        String.empty_append
      refine ⟨_, rfl, ?_, ?_⟩
      · rw [← hfirst]
        exact hwhole ""
      · rw [hnone, ← hgrow "" (by simp [openLine]), hfirst]
        rfl
  | text content =>
      obtain rfl : entriesOfText content = entries := Except.ok.inj h.entries_eq
      exact ⟨_, rfl, hwhole content, congrArg Except.ok (hgrow content h.whole)⟩
  | uncreatable => cases h.whole
  | unusable => cases h.whole
  | garbled => cases h.whole

/-- The geo code in a line is what stands before its first bar, without the white space at its start. -/
theorem geoCode_of_ofLine? {code rest : List Char} {entry : ProgressEntry} (hcode : '|' ∉ code)
    (h : ofLine? (String.ofList (code ++ '|' :: rest)) = some entry) :
    entry.geoCode = String.ofList (code.dropWhile isBlank) := by
  have hbar : isBlank '|' = false := by decide
  have hstart : '|' ∉ code.dropWhile isBlank := fun hmem => hcode (List.dropWhile_subset _ hmem)
  rw [ofLine?, splitOnChar, pieces_eq_splitOn, trim, String.toList_ofList, String.toList_ofList,
    trimList_append_cons hbar, List.splitOn_append_cons_self_of_not_mem hstart, List.map_cons] at h
  unfold ofFields? at h
  split at h
  · rename_i geoCode status message more hfields
    obtain ⟨_, _, rfl⟩ := Option.map_eq_some_iff.1 h
    exact (List.cons.inj hfields).1.symm
  · cases h

/-- An entry with a geo code of a given length. -/
def lengthy (n : Nat) : ProgressEntry :=
  ⟨String.ofList (List.replicate (n + 1) 'a'), .success, "Created", none, none, ""⟩

theorem toList_geoCode_readBack_lengthy (n : Nat) :
    (lengthy n).readBack.geoCode.toList = List.replicate (n + 1) 'a' := by
  have hclean : cleanChar 'a' = 'a' := by decide
  have hblank : isBlank 'a' = false := by decide
  simp [readBack, lengthy, clean, trimStart, hclean, List.replicate_succ, hblank]

/-- Behind an open line that is not blank, a line is not read on its own if its geo code is longer than
the open line: the geo code that is read is shorter or longer. -/
theorem ofLine?_append_lengthy_ne {line : List Char} {c : Char} (hc : c ∈ line)
    (hblank : isBlank c = false) :
    ofLine? (String.ofList (line ++ (lengthy line.length).toLine.toList)) ≠
      some (lengthy line.length).readBack := by
  intro hread
  have hlength := congrArg List.length (toList_geoCode_readBack_lengthy line.length)
  rw [List.length_replicate] at hlength
  by_cases hbar : '|' ∈ line
  · -- The geo code ends at the first bar of the open line.
    obtain ⟨code, rest, rfl, hcode⟩ := List.eq_append_cons_of_mem hbar
    rw [List.append_assoc, List.cons_append] at hread
    have hle := (List.dropWhile_sublist isBlank (l := code)).length_le
    rw [geoCode_of_ofLine? hcode hread, String.toList_ofList] at hlength
    simp only [List.length_append, List.length_cons] at hlength
    omega
  · -- The geo code begins with the open line, which does not vanish.
    have hplain := (plain_clean (lengthy line.length).geoCode).bar_not_mem
    have hcode : '|' ∉ line ++ (clean (lengthy line.length).geoCode).toList := by
      simp [hbar, hplain]
    rw [toList_toLine, ← List.append_assoc] at hread
    rw [geoCode_of_ofLine? hcode hread, String.toList_ofList, List.dropWhile_append] at hlength
    have hkept : line.dropWhile isBlank ≠ [] := fun hnil => by
      rw [List.dropWhile_eq_nil_iff] at hnil
      rw [hnil c hc] at hblank
      cases hblank
    rw [if_neg (by simpa using hkept)] at hlength
    exact hkept (by simpa [clean, lengthy] using hlength)

/-- So where the open line is not blank, such an entry is not added to the ones of the text. -/
theorem entriesOfText_append_lengthy_ne {content : String} {c : Char} (hc : c ∈ openLine content)
    (hblank : isBlank c = false) :
    entriesOfText (content ++ ((lengthy (openLine content).length).toLine ++ "\n")) ≠
      entriesOfText content ++ [(lengthy (openLine content).length).readBack] := by
  intro hentries
  obtain ⟨finished, hbefore, hafter⟩ := exists_entriesOfText_append content
  rw [hafter _ (lineFeed_not_mem_toLine List.not_mem_nil), hbefore, List.append_assoc,
    List.append_cancel_left_eq] at hentries
  -- One line holds one entry, so the open line holds none and the other is read on its own.
  apply ofLine?_append_lengthy_ne hc hblank
  revert hentries
  cases ofLine? (String.ofList (openLine content)) <;>
    cases ofLine? (String.ofList
      (openLine content ++ (lengthy (openLine content).length).toLine.toList)) <;> simp

/-- A log grows by exactly one entry with every entry that is added, and by the one that its line is
read as, if and only if it has no unfinished line. -/
theorem append_adds_one_entry_iff (log : LogFile) :
    (∀ entry : ProgressEntry, Plain entry.timestamp →
      ∃ previous own last, log.entries = .ok previous ∧ ofLine? entry.toLine = some own ∧
        log.append entry = .ok last ∧ last.entries = .ok (previous ++ [own])) ↔ log.Whole := by
  constructor
  · intro h
    obtain ⟨_, _, _, hentries, _, happend, _⟩ := h (lengthy 0) nofun
    cases log with
    | missing => exact trivial
    | uncreatable => cases happend
    | unusable => cases happend
    | garbled => cases hentries
    | text content =>
        intro c hc
        by_contra hblank
        obtain ⟨_, _, _, hentries, hown, happend, hlast⟩ :=
          h (lengthy (openLine content).length) nofun
        obtain rfl := Except.ok.inj hentries
        obtain rfl := Except.ok.inj happend
        rw [ofLine?_toLine, Option.some.injEq] at hown
        subst hown
        exact entriesOfText_append_lengthy_ne hc (by simpa using hblank) (Except.ok.inj hlast)
  · intro hwhole entry htime
    obtain ⟨previous, hprevious⟩ := hwhole.holds
    obtain ⟨last, happend, hlast⟩ := hprevious.append htime.lineFeed_not_mem
    exact ⟨previous, _, last, hprevious.entries_eq, ofLine?_toLine entry, happend,
      hlast.entries_eq⟩

/-- A line that has been left unfinished and the line of a further entry are read as one entry. -/
theorem append_joins_unfinished_line :
    let log := LogFile.text "a|SUCCESS|Created"
    let entry : ProgressEntry := ⟨"b", .success, "Created", none, none, "now"⟩
    Plain entry.timestamp ∧
      ∃ previous own last, log.entries = .ok previous ∧ ofLine? entry.toLine = some own ∧
        log.append entry = .ok last ∧ previous.length = 1 ∧
        last.entries = .ok [⟨"a", .success, "Createdb", some "SUCCESS", some "Created", ""⟩] ∧
        last.entries ≠ .ok (previous ++ [own]) := by
  refine ⟨by decide, _, _, _, rfl, ofLine?_toLine _, rfl, ?_, congrArg Except.ok ?_, ?_⟩
  · decide
  · decide
  · intro hentries
    exact absurd (congrArg List.length (Except.ok.inj hentries)) (by decide)

end LogFile
end WaterRegistry
