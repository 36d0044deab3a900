import WaterRegistry.Proofs.Text.Margins
import WaterRegistry.Survey.LogFile

/-!
# What a log line is read as

The line of an entry is trimmed as a whole and cut at its bars.  Cleaning has left no bar in a field,
so the fields come back one by one: as they were cleaned, the first one without the white space at its
start.  The time is the only field that is not cleaned; it comes last, so that whatever it contains
stays out of the way of the others.
-/

namespace WaterRegistry
namespace ProgressEntry

/-- Whether a field is written as it is. -/
def Plain (field : String) : Prop :=
  ∀ c ∈ field.toList, c ≠ '|' ∧ c ≠ '\r' ∧ c ≠ '\n'

-- Only the characters of the field are gone through, not all that there are.
instance (field : String) : Decidable (Plain field) :=
  List.decidableBAll (fun c => c ≠ '|' ∧ c ≠ '\r' ∧ c ≠ '\n') field.toList

theorem cleanChar_eq_self_iff (c : Char) :
    cleanChar c = c ↔ c ≠ '|' ∧ c ≠ '\r' ∧ c ≠ '\n' := by
  unfold cleanChar
  split
  · rename_i hbar
    simp [hbar]
  · split
    · rename_i hbreak
      rcases hbreak with rfl | rfl <;> decide
    · rename_i hbar hbreak
      simpa [hbar] using hbreak

theorem clean_eq_self_iff (field : String) : clean field = field ↔ Plain field := by
  rw [clean, ← String.toList_inj, String.toList_ofList, Plain]
  conv_lhs => rhs; rw [← List.map_id field.toList]
  rw [List.map_inj_left]
  exact forall₂_congr fun c _ => cleanChar_eq_self_iff c

/-- Letters, digits and dashes are written as they are. -/
theorem clean_eq_self {field : String}
    (h : ∀ c ∈ field.toList, c.isAlphanum = true ∨ c = '-') : clean field = field := by
  rw [clean_eq_self_iff]
  intro c hc
  refine ⟨?_, ?_, ?_⟩ <;> rintro rfl <;> exact absurd (h _ hc) (by decide)

/-- Cleaning leaves neither bars nor line breaks. -/
theorem cleanChar_ne (c : Char) : cleanChar c ≠ '|' ∧ cleanChar c ≠ '\r' ∧ cleanChar c ≠ '\n' := by
  unfold cleanChar
  split
  · decide
  · split
    · decide
    · rename_i hbar hbreak
      exact ⟨hbar, by simpa using hbreak⟩

theorem plain_clean (field : String) : Plain (clean field) := by
  intro c hc
  rw [clean, String.toList_ofList] at hc
  obtain ⟨original, _, rfl⟩ := List.mem_map.1 hc
  exact cleanChar_ne original

theorem plain_cleanOption (field : Option String) : Plain (cleanOption field) := by
  cases field with
  | none => exact fun c hc => absurd hc List.not_mem_nil
  | some field => exact plain_clean field

theorem plain_text (status : UploadStatus) : Plain status.text := by
  cases status <;> decide

theorem Plain.bar_not_mem {field : String} (h : Plain field) : '|' ∉ field.toList :=
  fun hbar => (h _ hbar).1 rfl

theorem Plain.break_not_mem {field : String} (h : Plain field) {c : Char}
    (hc : c = '\r' ∨ c = '\n') : c ∉ field.toList := fun hmem => by
  rcases hc with rfl | rfl
  · exact (h _ hmem).2.1 rfl
  · exact (h _ hmem).2.2 rfl

theorem Plain.lineFeed_not_mem {field : String} (h : Plain field) : '\n' ∉ field.toList :=
  h.break_not_mem (.inr rfl)

/-- What cleaning replaces is white space afterwards if it was white space before. -/
theorem isBlank_cleanChar (c : Char) : isBlank (cleanChar c) = isBlank c := by
  unfold cleanChar
  split
  · rename_i hbar
    subst hbar
    decide
  · split
    · rename_i hbreak
      rcases hbreak with rfl | rfl <;> decide
    · rfl

/-- So a trimmed field has no white space at its start when it is cleaned. -/
theorem trimStart_clean {field : String} (h : trim field = field) :
    trimStart (clean field) = clean field := by
  have hstart : field.toList.dropWhile isBlank = field.toList := by
    have htrimmed := congrArg String.toList (trimStart_trim field)
    rwa [h, trimStart, String.toList_ofList] at htrimmed
  have hblank : isBlank ∘ cleanChar = isBlank := funext isBlank_cleanChar
  rw [trimStart, clean, String.toList_ofList, List.dropWhile_map, hblank, hstart]

/-- The entry that the line of an entry is read as. -/
def readBack (entry : ProgressEntry) : ProgressEntry where
  geoCode := trimStart (clean entry.geoCode)
  status := entry.status
  message := clean entry.message
  osid := (entry.osid.map clean).filter (· ≠ "")
  wfId := (entry.wfId.map clean).filter (· ≠ "")
  timestamp := String.ofList ((trimEnd entry.timestamp).toList.takeWhile (· ≠ '|'))

theorem geoCode_readBack (entry : ProgressEntry) :
    entry.readBack.geoCode = trimStart (clean entry.geoCode) :=
  rfl

theorem status_readBack (entry : ProgressEntry) : entry.readBack.status = entry.status := by
  rw [readBack]

theorem toList_toLine (entry : ProgressEntry) :
    entry.toLine.toList = (clean entry.geoCode).toList ++ '|' :: (entry.status.text.toList ++
      '|' :: ((clean entry.message).toList ++ '|' :: ((cleanOption entry.osid).toList ++
        '|' :: ((cleanOption entry.wfId).toList ++ '|' :: entry.timestamp.toList)))) := by
  rw [toLine, String.toList_intercalate]
  simp [List.intercalate_cons_cons]

/-- A line break comes into the line of an entry with its time only. -/
theorem break_not_mem_toLine {entry : ProgressEntry} {c : Char} (hc : c = '\r' ∨ c = '\n')
    (h : c ∉ entry.timestamp.toList) : c ∉ entry.toLine.toList := by
  have hbar : c ≠ '|' := by rcases hc with rfl | rfl <;> decide
  rw [toList_toLine]
  simp [h, hbar, (plain_clean _).break_not_mem hc, (plain_text _).break_not_mem hc,
    (plain_cleanOption _).break_not_mem hc]

/-- The line is one line, if the time is. -/
theorem lineFeed_not_mem_toLine {entry : ProgressEntry} (h : '\n' ∉ entry.timestamp.toList) :
    '\n' ∉ entry.toLine.toList :=
  break_not_mem_toLine (.inr rfl) h

/-- The fields of the line of an entry; a bar in the time makes further ones. -/
theorem exists_splitOnChar_toLine (entry : ProgressEntry) :
    ∃ more, splitOnChar '|' (trim entry.toLine) =
      entry.readBack.geoCode :: entry.status.text :: clean entry.message ::
        cleanOption entry.osid :: cleanOption entry.wfId :: entry.readBack.timestamp :: more := by
  have hbar : isBlank '|' = false := by decide
  have hline : (trim entry.toLine).toList =
      ((clean entry.geoCode).toList.dropWhile isBlank) ++ '|' :: (entry.status.text.toList ++
        '|' :: ((clean entry.message).toList ++ '|' :: ((cleanOption entry.osid).toList ++
          '|' :: ((cleanOption entry.wfId).toList ++
            '|' :: entry.timestamp.toList.rdropWhile isBlank)))) := by
    rw [trim, String.toList_ofList, toList_toLine, trimList_append_cons hbar]
    simp only [rdropWhile_append_cons hbar]
  have hgeoCode : '|' ∉ (clean entry.geoCode).toList.dropWhile isBlank := fun hmem =>
    (plain_clean _).bar_not_mem (List.dropWhile_subset _ hmem)
  obtain ⟨more, htime⟩ := exists_splitOn_eq '|' (entry.timestamp.toList.rdropWhile isBlank)
  refine ⟨more.map String.ofList, ?_⟩
  rw [splitOnChar, pieces_eq_splitOn, hline, List.splitOn_append_cons_self_of_not_mem hgeoCode,
    List.splitOn_append_cons_self_of_not_mem (plain_text _).bar_not_mem,
    List.splitOn_append_cons_self_of_not_mem (plain_clean _).bar_not_mem,
    List.splitOn_append_cons_self_of_not_mem (plain_cleanOption _).bar_not_mem,
    List.splitOn_append_cons_self_of_not_mem (plain_cleanOption _).bar_not_mem, htime]
  simp [readBack, trimStart, trimEnd]

/-- An absent field reads as an empty one. -/
theorem getD_field? (fields : List String) (index : Nat) :
    (field? fields index).getD "" = (fields[index]?).getD "" := by
  rw [field?]
  cases fields[index]? with
  | none => rfl
  | some field => by_cases h : field = "" <;> simp [Option.filter, h]

/-- The line of every entry is read as an entry: as the fields were cleaned. -/
theorem ofLine?_toLine (entry : ProgressEntry) : ofLine? entry.toLine = some entry.readBack := by
  obtain ⟨more, hfields⟩ := exists_splitOnChar_toLine entry
  have hoption : ∀ field : Option String,
      (some (cleanOption field)).filter (· ≠ "") = (field.map clean).filter (· ≠ "") := by
    intro field
    cases field <;> rfl
  rw [ofLine?, hfields]
  simp only [ofFields?, UploadStatus.ofText?_text, Option.map_some, getD_field?]
  simp only [field?, List.getElem?_cons_succ, List.getElem?_cons_zero, hoption, Option.getD_some]
  rfl

end ProgressEntry
end WaterRegistry
