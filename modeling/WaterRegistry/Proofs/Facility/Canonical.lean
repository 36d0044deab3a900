import WaterRegistry.Facility.Digest
import WaterRegistry.Json.Token
import WaterRegistry.Proofs.Text.ByteOrder
import WaterRegistry.Proofs.Text.NormalForm

/-!
# Facilities that are digested alike

The values of a facility are joined by bars before they are digested, and a bar inside of a value is
kept.  So the joined text alone does not tell where a value ends: a bar may be moved from one value
to the next.  Together with the numbers of bars in the values it does, and values without a bar share
their text with no others.  The suffix of an identifier has the kept bytes of the digest in full, so
two different texts that end in one suffix are a collision of the digest.
-/

namespace WaterRegistry

/-- How many bars a text contains. -/
def bars (text : String) : Nat :=
  text.toList.count '|'

/-- Normal forms keep the bars. -/
theorem bars_normalize (value : String) : bars (normalize value) = bars value :=
  count_normalize (by decide) rfl rfl value

theorem map_bars_normalize (values : List String) :
    (values.map normalize).map bars = values.map bars := by
  rw [List.map_map]
  apply List.map_congr_left
  intro value _
  rw [Function.comp_apply, bars_normalize]

/-- A piece can be taken off at a separator if it is known how many separators it has itself. -/
theorem append_cons_inj_of_count_eq {sep : Char} {xs ys more others : List Char}
    (hcount : xs.count sep = ys.count sep) (h : xs ++ sep :: more = ys ++ sep :: others) :
    xs = ys ∧ more = others := by
  induction xs generalizing ys with
  | nil =>
      cases ys with
      | nil => exact ⟨rfl, (List.cons.inj h).2⟩
      | cons y ys =>
          rw [← (List.cons.inj h).1] at hcount
          simp at hcount
  | cons x xs ih =>
      cases ys with
      | nil =>
          rw [(List.cons.inj h).1] at hcount
          simp at hcount
      | cons y ys =>
          obtain ⟨rfl, hrest⟩ := List.cons.inj h
          rw [List.count_cons, List.count_cons, Nat.add_right_cancel_iff] at hcount
          obtain ⟨rfl, hmore⟩ := ih hcount hrest
          exact ⟨rfl, hmore⟩

/-- So a joined text and the numbers of separators in its pieces determine the pieces. -/
theorem eq_of_intercalate_eq {sep : Char} {xs ys : List (List Char)}
    (hcounts : xs.map (List.count sep) = ys.map (List.count sep))
    (h : [sep].intercalate xs = [sep].intercalate ys) : xs = ys := by
  induction xs generalizing ys with
  | nil => rw [List.map_eq_nil_iff.1 hcounts.symm]
  | cons x rest ih =>
      obtain ⟨y, more, rfl, hcount, hmore⟩ := List.map_eq_cons_iff.1 hcounts.symm
      cases rest with
      | nil =>
          obtain rfl := List.map_eq_nil_iff.1 hmore
          rw [List.intercalate_singleton, List.intercalate_singleton] at h
          rw [h]
      | cons x' rest' =>
          obtain ⟨y', more', rfl, _, _⟩ := List.map_eq_cons_iff.1 hmore
          rw [List.intercalate_cons_cons, List.intercalate_cons_cons, List.append_assoc,
            List.append_assoc] at h
          obtain ⟨rfl, hrest⟩ := append_cons_inj_of_count_eq hcount.symm h
          rw [ih hmore.symm hrest]

/-- A joined text has the separators of its pieces and those between them. -/
theorem count_intercalate {sep : Char} {xs : List (List Char)} (hne : xs ≠ []) :
    ([sep].intercalate xs).count sep + 1 = (xs.map (List.count sep)).sum + xs.length := by
  induction xs with
  | nil => exact absurd rfl hne
  | cons x rest ih =>
      cases rest with
      | nil => simp
      | cons y more =>
          have hrest := ih (by simp)
          rw [List.intercalate_cons_cons, List.count_append, List.count_append]
          simp only [List.map_cons, List.sum_cons, List.length_cons, List.count_singleton_self] at *
          omega

theorem toList_canonicalText (values : List String) :
    (canonicalText values).toList =
      ['|'].intercalate ((values.map normalize).map String.toList) :=
  String.toList_intercalate

theorem count_pieces (values : List String) :
    ((values.map normalize).map String.toList).map (List.count '|') = values.map bars := by
  rw [List.map_map]
  exact map_bars_normalize values

/-- The normal forms of the values are the pieces between the bars, once it is known how many bars
each value has. -/
theorem map_normalize_eq_iff {values others : List String} :
    values.map normalize = others.map normalize ↔
      canonicalText values = canonicalText others ∧ values.map bars = others.map bars := by
  constructor
  · intro h
    constructor
    · rw [canonicalText, h, canonicalText]
    · rw [← map_bars_normalize, h, map_bars_normalize]
  · rintro ⟨htext, hbars⟩
    have hpieces : (values.map normalize).map String.toList =
        (others.map normalize).map String.toList := by
      apply eq_of_intercalate_eq
      · rw [count_pieces, count_pieces, hbars]
      · rw [← toList_canonicalText, ← toList_canonicalText, htext]
    exact List.map_injective_iff.2 (fun _ _ => String.toList_inj.1) hpieces

/-- Equal texts have equally many bars in their values altogether. -/
theorem sum_bars_eq {values others : List String} (hlength : values.length = others.length)
    (h : canonicalText values = canonicalText others) :
    (values.map bars).sum = (others.map bars).sum := by
  have hcount {texts : List String} (hne : texts ≠ []) :
      (canonicalText texts).toList.count '|' + 1 = (texts.map bars).sum + texts.length := by
    rw [toList_canonicalText, count_intercalate (by simpa using hne), count_pieces, List.length_map,
      List.length_map]
  by_cases hne : values = []
  · have hother : others = [] := List.length_eq_zero_iff.1 (by rw [← hlength, hne]; rfl)
    rw [hne, hother]
  · have hother : others ≠ [] := by
      rintro rfl
      exact hne (List.length_eq_zero_iff.1 hlength)
    have hvalues := hcount hne
    have hothers := hcount hother
    rw [h] at hvalues
    omega

/-- If no value has a bar, only the same values give the same text. -/
theorem map_normalize_eq_of_not_mem {values others : List String}
    (hlength : values.length = others.length) (h : canonicalText values = canonicalText others)
    (hbars : ∀ value ∈ values, '|' ∉ value.toList) :
    values.map normalize = others.map normalize := by
  have hzero (texts : List String) (hsum : (texts.map bars).sum = 0) :
      texts.map bars = List.replicate texts.length 0 :=
    List.eq_replicate_iff.2 ⟨List.length_map _, List.sum_eq_zero_iff.1 hsum⟩
  have hsum : (values.map bars).sum = 0 := by
    rw [List.sum_eq_zero_iff, List.forall_mem_map]
    exact fun value hmem => List.count_eq_zero.2 (hbars value hmem)
  refine map_normalize_eq_iff.2 ⟨h, ?_⟩
  rw [hzero values hsum, hzero others (by rw [← sum_bars_eq hlength h, hsum]), hlength]

/-- The bytes that pairs of hexadecimal digits write. -/
def bytesOfHex? : List Char → Option (List UInt8)
  | [] => some []
  | [_] => none
  | high :: low :: rest =>
    match Token.hexValue? high, Token.hexValue? low, bytesOfHex? rest with
    | some high, some low, some bytes => some (UInt8.ofNat (16 * high + low) :: bytes)
    | _, _, _ => none

/-- Written bytes can be read again. -/
theorem bytesOfHex?_flatMap_hexByte (bytes : List UInt8) :
    bytesOfHex? (bytes.flatMap hexByte) = some bytes := by
  have hdigit : ∀ n < 16, Token.hexValue? (capitalHexDigit n) = some n := by decide
  induction bytes with
  | nil => rfl
  | cons byte rest ih =>
      have hbyte := byte.toNat_lt
      have hhigh := hdigit (byte.toNat / 16) (by omega)
      have hlow := hdigit (byte.toNat % 16) (by omega)
      have hwhole : UInt8.ofNat (16 * (byte.toNat / 16) + byte.toNat % 16) = byte := by
        rw [Nat.div_add_mod, UInt8.ofNat_toNat]
      rw [List.flatMap_cons, hexByte, List.cons_append, List.cons_append, List.nil_append,
        bytesOfHex?, hhigh, hlow, ih]
      exact congrArg (fun first => some (first :: rest)) hwhole

/-- The suffix shows the kept bytes in full. -/
theorem hashSuffix_eq_iff {values others : List String} :
    hashSuffix values = hashSuffix others ↔ digestBytes values = digestBytes others := by
  rw [hashSuffix, hashSuffix, String.ofList_inj]
  constructor
  · intro h
    have hbytes := congrArg bytesOfHex? h
    rw [bytesOfHex?_flatMap_hexByte, bytesOfHex?_flatMap_hexByte] at hbytes
    exact Option.some.inj hbytes
  · intro h
    rw [h]

theorem utf8Bytes_inj {text other : String} : utf8Bytes text = utf8Bytes other ↔ text = other := by
  rw [utf8Bytes, utf8Bytes, Array.toList_inj, ← ByteArray.ext_iff, String.toByteArray_inj]

/-- The joined text and the numbers of bars in the values determine the normal forms of the values.
Values that are not the same are joined to one text only if there are bars on both sides.  So two
facilities whose normal forms differ have one suffix only if bars are moved between their values, or
if the digests of two different texts begin with the same bytes. -/
theorem canonicalText_determines_values {values others : List String}
    (hlength : values.length = others.length) :
    (values.map normalize = others.map normalize ↔
      canonicalText values = canonicalText others ∧ values.map bars = others.map bars) ∧
    (canonicalText values = canonicalText others →
      values.map normalize ≠ others.map normalize →
      (∃ value ∈ values, '|' ∈ value.toList) ∧ ∃ other ∈ others, '|' ∈ other.toList) ∧
    (hashSuffix values = hashSuffix others →
      values.map normalize ≠ others.map normalize →
      canonicalText values = canonicalText others ∧ values.map bars ≠ others.map bars ∨
        utf8Bytes (canonicalText values) ≠ utf8Bytes (canonicalText others) ∧
          (Sha256.digest (utf8Bytes (canonicalText values))).take 3 =
            (Sha256.digest (utf8Bytes (canonicalText others))).take 3) := by
  refine ⟨map_normalize_eq_iff, ?_, ?_⟩
  · intro htext hdiffer
    constructor
    · by_contra hnone
      push Not at hnone
      exact hdiffer (map_normalize_eq_of_not_mem hlength htext hnone)
    · by_contra hnone
      push Not at hnone
      exact hdiffer (map_normalize_eq_of_not_mem hlength.symm htext.symm hnone).symm
  · intro hsuffix hdiffer
    by_cases htext : canonicalText values = canonicalText others
    · exact .inl ⟨htext, fun hbars => hdiffer (map_normalize_eq_iff.2 ⟨htext, hbars⟩)⟩
    · exact .inr ⟨fun hbytes => htext (utf8Bytes_inj.1 hbytes), hashSuffix_eq_iff.1 hsuffix⟩

/-- Codes with a bar in one place are told from each other by the rest of their values. -/
theorem canonicalText_determines_values_of_barred_codes :
    let values := ["6CV|A", "Well", "Nimba", "Bong", "Town"]
    let others := [" 6cv|a\t", "WELL", "nimba ", "BONG", "Town"]
    values.length = others.length ∧ values.map normalize = others.map normalize := by
  intro values others
  have hlength : values.length = others.length := rfl
  have htext : canonicalText values = canonicalText others := by decide +kernel
  have hbars : values.map bars = others.map bars := by decide +kernel
  exact ⟨hlength, (canonicalText_determines_values hlength).1.2 ⟨htext, hbars⟩⟩

/-- A bar that is moved from the code to the type leaves the digest as it is. -/
theorem canonicalText_of_moved_bar :
    let values := ["6CV|A", "Well", "Nimba", "Bong", "Town"]
    let others := ["6CV", "A|Well", "Nimba", "Bong", "Town"]
    canonicalText values = canonicalText others ∧
      values.map normalize ≠ others.map normalize ∧ hashSuffix values = hashSuffix others := by
  intro values others
  have htext : canonicalText values = canonicalText others := by decide +kernel
  refine ⟨htext, by decide +kernel, ?_⟩
  rw [hashSuffix, digestBytes, htext]
  rfl

end WaterRegistry
