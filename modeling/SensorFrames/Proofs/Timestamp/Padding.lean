import SensorFrames.Proofs.Timestamp.Detection
import SensorFrames.Table

/-!
Padded dates. Main statement: blanks around a text make no difference to whether it is a date, for
what marks a date is always one of five characters, none of which is a blank.
-/

set_option autoImplicit false

namespace SensorFrames.Timestamp

open Text

def marks : List Char := ['-', '/', ':', 'T', 'Z']

theorem isBlank_of_mem_marks : ∀ c ∈ marks, isBlank c = false := by
  simp [marks, isBlank, blanks]

/-! ### Marks -/

theorem hasTimeMarker_iff {cs : List Char} :
    hasTimeMarker cs = true ↔
      'T' ∈ cs ∨ 'Z' ∈ cs ∨ ∃ rest, rest <:+ cs ∧ beginsWithHour rest = true := by
  induction cs with
  | nil => simp [hasTimeMarker, beginsWithHour]
  | cons c cs ih =>
    simp only [hasTimeMarker, Bool.or_eq_true, beq_iff_eq, ih, List.mem_cons, List.suffix_cons_iff,
      or_and_right, exists_or, exists_eq_left, eq_comm (b := c)]
    tauto

theorem colon_mem_of_beginsWithHour {cs : List Char} (h : beginsWithHour cs = true) : ':' ∈ cs := by
  unfold beginsWithHour at h
  split at h
  · simp only [Bool.and_eq_true, beq_iff_eq] at h
    simp [h.2]
  · contradiction

theorem isSeparator_iff {c : Char} : isSeparator c = true ↔ c = '-' ∨ c = '/' ∨ c = ':' := by
  simp [isSeparator, or_assoc]

/-- The hour behind a blank decides nothing, for its colon is a separator. -/
theorem isMarked_iff {cs : List Char} :
    (cs.any isSeparator || hasTimeMarker cs) = true ↔ ∃ c ∈ cs, c ∈ marks := by
  rw [Bool.or_eq_true, List.any_eq_true, hasTimeMarker_iff]
  constructor
  · rintro (⟨c, hc, hseparator⟩ | hT | hZ | ⟨rest, hrest, hhour⟩)
    · refine ⟨c, hc, ?_⟩
      rcases isSeparator_iff.mp hseparator with rfl | rfl | rfl <;> decide
    · exact ⟨'T', hT, by decide⟩
    · exact ⟨'Z', hZ, by decide⟩
    · exact ⟨':', hrest.subset (colon_mem_of_beginsWithHour hhour), by decide⟩
  · rintro ⟨c, hc, hmark⟩
    simp only [marks, List.mem_cons, List.not_mem_nil, or_false] at hmark
    rcases hmark with hdash | hslash | hcolon | rfl | rfl
    · exact .inl ⟨c, hc, isSeparator_iff.mpr (.inl hdash)⟩
    · exact .inl ⟨c, hc, isSeparator_iff.mpr (.inr (.inl hslash))⟩
    · exact .inl ⟨c, hc, isSeparator_iff.mpr (.inr (.inr hcolon))⟩
    · exact .inr (.inl hc)
    · exact .inr (.inr (.inl hc))

theorem exists_mark_pad {front back : List Char} (hfront : ∀ c ∈ front, isBlank c = true)
    (hback : ∀ c ∈ back, isBlank c = true) (cs : List Char) :
    (∃ c ∈ front ++ cs ++ back, c ∈ marks) ↔ ∃ c ∈ cs, c ∈ marks := by
  have hnot : ∀ {pad : List Char}, (∀ c ∈ pad, isBlank c = true) → ∀ c ∈ pad, c ∉ marks := by
    intro pad hpad c hc hmark
    exact Bool.false_ne_true ((isBlank_of_mem_marks c hmark).symm.trans (hpad c hc))
  constructor
  · rintro ⟨c, hc, hmark⟩
    rw [List.mem_append, List.mem_append] at hc
    rcases hc with (hc | hc) | hc
    · exact absurd hmark (hnot hfront c hc)
    · exact ⟨c, hc, hmark⟩
    · exact absurd hmark (hnot hback c hc)
  · rintro ⟨c, hc, hmark⟩
    exact ⟨c, List.mem_append_left _ (List.mem_append_right _ hc), hmark⟩

/-! ### Padding -/

theorem looksLike_iff {accepts : List Char → Bool} {s : String} :
    looksLike accepts s = true ↔
      (∃ c ∈ s.toList, c ∈ marks) ∧ accepts (trim s).toList = true := by
  rw [looksLike, Bool.and_eq_true, isMarked_iff, toList_trim]

theorem looksLike_pad {front back : String} (hfront : ∀ c ∈ front.toList, isBlank c = true)
    (hback : ∀ c ∈ back.toList, isBlank c = true) (accepts : List Char → Bool) (s : String) :
    looksLike accepts (front ++ s ++ back) = looksLike accepts s := by
  rw [Bool.eq_iff_iff, looksLike_iff, looksLike_iff, trim_pad hfront hback, String.toList_append,
    String.toList_append, exists_mark_pad hfront hback]

theorem type_field_congr {r r' : Record} {column text text' : String}
    (hr : Table.lookup r column = .str text) (hr' : Table.lookup r' column = .str text')
    (h : looksLikeDate text = looksLikeDate text') :
    (Table.field (some r) column).type = (Table.field (some r') column).type := by
  unfold Table.field
  split
  · rfl
  · simp [hr, hr', Table.typeOf, h]

/-- Whatever is accepted, a padded text looks like it just when the text does, and the text does
when one of the marks stands in it and it is accepted without the blanks around it. So it is with
dates, and the type of a column does not depend on the padding either. -/
theorem looksLikeDate_pad {front back : String} (hfront : ∀ c ∈ front.toList, isBlank c = true)
    (hback : ∀ c ∈ back.toList, isBlank c = true) (s : String) :
    (∀ accepts : List Char → Bool,
      looksLike accepts (front ++ s ++ back) = looksLike accepts s ∧
      (looksLike accepts s = true ↔
        (∃ c ∈ s.toList, c ∈ marks) ∧ accepts (trim s).toList = true)) ∧
    looksLikeDate (front ++ s ++ back) = looksLikeDate s ∧
    (looksLikeDate s = true ↔ (∃ c ∈ s.toList, c ∈ marks) ∧
      (Internet.accepts (trim s).toList = true ∨ Mail.accepts (trim s).toList = true ∨
        ∃ pattern ∈ Pattern.formats, Pattern.accepts pattern (trim s).toList = true)) ∧
    ∀ (r r' : Record) (column : String), Table.lookup r column = .str (front ++ s ++ back) →
      Table.lookup r' column = .str s →
      (Table.field (some r) column).type = (Table.field (some r') column).type := by
  have hpad := looksLike_pad hfront hback
  refine ⟨fun accepts => ⟨hpad accepts s, looksLike_iff⟩, hpad isAccepted s, ?_,
    fun r r' column hr hr' => type_field_congr hr hr' (hpad isAccepted s)⟩
  rw [looksLikeDate, looksLike_iff, isAccepted_iff]

theorem padded_texts_alike :
    (∀ c ∈ "\u2003".toList, isBlank c = true) ∧ (∀ c ∈ "\u3000\n".toList, isBlank c = true) ∧
    hasTimeMarker "12:30".toList = false ∧ hasTimeMarker "\u200312:30\u3000\n".toList = true ∧
    looksLikeDate ("\u2003" ++ "12:30" ++ "\u3000\n") = false ∧
    looksLikeDate ("\u2003" ++ "2024-02-29" ++ "\u3000\n") = true ∧
    (Table.field (some [("day", .str ("\u2003" ++ "2024-02-29" ++ "\u3000\n"))]) "day").type =
      .time := by
  have hfront : ∀ c ∈ "\u2003".toList, isBlank c = true := List.all_eq_true.mp (by decide)
  have hback : ∀ c ∈ "\u3000\n".toList, isBlank c = true := List.all_eq_true.mp (by decide)
  have hno : looksLikeDate "12:30" = false := by decide +kernel
  have hyes : looksLikeDate "2024-02-29" = true := by decide +kernel
  have hday : (Table.field (some [("day", .str "2024-02-29")]) "day").type = .time := by
    decide +kernel
  obtain ⟨-, htime, -, -⟩ := looksLikeDate_pad hfront hback "12:30"
  obtain ⟨-, hdate, -, htype⟩ := looksLikeDate_pad hfront hback "2024-02-29"
  exact ⟨hfront, hback, by decide, by decide, htime.trans hno, hdate.trans hyes,
    (htype _ [("day", .str "2024-02-29")] "day" rfl rfl).trans hday⟩

end SensorFrames.Timestamp
