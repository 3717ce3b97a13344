import SensorFrames.Proofs.Heatmap.Rows
import SensorFrames.Proofs.Json.Members
import SensorFrames.Proofs.Table.Cells
import SensorFrames.Proofs.Table.Columns
import SensorFrames.Proofs.Table.Names

/-!
The column of the status in a table. Only one other column is shown under its name, `Status`. The
field has the settings of the status and decodes by them unless that column stands behind it.
-/

set_option autoImplicit false

namespace SensorFrames

/-- The value is an integer whose decimal text the mapping has an entry for. -/
def FieldConfig.Decodes (c : FieldConfig) (v : Json) : Prop :=
  ∃ n : Int, v = .num (.integer n) ∧ (Number.integer n).text ∈ c.mapping.map (·.1)

/-- The fields with the settings of the status hold nothing that these do not decode. -/
def Frame.StatusDecodes (f : Frame) : Prop :=
  ∀ d ∈ f.fields, d.config = some Status.fieldConfig →
    ∀ v ∈ d.values, Status.fieldConfig.Decodes v

namespace Status

theorem keys_fieldConfig :
    fieldConfig.mapping.map (·.1) = Heatmap.priorities.map mappingKey := by decide

theorem decodes_ofNat {p : Nat} (h : p ∈ Heatmap.priorities) :
    fieldConfig.Decodes (.ofNat p) := by
  refine ⟨p, rfl, ?_⟩
  rw [keys_fieldConfig]
  exact List.mem_map_of_mem h

end Status

namespace Table

/-! ### Names that are shown as the status -/

theorem toUpper_eq_S {c : Char} (h : c.toUpper = 'S') : c = 's' ∨ c = 'S' := by
  rcases Nat.lt_or_ge c.toNat 0x80 with hascii | hother
  · exact Text.forall_ascii (p := fun c => c.toUpper = 'S' → c = 's' ∨ c = 'S') (by decide) hascii h
  · exact Or.inr (Text.toUpper_of_not_ascii hother ▸ h)

theorem displayed_word {cs : List Char} (h : ∀ c ∈ displayed true cs, isWordChar c) :
    displayed true cs = cs := by
  induction cs with
  | nil => rfl
  | cons c cs ih =>
    rw [displayed_cons, List.forall_mem_cons, isWordChar_shown] at h
    obtain ⟨hc, hcs⟩ := h
    rw [hc] at hcs
    rw [displayed_cons, hc, ih hcs, shown_true, spaced_eq_self hc]

@[simp] theorem displayName_status : displayName statusColumn = "Status" := by decide

theorem eq_of_displayName_eq_status {column : String} (h : displayName column = "Status") :
    column = statusColumn ∨ column = "Status" := by
  have hchars : displayed false column.toList = 'S' :: "tatus".toList := by
    rw [← String.toList_ofList (l := displayed false column.toList)]
    exact congrArg String.toList h
  rw [← String.ofList_toList (s := column)]
  cases hcolumn : column.toList with
  | nil => simp [hcolumn, displayed] at hchars
  | cons c rest =>
    rw [hcolumn, displayed_cons, List.cons.injEq] at hchars
    obtain ⟨hfirst, hrest⟩ := hchars
    have hword : isWordChar c = true := by
      rw [← isWordChar_shown false, hfirst]
      decide
    have hletter : c = 's' ∨ c = 'S' := toUpper_eq_S (by rw [← hfirst, shown_false hword])
    rw [hword] at hrest
    have htail : rest = "tatus".toList := by
      rw [← hrest]
      refine (displayed_word ?_).symm
      rw [hrest]
      exact List.all_eq_true.mp (by decide)
    rw [htail]
    rcases hletter with rfl | rfl
    · exact Or.inl rfl
    · exact Or.inr rfl

/-! ### The field of the status -/

/-- A column `Status` stands behind every column `status`, of which there is one. -/
def Overlaid (columns : List String) : Prop :=
  ∃ before after, columns = before ++ "Status" :: after ∧ statusColumn ∈ before ∧
    statusColumn ∉ after

theorem not_overlaid_of_rising {columns : List String} (h : columns.Pairwise (· < ·)) :
    ¬ Overlaid columns := by
  rintro ⟨before, after, rfl, hmem, -⟩
  have hlt : statusColumn < "Status" :=
    (List.pairwise_append.mp h).2.2 _ hmem _ List.mem_cons_self
  exact absurd hlt (by decide)

theorem bearer_of_overlaid {columns : List String} (h : Overlaid columns) :
    bearer columns statusColumn = "Status" := by
  obtain ⟨before, after, rfl, -, hafter⟩ := h
  simp only [bearer, displayName_status, List.reverse_append, List.reverse_cons, List.append_assoc,
    List.find?_append]
  cases hfind : after.reverse.find? (displayName · == "Status") with
  | none =>
    have hself : displayName "Status" = "Status" := by decide
    simp [hself]
  | some c =>
    have hmem : c ∈ after := List.mem_reverse.mp (List.mem_of_find?_eq_some hfind)
    have hc : displayName c = "Status" := by simpa using List.find?_some hfind
    rcases eq_of_displayName_eq_status hc with rfl | rfl
    · exact absurd hmem hafter
    · rfl

theorem bearer_of_not_overlaid {columns : List String} (hmem : statusColumn ∈ columns)
    (h : ¬ Overlaid columns) : bearer columns statusColumn = statusColumn := by
  obtain ⟨hshown, later, earlier, hcolumns, hlater⟩ :=
    List.find?_eq_some_iff_append.mp (bearer_spec hmem)
  rw [displayName_status, beq_iff_eq] at hshown
  refine (eq_of_displayName_eq_status hshown).resolve_right fun hbearer => h ?_
  have hsplit : columns = earlier.reverse ++ "Status" :: later.reverse := by
    simpa [hbearer] using congrArg List.reverse hcolumns
  have hnot : statusColumn ∉ later.reverse := fun hin => by
    simpa using hlater _ (List.mem_reverse.mp hin)
  refine ⟨_, _, hsplit, ?_, hnot⟩
  rw [hsplit, List.mem_append, List.mem_cons] at hmem
  exact hmem.resolve_right fun hin => hin.elim (by decide) hnot

theorem config_field (sample : Option Record) (column : String) :
    (field sample column).config =
      if column = statusColumn then some Status.fieldConfig else none := by
  unfold field
  split <;> rfl

theorem cell_namesake (r : Record) : cell r "Status" = (r.get? "Status").getD .null :=
  cell_plain (by decide) (by decide) r

/-- The status of a table decodes unless a column `Status` stands behind it, and then just when
each record has under that key a value that decodes. -/
theorem statusDecodes_iff (refId : String) (records : List Record) (requested : List String) :
    (frame refId records requested).StatusDecodes ↔
      (Overlaid (columns records requested) →
        ∀ r ∈ records, Status.fieldConfig.Decodes ((r.get? "Status").getD .null)) := by
  rw [Frame.StatusDecodes, fields_frame]
  generalize columns records requested = shown
  constructor
  · intro h hoverlaid r hr
    have hmem : statusColumn ∈ shown := by
      obtain ⟨before, after, rfl, hbefore, -⟩ := hoverlaid
      exact List.mem_append_left _ hbefore
    have hvalues := h _ (List.mem_map_of_mem hmem) (by rw [config_field, if_pos rfl])
    rw [← cell_namesake, ← bearer_of_overlaid hoverlaid]
    exact hvalues _ (List.mem_map_of_mem hr)
  · intro h d hd hconfig v hv
    obtain ⟨c, hc, rfl⟩ := List.mem_map.mp hd
    obtain ⟨r, hr, rfl⟩ := List.mem_map.mp hv
    have hstatus : c = statusColumn := by
      by_contra hne
      rw [config_field, if_neg hne] at hconfig
      contradiction
    subst hstatus
    by_cases hoverlaid : Overlaid shown
    · rw [bearer_of_overlaid hoverlaid, cell_namesake]
      exact h hoverlaid r hr
    · rw [bearer_of_not_overlaid hc hoverlaid, cell_status]
      exact Status.decodes_ofNat (Heatmap.priorityOf_mem _)

end Table

end SensorFrames
