import Mathlib.Data.List.Forall2
import SensorFrames.Proofs.Table.Columns

/-!
The frame of a table, column by column. Main statement: it is the one frame that has a field for
each column of the layout, in their order, with the name and the type of its column and the cells
of the last column of that name.
-/

set_option autoImplicit false

namespace SensorFrames.Table

/-! ### What a table is to show -/

/-- The columns that are shown: the requested ones, or else the keys of the first record. -/
inductive IsLayout : List Record → List String → List String → Prop where
  | requested (records : List Record) {requested : List String} (h : requested ≠ []) :
      IsLayout records requested requested
  | derived (first : Record) (rest : List Record) : IsLayout (first :: rest) [] first.keys
  | bare : IsLayout [] [] []

/-- At the place `j` stands the last of the columns that are shown under a name. -/
structure IsLast (columns : List String) (name : String) (j : Nat) (last : String) : Prop where
  place : columns[j]? = some last
  named : displayName last = name
  after : ∀ (j' : Nat) (other : String), j < j' → columns[j']? = some other →
    displayName other ≠ name

/-- The type and the settings of a column. Without records there is no cell to judge it by. -/
inductive HasKind : List Record → String → FieldType → Option FieldConfig → Prop where
  | status (records : List Record) :
      HasKind records statusColumn .number (some Status.fieldConfig)
  | judged (first : Record) (rest : List Record) {column : String} (h : column ≠ statusColumn) :
      HasKind (first :: rest) column (typeOf (cell first column)) none
  | unjudged {column : String} (h : column ≠ statusColumn) : HasKind [] column .string none

structure ShowsColumn (records : List Record) (columns : List String) (column : String)
    (f : Field) : Prop where
  name : f.name = displayName column
  kind : HasKind records column f.type f.config
  length : f.values.length = records.length
  values : ∃ (j : Nat) (last : String), IsLast columns (displayName column) j last ∧
    ∀ (k : Nat) (r : Record), records[k]? = some r → f.values[k]? = some (cell r last)

/-! ### What it shows -/

theorem isLayout_iff {records : List Record} {requested cols : List String} :
    IsLayout records requested cols ↔ cols = columns records requested := by
  constructor
  · intro h
    cases h with
    | requested _ hne =>
      cases requested with
      | nil => contradiction
      | cons c cs => rfl
    | derived | bare => rfl
  · rintro rfl
    match records, requested with
    | records, c :: cs => exact .requested records (List.cons_ne_nil c cs)
    | first :: rest, [] => exact .derived first rest
    | [], [] => exact .bare

theorem exists_isLast {columns : List String} {column : String} (h : column ∈ columns) :
    ∃ j, IsLast columns (displayName column) j (bearer columns column) := by
  obtain ⟨hname, later, earlier, hcolumns, hlater⟩ :=
    List.find?_eq_some_iff_append.mp (bearer_spec h)
  have hsplit : columns = earlier.reverse ++ bearer columns column :: later.reverse := by
    simpa using congrArg List.reverse hcolumns
  refine ⟨earlier.length, ?place, beq_iff_eq.mp hname, fun j' other hj hother => ?after⟩
  case place =>
    rw [hsplit, List.getElem?_append_right (by simp)]
    simp [← hsplit]
  case after =>
    rw [hsplit, List.getElem?_append_right (by simp; omega)] at hother
    obtain ⟨k, hk⟩ : ∃ k, j' - earlier.reverse.length = k + 1 :=
      ⟨j' - earlier.length - 1, by simp; omega⟩
    rw [hk, List.getElem?_cons_succ] at hother
    simpa using hlater other (List.mem_reverse.mp (List.mem_of_getElem? hother))

theorem IsLast.unique {columns : List String} {name last last' : String} {j j' : Nat}
    (h : IsLast columns name j last) (h' : IsLast columns name j' last') : last = last' := by
  rcases Nat.lt_trichotomy j j' with hlt | rfl | hlt
  · exact absurd h'.named (h.after j' last' hlt h'.place)
  · exact Option.some.inj (h.place.symm.trans h'.place)
  · exact absurd h.named (h'.after j last hlt h.place)

theorem hasKind_field (records : List Record) (column : String) :
    HasKind records column (field records.head? column).type
      (field records.head? column).config := by
  by_cases hstatus : column = statusColumn
  · subst hstatus
    exact .status records
  · cases records with
    | nil => simpa [field, hstatus, typeOf] using HasKind.unjudged hstatus
    | cons first rest => simpa [field, cell, hstatus] using HasKind.judged first rest hstatus

theorem HasKind.unique {records : List Record} {column : String} {type type' : FieldType}
    {config config' : Option FieldConfig} (h : HasKind records column type config)
    (h' : HasKind records column type' config') : type = type' ∧ config = config' := by
  cases h with
  | status =>
    cases h' with
    | status => exact ⟨rfl, rfl⟩
    | judged _ _ hne | unjudged hne => exact absurd rfl hne
  | judged first rest hne =>
    cases h' with
    | status => exact absurd rfl hne
    | judged => exact ⟨rfl, rfl⟩
  | unjudged hne =>
    cases h' with
    | status => exact absurd rfl hne
    | unjudged => exact ⟨rfl, rfl⟩

def filled (records : List Record) (columns : List String) (column : String) : Field :=
  { field records.head? column with values := records.map (cell · (bearer columns column)) }

theorem showsColumn_filled {records : List Record} {columns : List String} {column : String}
    (h : column ∈ columns) :
    ShowsColumn records columns column (filled records columns column) := by
  obtain ⟨j, hlast⟩ := exists_isLast h
  refine ⟨name_field _ _, hasKind_field _ _, by simp [filled], j, _, hlast, fun k r hr => ?_⟩
  simp [filled, hr]

theorem ShowsColumn.unique {records : List Record} {columns : List String} {column : String}
    {f f' : Field} (h : ShowsColumn records columns column f)
    (h' : ShowsColumn records columns column f') : f = f' := by
  obtain ⟨name, type, config, values⟩ := f
  obtain ⟨name', type', config', values'⟩ := f'
  obtain ⟨j, last, hlast, hcells⟩ := h.values
  obtain ⟨j', last', hlast', hcells'⟩ := h'.values
  obtain rfl : last = last' := hlast.unique hlast'
  obtain ⟨htype, hconfig⟩ := h.kind.unique h'.kind
  have hvalues : values = values' := by
    refine List.ext_getElem? fun k => ?_
    cases hr : records[k]? with
    | some r => exact (hcells k r hr).trans (hcells' k r hr).symm
    | none =>
      have hk : records.length ≤ k := List.getElem?_eq_none_iff.mp hr
      rw [List.getElem?_eq_none (h.length.symm ▸ hk), List.getElem?_eq_none (h'.length.symm ▸ hk)]
  rw [Field.mk.injEq]
  exact ⟨h.name.trans h'.name.symm, htype, hconfig, hvalues⟩

theorem forall₂_iff_eq_map {α β : Type} {R : α → β → Prop} {g : α → β} {l : List α} {u : List β}
    (h : ∀ a ∈ l, ∀ b, R a b ↔ b = g a) : List.Forall₂ R l u ↔ u = l.map g := by
  induction l generalizing u with
  | nil => exact List.forall₂_nil_left_iff
  | cons a l ih =>
    have ha := h a List.mem_cons_self
    have hl := fun u => @ih u fun b hb => h b (List.mem_cons_of_mem a hb)
    simp [List.forall₂_cons_left_iff, ha, hl]

/-- A frame is that of the table just when it is headed by the reference and has a field for each
column of the layout, in their order: its name is the display name, its kind that of the column,
and for each record it has the cell of the last column that is shown under this name. -/
theorem eq_frame_iff (refId : String) (records : List Record) (requested : List String)
    (t : Frame) :
    t = frame refId records requested ↔
      ∃ cols, IsLayout records requested cols ∧ t.refId = refId ∧
        List.Forall₂ (ShowsColumn records cols) cols t.fields := by
  obtain ⟨refId', fields⟩ := t
  have hshown : ∀ c ∈ columns records requested, ∀ f,
      ShowsColumn records (columns records requested) c f ↔
        f = filled records (columns records requested) c := fun c hc f =>
    ⟨fun hf => hf.unique (showsColumn_filled hc), fun hf => hf ▸ showsColumn_filled hc⟩
  have hfields : (frame refId records requested).fields =
      (columns records requested).map (filled records (columns records requested)) :=
    fields_frame refId records requested
  have hframe : frame refId records requested =
      ⟨refId, (columns records requested).map (filled records (columns records requested))⟩ := by
    rw [← hfields, frame, Frame.addAll_eq]
  simp only [isLayout_iff, exists_eq_left, forall₂_iff_eq_map hshown, hframe, Frame.mk.injEq]

end SensorFrames.Table
