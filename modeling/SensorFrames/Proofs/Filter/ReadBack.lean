import SensorFrames.Proofs.Filter.Grammar

/-!
Reading a compiled filter back. The text of a query that has no expression of its own belongs to
the language of clauses, with one clause for each dimension that keeps a value; hence the reader
gives these clauses and their values, whatever characters the values hold.
-/

set_option autoImplicit false

namespace SensorFrames

namespace Filter

/-! ### Clauses and their texts -/

theorem isBody_escaped (value : List Char) : IsBody (value.flatMap escapeChar) value := by
  induction value with
  | nil => exact .nil
  | cons c value ih =>
    by_cases hc : c = '\\' ∨ c = '\''
    · simpa [escapeChar, hc] using IsBody.escaped (c := c) ih
    · obtain ⟨hb, hq⟩ := not_or.mp hc
      simpa [escapeChar, hc] using IsBody.plain hb hq ih

theorem isLiteral_quote (value : String) : IsLiteral (quote value).toList value.toList := by
  simpa [quote, literal] using IsLiteral.quoted (isBody_escaped value.toList)

def Atom.text (a : Atom) : String :=
  a.field ++ " " ++ a.operator.text ++ " " ++ quote a.value

theorem isAtom_text {a : Atom} (h : IsFieldName a.field.toList) : IsAtom a.text.toList a :=
  ⟨h, (quote a.value).toList, isLiteral_quote a.value, by simp [Atom.text, Operator.spaced]⟩

theorem isSeparated_joined {α : Type} {item : List Char → α → Prop} {separator : String}
    {text : α → String} {xs : List α} (hne : xs ≠ []) (h : ∀ x ∈ xs, item (text x).toList x) :
    IsSeparated separator.toList item (joined separator (xs.map text)).toList xs := by
  induction xs with
  | nil => contradiction
  | cons x xs ih =>
    cases xs with
    | nil => exact .one (h x (by simp))
    | cons y xs =>
      have htail := ih (by simp) fun z hz => h z (List.mem_cons_of_mem x hz)
      simpa [joined] using IsSeparated.more (h x (by simp)) htail

theorem isAtom_of_mem_atoms {c : Clause} (hfield : IsFieldName c.field.toList) {a : Atom}
    (ha : a ∈ c.atoms) : IsAtom a.text.toList a := by
  obtain ⟨v, -, rfl⟩ := List.mem_map.mp ha
  exact isAtom_text hfield

theorem map_text_atoms (c : Clause) : c.atoms.map Atom.text = c.values.map c.atom := by
  simp only [Clause.atoms, List.map_map]
  rfl

theorem text_of_two_le {c : Clause} (h : 2 ≤ c.values.length) :
    c.text = parenthesised (joined " OR " (c.atoms.map Atom.text)) := by
  obtain ⟨field, operator, values⟩ := c
  rw [map_text_atoms]
  match values, h with
  | v :: w :: more, _ => rfl

theorem isClause_text {c : Clause} (hfield : IsFieldName c.field.toList) (hne : c.values ≠ []) :
    IsClause c.text.toList c := by
  by_cases hlen : 2 ≤ c.values.length
  · have hatoms : c.atoms ≠ [] := by simpa [Clause.atoms] using hne
    have h : IsSeparated orText IsAtom (joined " OR " (c.atoms.map Atom.text)).toList c.atoms :=
      isSeparated_joined hatoms fun a => isAtom_of_mem_atoms hfield
    rw [text_of_two_le hlen]
    simpa [parenthesised] using IsClause.group hlen h
  · obtain ⟨v, hv⟩ : ∃ v, c.values = [v] := by
      rw [← List.length_eq_one_iff]
      have hpos := List.length_pos_iff.mpr hne
      omega
    obtain ⟨field, operator, values⟩ := c
    subst hv
    exact .bare (isAtom_text (a := ⟨field, operator, v⟩) hfield)

theorem parse_joined {cs : List Clause}
    (h : ∀ c ∈ cs, IsFieldName c.field.toList ∧ c.values ≠ []) :
    parse (joined " AND " (cs.map Clause.text)) = some cs := by
  rw [parse_eq_some]
  by_cases hne : cs = []
  · subst hne
    exact .empty
  · exact .clauses (isSeparated_joined hne fun c hc => isClause_text (h c hc).1 (h c hc).2)

/-! ### Values that are kept -/

def kept (values : List String) : List String := (values.map Text.trim).filter (· ≠ "")

theorem ofValues?_eq (field : String) (operator : Operator) (values : List String) :
    Clause.ofValues? field operator values =
      if kept values = [] then none else some ⟨field, operator, kept values⟩ := by
  unfold Clause.ofValues?
  rw [← kept]
  cases kept values <;> simp

theorem length_kept_map {f : String → String} {values : List String}
    (h : ∀ v ∈ values, Text.trim (f v) = "" ↔ Text.trim v = "") :
    (kept (values.map f)).length = (kept values).length := by
  induction values with
  | nil => rfl
  | cons v values ih =>
    have htail := ih fun w hw => h w (List.mem_cons_of_mem v hw)
    have hhead := h v (by simp)
    by_cases hv : Text.trim v = "" <;> simp_all [kept]

/-- What a clause asks for, apart from what its values hold. -/
def Clause.shape (c : Clause) : String × Operator × Nat := (c.field, c.operator, c.values.length)

end Filter

open SensorFrames.Filter

namespace Query

/-- The values that a query gives for each field, in the order of the filter. -/
def asked (q : Query) : List Clause :=
  [⟨"type", .equals, q.objectTypes⟩, ⟨"status", .equals, q.statuses⟩, ⟨"group", .equals, q.groups⟩,
    ⟨"device", .equals, q.devices⟩, ⟨"kind_name", .equals, q.sensorTypes⟩,
    ⟨"tags", .contains, q.tags⟩]

def keptValues (q : Query) : List (List String) := q.asked.map fun c => kept c.values

def keptClauses (q : Query) : List Clause :=
  (q.asked.map fun c => { c with values := kept c.values }).filter (·.values ≠ [])

/-- The query has no expression of its own, or a blank one. -/
def Plain (q : Query) : Prop := ∀ s, q.filter = some s → ∀ c ∈ s.toList, Text.isBlank c = true

def mapValues (f : String → String) (q : Query) : Query :=
  { q with
    objectTypes := q.objectTypes.map f
    statuses := q.statuses.map f
    groups := q.groups.map f
    devices := q.devices.map f
    sensorTypes := q.sensorTypes.map f
    tags := q.tags.map f }

theorem clauses_eq (q : Query) : q.clauses = q.keptClauses := by
  have h : ∀ l : List Clause,
      (l.map fun c => Clause.ofValues? c.field c.operator c.values).filterMap id =
        (l.map fun c => { c with values := kept c.values }).filter (·.values ≠ []) := by
    intro l
    induction l with
    | nil => rfl
    | cons c l ih => by_cases hc : kept c.values = [] <;> simp_all [ofValues?_eq]
  exact h q.asked

theorem isFieldName_asked {q : Query} {c : Clause} (hc : c ∈ q.asked) :
    IsFieldName c.field.toList := by
  have h : ∀ field ∈ q.asked.map (·.field), IsFieldName field.toList := by
    simp only [asked, List.map_cons, List.map_nil]
    decide
  exact h c.field (List.mem_map_of_mem hc)

theorem expression?_eq_none {q : Query} (h : q.Plain) : q.expression? = none := by
  unfold expression?
  split
  · rfl
  · rename_i s hs
    rw [if_pos (Text.trim_of_blank (h s hs))]

theorem filterText_eq {q : Query} (h : q.Plain) :
    q.filterText = joined " AND " (q.keptClauses.map Clause.text) := by
  simp [filterText, expression?_eq_none h, clauses_eq]

theorem parse_filterText {q : Query} (h : q.Plain) : parse q.filterText = some q.keptClauses := by
  rw [filterText_eq h]
  refine parse_joined fun c hc => ?_
  simp only [keptClauses, List.mem_filter, List.mem_map] at hc
  obtain ⟨⟨d, hd, rfl⟩, hne⟩ := hc
  have hfield : IsFieldName d.field.toList := isFieldName_asked hd
  exact ⟨hfield, by simpa using hne⟩

theorem map_values_eq {l l' : List Clause} (hfields : l.map (·.field) = l'.map (·.field))
    (hnodup : (l.map (·.field)).Nodup)
    (h : l.filter (·.values ≠ []) = l'.filter (·.values ≠ [])) :
    l.map (·.values) = l'.map (·.values) := by
  induction l generalizing l' with
  | nil => simp_all
  | cons c l ih =>
    obtain ⟨c', l', rfl⟩ := List.exists_cons_of_ne_nil (l := l') (by rintro rfl; simp at hfields)
    simp only [List.map_cons, List.cons.injEq] at hfields
    simp only [List.map_cons, List.nodup_cons] at hnodup
    obtain ⟨hnot, hnodup⟩ := hnodup
    simp only [List.filter_cons, decide_not, Bool.not_eq_true', decide_eq_false_iff_not,
      ite_not] at h
    split at h <;> split at h
    · rename_i hc hc'
      simp only [List.map_cons, hc, hc', ih hfields.2 hnodup (by simpa using h)]
    · -- The other clause stands among those that follow, where no clause has its field.
      have hmem : c' ∈ l := (List.mem_filter.mp (h ▸ List.mem_cons_self)).1
      exact absurd (hfields.1 ▸ List.mem_map_of_mem hmem) hnot
    · have hmem : c ∈ l' := (List.mem_filter.mp (h ▸ List.mem_cons_self)).1
      exact absurd (hfields.2 ▸ List.mem_map_of_mem hmem) hnot
    · simp only [List.cons.injEq] at h
      simp only [List.map_cons, h.1, ih hfields.2 hnodup (by simpa using h.2)]

theorem keptClauses_eq_iff {q q' : Query} :
    q.keptClauses = q'.keptClauses ↔ q.keptValues = q'.keptValues := by
  constructor
  · intro h
    have hvalues := map_values_eq (by simp [asked]) (by simp [asked]) h
    simpa only [keptValues, List.map_map, Function.comp_def] using hvalues
  · intro h
    simp only [keptValues, asked, List.map_cons, List.map_nil, List.cons.injEq] at h
    simp only [keptClauses, asked, List.map_cons, List.map_nil, h]

theorem keptClauses_eq_nil {q : Query} :
    q.keptClauses = [] ↔ ∀ values ∈ q.keptValues, values = [] := by
  simp [keptClauses, keptValues]

theorem filterText_eq_empty {q : Query} (h : q.Plain) :
    q.filterText = "" ↔ ∀ values ∈ q.keptValues, values = [] := by
  rw [← keptClauses_eq_nil]
  constructor
  · intro he
    have hread := parse_filterText h
    rw [he] at hread
    exact (Option.some.inj hread).symm
  · intro hnone
    rw [filterText_eq h, hnone]
    rfl

theorem filterText_eq_iff {q q' : Query} (h : q.Plain) (h' : q'.Plain) :
    q.filterText = q'.filterText ↔ q.keptValues = q'.keptValues := by
  rw [← keptClauses_eq_iff]
  constructor
  · intro he
    have hread := parse_filterText h
    rw [he, parse_filterText h'] at hread
    exact (Option.some.inj hread).symm
  · intro he
    rw [filterText_eq h, filterText_eq h', he]

theorem shape_mapValues {q : Query} {f : String → String}
    (h : ∀ c ∈ q.asked, ∀ v ∈ c.values, Text.trim (f v) = "" ↔ Text.trim v = "") :
    (q.mapValues f).keptClauses.map Clause.shape = q.keptClauses.map Clause.shape := by
  have hasked : (q.mapValues f).asked = q.asked.map fun c => { c with values := c.values.map f } :=
    rfl
  simp only [keptClauses, hasked]
  generalize q.asked = l at h
  induction l with
  | nil => rfl
  | cons c l ih =>
    have hlen := length_kept_map (h c (by simp))
    have htail := ih fun d hd => h d (List.mem_cons_of_mem c hd)
    have hnil : kept (c.values.map f) = [] ↔ kept c.values = [] := by
      rw [← List.length_eq_zero_iff, hlen, List.length_eq_zero_iff]
    by_cases hc : kept c.values = [] <;> simp_all [Clause.shape]

/-- The filter of a query without an expression of its own can be undone. The reader, which gives
what the grammar gives, finds a clause for each field of which a value is kept, with these values.
So two filters are the same text when the kept values are the same, and no value reaches beyond its
literal: what stands behind it is read as it is, and other values in its place that are not blank
either leave the number of clauses and of their values as they were. -/
theorem filter_reads_back :
    (∀ s found, parse s = some found ↔ IsFilter s.toList found) ∧
    (∀ q : Query, q.Plain → parse q.filterText = some q.keptClauses) ∧
    (∀ q q' : Query, q.Plain → q'.Plain →
      (q.filterText = q'.filterText ↔ q.keptValues = q'.keptValues)) ∧
    (∀ q : Query, q.Plain → (q.filterText = "" ↔ ∀ values ∈ q.keptValues, values = [])) ∧
    (∀ value rest, scanLiteral ((quote value).toList ++ rest) = some (value.toList, rest)) ∧
    (∀ (q : Query) (f : String → String), q.Plain →
      (∀ c ∈ q.asked, ∀ v ∈ c.values, Text.trim (f v) = "" ↔ Text.trim v = "") →
      (parse (q.mapValues f).filterText).map (·.map Clause.shape) =
        (parse q.filterText).map (·.map Clause.shape)) := by
  refine ⟨fun _ _ => parse_eq_some, fun _ => parse_filterText, fun _ _ => filterText_eq_iff,
    fun _ => filterText_eq_empty, ?_, ?_⟩
  · intro value rest
    exact (accepts_literal _ _ _).mpr ⟨_, rfl, isLiteral_quote value⟩
  · intro q f hq h
    have hmapped : (q.mapValues f).Plain := hq
    rw [parse_filterText hmapped, parse_filterText hq, Option.map_some, Option.map_some,
      shape_mapValues h]

/-- Two groups, of which one tries to end its literal and to add a clause, and two blank tags. -/
def hostileGroups : Query where
  groups := ["A", " \\' OR x = '') AND (y "]
  tags := ["", " "]
  filter := some " \t"

theorem hostile_groups_read_back :
    hostileGroups.Plain ∧
      (∀ c ∈ hostileGroups.asked, ∀ v ∈ c.values,
        Text.trim (v ++ v) = "" ↔ Text.trim v = "") ∧
      parse hostileGroups.filterText =
        some [⟨"group", .equals, ["A", "\\' OR x = '') AND (y"]⟩] ∧
      (parse (hostileGroups.mapValues fun v => v ++ v).filterText).map (·.map Clause.shape) =
        some [("group", .equals, 2)] := by
  have hplain : hostileGroups.Plain := by
    intro s hs
    obtain rfl : " \t" = s := Option.some.inj hs
    exact List.all_eq_true.mp (show " \t".toList.all Text.isBlank = true by decide)
  have hblank : ∀ c ∈ hostileGroups.asked, ∀ v ∈ c.values,
      Text.trim (v ++ v) = "" ↔ Text.trim v = "" := by decide
  obtain ⟨-, hread, -, -, -, hshape⟩ := filter_reads_back
  refine ⟨hplain, hblank, ?_, ?_⟩
  · rw [hread _ hplain]
    decide
  · rw [hshape _ _ hplain hblank, hread _ hplain]
    decide

end Query

end SensorFrames
