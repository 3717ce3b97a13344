import SensorFrames.Proofs.Filter.Expression
import SensorFrames.Proofs.Filter.ReadBack

/-!
What a compiled filter means. The texts of the clauses and the query's own expression, which stands
in parentheses, are operands of any connective; so whichever connective binds tighter, the filter is
the conjunction of its parts.
-/

set_option autoImplicit false

namespace SensorFrames

namespace Filter

variable {tighter : Connective}

/-! ### Texts with a meaning -/

/-- The text is an expression of the level that is true when `meaning` says so. -/
def Denotes (tighter : Connective) (l : Level) (s : String)
    (meaning : (Comparison → Prop) → Prop) : Prop :=
  ∃ e, IsExpressionAt tighter l s e ∧ ∀ truth, e.Holds truth ↔ meaning truth

/-- A word of the language, which is not one of those that join expressions. -/
def IsName (s : String) : Prop :=
  s.toList ≠ [] ∧ s.toList.all (!endsWord ·) = true ∧ isReserved s = false

instance : DecidablePred IsName := fun _ => inferInstanceAs (Decidable (_ ∧ _ ∧ _))

theorem isToken_word {s : String} (hne : s.toList ≠ [])
    (hall : s.toList.all (!endsWord ·) = true) : IsToken s.toList (.word s) := by
  have hends : ∀ c ∈ s.toList, endsWord c = false := by simpa using hall
  simpa using IsToken.word hne hends

theorem isToken_of_isName {s : String} (h : IsName s) : IsToken s.toList (.word s) :=
  isToken_word h.1 h.2.1

theorem isToken_quote (value : String) : IsToken (quote value).toList (.literal value) := by
  simpa using IsToken.literal (isLiteral_quote value)

theorem ends_blank (cs : List Char) : Ends (' ' :: cs) := by
  rintro _ ⟨⟩
  decide

theorem Spells.spaced {written cs : List Char} {t : Token} {ts : List Token}
    (ht : IsToken written t) (h : Spells cs ts) : Spells (written ++ ' ' :: cs) (t :: ts) :=
  .token ht (fun _ => ends_blank cs) (.blank (by decide) h)

theorem isExpressionAt_comparison {c : Comparison} (hfield : IsName c.field)
    (hoperator : IsName c.operator) :
    IsExpressionAt tighter .operand (c.field ++ " " ++ c.operator ++ " " ++ quote c.value)
      (.comparison c) := by
  have hvalue : Spells ((quote c.value).toList ++ []) [.literal c.value] :=
    .token (isToken_quote c.value) (by simp) .nil
  have htext := Spells.spaced (isToken_of_isName hfield)
    (Spells.spaced (isToken_of_isName hoperator) hvalue)
  exact ⟨c.tokens, by simpa [Comparison.tokens] using htext, .comparison ⟨hfield.2.2, hoperator.2.2⟩⟩

theorem IsExpressionAt.parenthesised {s : String} {e : Expression}
    (h : IsExpressionAt tighter .loose s e) :
    IsExpressionAt tighter .operand (parenthesised s) e := by
  obtain ⟨ts, hts, hreads⟩ := h
  have hend : Ends [')'] := by
    rintro _ ⟨⟩
    decide
  have hclosing : Spells ([')'] ++ []) [.closing] := .token .closing (by simp) .nil
  have htext : Spells (['('] ++ (s.toList ++ [')'])) (.opening :: (ts ++ [.closing])) :=
    .token .opening (by simp) (hts.append hclosing hend)
  exact ⟨_, by simpa [Filter.parenthesised] using htext, .group hreads⟩

def Connective.spaced (c : Connective) : String := " " ++ c.text ++ " "

theorem IsExpressionAt.more {l : Level} {c : Connective} {s t : String} {e f : Expression}
    (hc : l.connective? tighter = some c) (he : IsExpressionAt tighter l.below s e)
    (hf : IsExpressionAt tighter l t f) :
    IsExpressionAt tighter l (s ++ c.spaced ++ t) (.joined c e f) := by
  obtain ⟨ts, hts, hreads⟩ := he
  obtain ⟨us, hus, hreads'⟩ := hf
  have hword : IsToken c.text.toList (.word c.text) := by
    have hc : c.text.toList ≠ [] ∧ c.text.toList.all (!endsWord ·) = true := by
      cases c <;> decide
    exact isToken_word hc.1 hc.2
  have htail : Spells (' ' :: (c.text.toList ++ ' ' :: t.toList)) (.word c.text :: us) :=
    .blank (by decide) (Spells.spaced hword hus)
  have htext := hts.append htail (ends_blank _)
  exact ⟨_, by simpa [Connective.spaced] using htext, .more hc hreads hreads'⟩

/-! ### Operands with a connective between them -/

def Connective.level (tighter c : Connective) : Level := if c = tighter then .tight else .loose

theorem connective?_level (tighter c : Connective) :
    (c.level tighter).connective? tighter = some c := by
  cases tighter <;> cases c <;> rfl

theorem IsExpressionAt.lift {s : String} {e : Expression}
    (h : IsExpressionAt tighter .operand s e) (l : Level) : IsExpressionAt tighter l s e := by
  obtain ⟨ts, hts, h⟩ := h
  refine ⟨ts, hts, ?_⟩
  cases l with
  | operand => exact h
  | tight => exact .one rfl h
  | loose => exact .one rfl (.one rfl h)

theorem IsExpressionAt.loose {c : Connective} {s : String} {e : Expression}
    (h : IsExpressionAt tighter (c.level tighter) s e) : IsExpressionAt tighter .loose s e := by
  obtain ⟨ts, hts, h⟩ := h
  refine ⟨ts, hts, ?_⟩
  unfold Connective.level at h
  split at h
  · exact .one rfl h
  · exact h

/-- What a connective between all members says. -/
def Connective.Over {α : Type} (c : Connective) (xs : List α) (p : α → Prop) : Prop :=
  match c with
  | and => ∀ x ∈ xs, p x
  | or => ∃ x ∈ xs, p x

theorem Connective.over_cons {α : Type} (c : Connective) (x y : α) (xs : List α)
    (p : α → Prop) : c.Over (x :: y :: xs) p ↔ c.Holds (p x) (c.Over (y :: xs) p) := by
  cases c <;> simp [Over, Holds]

theorem denotes_joined (c : Connective) {α : Type} {text : α → String}
    {meaning : α → (Comparison → Prop) → Prop} {xs : List α} (hne : xs ≠ [])
    (h : ∀ x ∈ xs, Denotes tighter .operand (text x) (meaning x)) :
    Denotes tighter .loose (joined c.spaced (xs.map text))
      fun truth => c.Over xs (meaning · truth) := by
  suffices hlevel : Denotes tighter (c.level tighter) (joined c.spaced (xs.map text))
      fun truth => c.Over xs (meaning · truth) by
    obtain ⟨e, he, hholds⟩ := hlevel
    exact ⟨e, he.loose, hholds⟩
  induction xs with
  | nil => contradiction
  | cons x xs ih =>
    obtain ⟨e, he, hholds⟩ := h x (by simp)
    cases xs with
    | nil =>
      refine ⟨e, he.lift _, fun truth => (hholds truth).trans ?_⟩
      cases c <;> simp [Connective.Over]
    | cons y xs =>
      obtain ⟨f, hf, hholds'⟩ := ih (by simp) fun z hz => h z (List.mem_cons_of_mem x hz)
      refine ⟨.joined c e f, .more (connective?_level tighter c) (he.lift _) hf, fun truth => ?_⟩
      show (Expression.joined c e f).Holds truth ↔ c.Over (x :: y :: xs) (meaning · truth)
      rw [c.over_cons, Expression.Holds]
      cases c
      · exact and_congr (hholds truth) (hholds' truth)
      · exact or_congr (hholds truth) (hholds' truth)

/-! ### Clauses -/

def Clause.comparison (c : Clause) (value : String) : Comparison :=
  ⟨c.field, c.operator.text, value⟩

theorem denotes_atom {c : Clause} (hfield : IsName c.field) (value : String) :
    Denotes tighter .operand (c.atom value) fun truth => truth (c.comparison value) := by
  have hoperator : IsName c.operator.text := by
    cases c.operator <;> decide
  exact ⟨_, isExpressionAt_comparison (c := c.comparison value) hfield hoperator, fun _ => .rfl⟩

theorem denotes_clause {c : Clause} (hfield : IsName c.field) (hne : c.values ≠ []) :
    Denotes tighter .operand c.text fun truth => ∃ v ∈ c.values, truth (c.comparison v) := by
  by_cases hlen : 2 ≤ c.values.length
  · obtain ⟨e, he, hholds⟩ := denotes_joined .or hne fun v _ => denotes_atom hfield v
    rw [text_of_two_le hlen, map_text_atoms]
    exact ⟨e, he.parenthesised, hholds⟩
  · obtain ⟨v, hv⟩ : ∃ v, c.values = [v] := by
      rw [← List.length_eq_one_iff]
      have hpos := List.length_pos_iff.mpr hne
      omega
    obtain ⟨e, he, hholds⟩ := denotes_atom hfield v
    have htext : c.text = c.atom v := by rw [Clause.text, hv]
    exact ⟨e, htext ▸ he, fun truth => by simpa [hv] using hholds truth⟩

theorem IsExpressionAt.ne_empty {l : Level} {s : String} {e : Expression}
    (h : IsExpressionAt tighter l s e) : s ≠ "" := by
  rintro rfl
  obtain ⟨ts, hts, hreads⟩ := h
  obtain rfl : ts = [] := hts.unique .nil
  generalize hnil : ([] : List Token) = ts at hreads
  induction hreads with
  | comparison _ => simp [Comparison.tokens] at hnil
  | group _ _ => simp at hnil
  | one _ _ ih => exact ih hnil
  | more _ _ _ _ _ => simp at hnil

end Filter

open SensorFrames.Filter

namespace Query

variable {tighter : Connective} {q : Query} {own : Option Expression}

/-- What the query's own expression says; none when the query has none, or a blank one. -/
inductive OwnReading (tighter : Connective) (q : Query) : Option Expression → Prop
  | blank : q.Plain → OwnReading tighter q none
  | written {s : String} {e : Expression} :
    q.filter = some s → IsExpression tighter (Text.trim s) e → OwnReading tighter q (some e)

/-- What a query asks for: of each field with values that are kept, one of these, and its own
expression. -/
def Asks (q : Query) (own : Option Expression) (truth : Comparison → Prop) : Prop :=
  (∀ c ∈ q.asked, kept c.values ≠ [] → ∃ v ∈ kept c.values, truth (c.comparison v)) ∧
    ∀ e, own = some e → e.Holds truth

theorem isName_asked {c : Clause} (hc : c ∈ q.asked) : IsName c.field := by
  have h : ∀ field ∈ q.asked.map (·.field), IsName field := by
    simp only [asked, List.map_cons, List.map_nil]
    decide
  exact h c.field (List.mem_map_of_mem hc)

theorem expression?_of_written {s : String} {e : Expression} (hs : q.filter = some s)
    (he : IsExpression tighter (Text.trim s) e) : q.expression? = some (Text.trim s) := by
  simp [expression?, hs, IsExpressionAt.ne_empty he]

def clauseParts (q : Query) : List (String × ((Comparison → Prop) → Prop)) :=
  q.keptClauses.map fun c => (c.text, fun truth => ∃ v ∈ c.values, truth (c.comparison v))

theorem denotes_clauseParts {p : String × ((Comparison → Prop) → Prop)}
    (hp : p ∈ q.clauseParts) : Denotes tighter .operand p.1 p.2 := by
  obtain ⟨c, hc, rfl⟩ := List.mem_map.mp hp
  simp only [keptClauses, List.mem_filter, List.mem_map] at hc
  obtain ⟨⟨d, hd, rfl⟩, hne⟩ := hc
  have hfield : IsName d.field := isName_asked hd
  exact denotes_clause hfield (by simpa using hne)

theorem forall_clauseParts (truth : Comparison → Prop) :
    (∀ p ∈ q.clauseParts, p.2 truth) ↔
      ∀ c ∈ q.asked, kept c.values ≠ [] → ∃ v ∈ kept c.values, truth (c.comparison v) := by
  rw [clauseParts, List.forall_mem_map]
  simp [keptClauses, Clause.comparison]

/-- The parts of a filter are operands, which the filter joins by `AND`. -/
theorem exists_parts (h : q.OwnReading tighter own) :
    ∃ parts : List (String × ((Comparison → Prop) → Prop)),
      q.filterText = joined Connective.and.spaced (parts.map (·.1)) ∧
      (∀ p ∈ parts, Denotes tighter .operand p.1 p.2) ∧
      (parts = [] ↔ q.keptClauses = [] ∧ q.Plain) ∧
      ∀ truth, (∀ p ∈ parts, p.2 truth) ↔ q.Asks own truth := by
  have hand : Connective.and.spaced = " AND " := by decide
  cases h with
  | blank hplain =>
    refine ⟨q.clauseParts, ?_, fun p => denotes_clauseParts, ?_, fun truth => ?_⟩
    · rw [filterText_eq hplain, hand, clauseParts, List.map_map]
      rfl
    · simp [clauseParts, hplain]
    · exact (forall_clauseParts truth).trans (by simp [Asks])
  | @written s e hs he =>
    have hown := expression?_of_written hs he
    refine ⟨q.clauseParts ++ [(parenthesised (Text.trim s), (e.Holds ·))], ?_, ?_, ?_, ?_⟩
    · simp [filterText, hown, clauses_eq, clauseParts, hand, Function.comp_def]
    · intro p hp
      rcases List.mem_append.mp hp with hclause | hlast
      · exact denotes_clauseParts hclause
      · obtain rfl := List.mem_singleton.mp hlast
        exact ⟨e, IsExpressionAt.parenthesised he, fun _ => .rfl⟩
    · have hplain : ¬ q.Plain := by
        intro hplain
        rw [expression?_eq_none hplain] at hown
        contradiction
      simp [hplain]
    · intro truth
      rw [List.forall_mem_append, forall_clauseParts]
      simp [Asks]

theorem denotes_filterText (h : q.OwnReading tighter own)
    (hne : ¬ (q.keptClauses = [] ∧ q.Plain)) :
    Denotes tighter .loose q.filterText (q.Asks own) := by
  obtain ⟨parts, htext, hparts, hnil, hmeaning⟩ := exists_parts h
  obtain ⟨e, he, hholds⟩ := denotes_joined .and (mt hnil.mp hne) hparts
  exact ⟨e, htext ▸ he, fun truth => (hholds truth).trans (hmeaning truth)⟩

theorem filterText_eq_empty_iff (h : q.OwnReading tighter own) :
    q.filterText = "" ↔ q.keptClauses = [] ∧ q.Plain := by
  constructor
  · intro hempty
    by_cases hnone : q.keptClauses = [] ∧ q.Plain
    · exact hnone
    · obtain ⟨e, he, -⟩ := denotes_filterText h hnone
      exact absurd hempty he.ne_empty
  · rintro ⟨hnil, hplain⟩
    rw [filterText_eq hplain, hnil]
    rfl

/-- The filter of a query is empty when nothing is asked for. Otherwise it is an expression, with
one reading, that is true just when each field with kept values has one of them and the query's own
expression is true; so an `OR` in one part never lets an object pass that another part rejects. -/
theorem filter_means_conjunction (tighter : Connective) (q : Query) (own : Option Expression)
    (h : q.OwnReading tighter own) :
    (q.filterText = "" ↔ (∀ values ∈ q.keptValues, values = []) ∧ q.Plain) ∧
    (q.filterText ≠ "" → ∃ e, IsExpression tighter q.filterText e ∧
      (∀ f, IsExpression tighter q.filterText f → f = e) ∧
      ∀ truth, e.Holds truth ↔ q.Asks own truth) := by
  have hempty := filterText_eq_empty_iff h
  refine ⟨by rw [hempty, keptClauses_eq_nil], fun hne => ?_⟩
  obtain ⟨e, he, hholds⟩ := denotes_filterText h (mt hempty.mpr hne)
  exact ⟨e, he, fun f hf => IsExpressionAt.unique hf he, hholds⟩

def eitherGroup : Query where
  groups := [" A", "B' OR x"]
  tags := ["core", ""]
  filter := some " name contains 'x' OR lastup > '2024-01-01'"

def named : Comparison := ⟨"name", "contains", "x"⟩

def seen : Comparison := ⟨"lastup", ">", "2024-01-01"⟩

theorem eitherGroup_reading :
    eitherGroup.OwnReading .and (some (.joined .or (.comparison named) (.comparison seen))) := by
  have hnamed : IsExpressionAt .and .operand "name contains 'x'" (.comparison named) :=
    isExpressionAt_comparison (c := named) (by decide) (by decide)
  have hseen : IsExpressionAt .and .operand "lastup > '2024-01-01'" (.comparison seen) :=
    isExpressionAt_comparison (c := seen) (by decide) (by decide)
  have hboth : IsExpression .and
      ("name contains 'x'" ++ Connective.or.spaced ++ "lastup > '2024-01-01'") _ :=
    .more rfl (hnamed.lift .tight) (hseen.lift .loose)
  have htrim : Text.trim " name contains 'x' OR lastup > '2024-01-01'" =
      "name contains 'x'" ++ Connective.or.spaced ++ "lastup > '2024-01-01'" := by decide
  exact .written rfl (htrim ▸ hboth)

/-- An object of another group does not pass, although the query's own expression is true of it. -/
theorem either_group_not_widened :
    eitherGroup.OwnReading .and (some (.joined .or (.comparison named) (.comparison seen))) ∧
    eitherGroup.filterText = "(group = 'A' OR group = 'B\\' OR x') AND tags contains 'core'" ++
      " AND (name contains 'x' OR lastup > '2024-01-01')" ∧
    ∃ e, IsExpression .and eitherGroup.filterText e ∧
      ¬ e.Holds (fun c => c = ⟨"tags", "contains", "core"⟩ ∨ c = seen) := by
  obtain ⟨-, hmeans⟩ := filter_means_conjunction .and eitherGroup _ eitherGroup_reading
  obtain ⟨e, he, -, hholds⟩ := hmeans (by decide)
  refine ⟨eitherGroup_reading, by decide, e, he, fun htrue => ?_⟩
  have hgroup := ((hholds _).mp htrue).1 ⟨"group", .equals, eitherGroup.groups⟩ (by decide)
    (by decide)
  obtain ⟨v, -, hv⟩ := hgroup
  simp [Clause.comparison, seen] at hv

end Query

end SensorFrames
