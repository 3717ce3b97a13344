import SensorFrames.Filter.Clause
import SensorFrames.Text.Reader

/-!
Quoted values. Main statement: whatever scans literals by their rules takes a quoted value off the
front of any text and leaves what stands behind it, so a quoted value tells itself where it ends.
-/

set_option autoImplicit false

namespace SensorFrames.Filter

open Text (Reader)

/-- The rules of a literal after its opening quote. A backslash makes the next character stand for
itself, the first quote without one ends the literal, and other characters stand for themselves. -/
structure ScansBody (scan : Reader (List Char)) : Prop where
  closing (rest : List Char) : scan ('\'' :: rest) = some ([], rest)
  escaped (c : Char) (rest : List Char) :
    scan ('\\' :: c :: rest) = (scan rest).map fun r => (c :: r.1, r.2)
  plain {c : Char} (hb : c ≠ '\\') (hq : c ≠ '\'') (rest : List Char) :
    scan (c :: rest) = (scan rest).map fun r => (c :: r.1, r.2)

/-- A scanner of literals reads an opening quote and goes on by the rules. -/
def IsScanner (scan : Reader (List Char)) : Prop :=
  ∃ body, ScansBody body ∧ ∀ cs, scan ('\'' :: cs) = body cs

theorem scansBody_scanBody : ScansBody scanBody where
  closing _ := rfl
  escaped _ _ := rfl
  plain hb hq rest := scanBody.eq_4 _ rest hq fun _ _ hc => absurd hc hb

theorem isScanner_scanLiteral : IsScanner scanLiteral :=
  ⟨scanBody, scansBody_scanBody, fun _ => rfl⟩

theorem ScansBody.scan_escaped {scan : Reader (List Char)} (h : ScansBody scan)
    (value rest : List Char) :
    scan (value.flatMap escapeChar ++ '\'' :: rest) = some (value, rest) := by
  induction value with
  | nil => exact h.closing rest
  | cons c value ih =>
    by_cases hspecial : c = '\\' ∨ c = '\''
    · rw [List.flatMap_cons, escapeChar, if_pos hspecial, List.append_assoc, List.cons_append,
        List.singleton_append, h.escaped, ih]
      rfl
    · obtain ⟨hb, hq⟩ := not_or.mp hspecial
      rw [List.flatMap_cons, escapeChar, if_neg hspecial, List.append_assoc, List.singleton_append,
        h.plain hb hq, ih]
      rfl

def backslashed (special : Char) (cs : List Char) : List Char :=
  cs.flatMap fun c => if c = special then ['\\', c] else [c]

/-- Backslashes are doubled first: the ones that go before quotes are not to be doubled again. -/
theorem flatMap_escapeChar (value : List Char) :
    value.flatMap escapeChar = backslashed '\'' (backslashed '\\' value) := by
  rw [backslashed, backslashed, List.flatMap_assoc]
  refine congrArg (List.flatMap · value) (funext fun c => ?_)
  by_cases hb : c = '\\'
  · subst hb
    rfl
  · by_cases hq : c = '\'' <;> simp [escapeChar, hb, hq]

/-- A quoted value is made by two replacements, and any scanner finds where it ends, whatever stands
behind it; so two quoted values with something behind them are the same text only by both parts. -/
theorem quote_delimits_itself {scan : Reader (List Char)} (h : IsScanner scan)
    (value rest : String) :
    scan (quote value ++ rest).toList = some (value.toList, rest.toList) ∧
    (quote value).toList =
      '\'' :: backslashed '\'' (backslashed '\\' value.toList) ++ ['\''] ∧
    ∀ value' rest', quote value' ++ rest' = quote value ++ rest → value' = value ∧ rest' = rest := by
  obtain ⟨body, hbody, hopening⟩ := h
  have hscan : ∀ value rest : String,
      scan (quote value ++ rest).toList = some (value.toList, rest.toList) := by
    intro value rest
    rw [String.toList_append, quote, String.toList_ofList, literal, List.cons_append,
      List.cons_append, List.append_assoc, hopening]
    exact hbody.scan_escaped value.toList rest.toList
  refine ⟨hscan value rest, ?_, fun value' rest' heq => ?_⟩
  · rw [quote, String.toList_ofList, literal, flatMap_escapeChar]
  · have hsame := hscan value' rest'
    rw [heq, hscan value rest, Option.some.injEq, Prod.mk.injEq] at hsame
    exact ⟨String.toList_inj.mp hsame.1.symm, String.toList_inj.mp hsame.2.symm⟩

def backslashes : String := "a\\'b\\"

theorem backslashes_taken_off :
    IsScanner scanLiteral ∧ quote backslashes = "'a\\\\\\'b\\\\'" ∧
      scanLiteral (quote backslashes ++ "\\'' OR").toList =
        some (backslashes.toList, "\\'' OR".toList) :=
  ⟨isScanner_scanLiteral, by decide, (quote_delimits_itself isScanner_scanLiteral _ _).1⟩

end SensorFrames.Filter
