import SensorFrames.Proofs.Filter.Grammar
import SensorFrames.Text.Blank

/-!
The language of filter expressions: comparisons of a field with a literal, `AND`, `OR` and
parentheses. Which of the two connectives binds tighter is left open, so that every statement is
about both conventions. Main statement: under either convention a text has one reading at most.
-/

set_option autoImplicit false

namespace SensorFrames.Filter

open SensorFrames.Text

/-! ### Tokens -/

inductive Token where
  | opening
  | closing
  | word (text : String)
  | literal (value : String)
deriving DecidableEq

/-- Blanks, quotes and parentheses end a word. -/
def endsWord (c : Char) : Bool := isBlank c || c == '\'' || c == '(' || c == ')'

inductive IsToken : List Char → Token → Prop
  | opening : IsToken ['('] .opening
  | closing : IsToken [')'] .closing
  | word {cs : List Char} : cs ≠ [] → (∀ c ∈ cs, endsWord c = false) →
    IsToken cs (.word (String.ofList cs))
  | literal {written value : List Char} : IsLiteral written value →
    IsToken written (.literal (String.ofList value))

def Ends (cs : List Char) : Prop := ∀ c, cs.head? = some c → endsWord c = true

/-- A text and its tokens. Any blanks may stand between tokens, and must stand between words. -/
inductive Spells : List Char → List Token → Prop
  | nil : Spells [] []
  | blank {c : Char} {cs : List Char} {ts : List Token} :
    isBlank c = true → Spells cs ts → Spells (c :: cs) ts
  | token {written cs : List Char} {t : Token} {ts : List Token} :
    IsToken written t → ((∃ w, t = .word w) → Ends cs) → Spells cs ts →
      Spells (written ++ cs) (t :: ts)

/-- The token at the front of a text; none at its end, before a blank and before a literal that
does not end. -/
def readToken : Reader Token
  | [] => none
  | c :: rest =>
    if isBlank c then none
    else if c = '(' then some (.opening, rest)
    else if c = ')' then some (.closing, rest)
    else if c = '\'' then (scanBody rest).map fun r => (.literal (String.ofList r.1), r.2)
    else
      let (word, rest) := run (!endsWord ·) (c :: rest)
      some (.word (String.ofList word), rest)

theorem readToken_of_isToken {written rest : List Char} {t : Token} (h : IsToken written t)
    (hends : (∃ w, t = .word w) → Ends rest) : readToken (written ++ rest) = some (t, rest) := by
  cases h with
  | opening => rfl
  | closing => rfl
  | @literal _ value hliteral =>
    obtain @⟨body, _, hbody⟩ := hliteral
    have hscan : scanBody (body ++ '\'' :: rest) = some (value, rest) :=
      scanBody_eq_some.mpr ⟨body, rfl, hbody⟩
    have hquote : isBlank '\'' = false := by decide
    simp [readToken, hscan, hquote]
  | word hne hchars =>
    obtain ⟨c, cs, rfl⟩ := List.exists_cons_of_ne_nil hne
    have hc : isBlank c = false ∧ c ≠ '\'' ∧ c ≠ '(' ∧ c ≠ ')' := by
      simpa [endsWord, and_assoc] using hchars c (by simp)
    have hall : ∀ x ∈ c :: cs, (!endsWord x) = true := fun x hx => by simp [hchars x hx]
    have hstop : rest.takeWhile (!endsWord ·) = [] ∧ rest.dropWhile (!endsWord ·) = rest := by
      cases rest with
      | nil => simp
      | cons d rest => simp [hends ⟨_, rfl⟩ d rfl]
    have hrun : run (!endsWord ·) (c :: (cs ++ rest)) = (c :: cs, rest) := by
      rw [← List.cons_append, run, List.takeWhile_append_of_pos hall,
        List.dropWhile_append_of_pos hall, hstop.1, hstop.2, List.append_nil]
    simp [readToken, hc, hrun]

theorem readToken_eq_none {cs : List Char} (h : ∀ c, cs.head? = some c → isBlank c = true) :
    readToken cs = none := by
  cases cs with
  | nil => rfl
  | cons c cs => simp [readToken, h c rfl]

theorem Spells.unique {cs : List Char} {ts us : List Token} (h : Spells cs ts)
    (h' : Spells cs us) : ts = us := by
  induction h generalizing us with
  | nil =>
    generalize hcs : ([] : List Char) = cs at h'
    cases h' with
    | nil => rfl
    | blank _ _ => contradiction
    | token ht hends _ =>
      have hread := readToken_of_isToken ht hends
      rw [← hcs, readToken_eq_none (by simp)] at hread
      contradiction
  | @blank c cs ts hc _ ih =>
    generalize hcs : c :: cs = ds at h'
    cases h' with
    | nil => contradiction
    | blank _ hrest =>
      obtain ⟨-, rfl⟩ := List.cons.inj hcs
      exact ih hrest
    | token ht hends _ =>
      have hread := readToken_of_isToken ht hends
      rw [← hcs, readToken_eq_none (by simp [hc])] at hread
      contradiction
  | @token written cs t ts ht hends _ ih =>
    have hread := readToken_of_isToken ht hends
    generalize hcs : written ++ cs = ds at h' hread
    cases h' with
    | nil => rw [readToken_eq_none (by simp)] at hread; contradiction
    | blank hc _ => rw [readToken_eq_none (by simp [hc])] at hread; contradiction
    | token ht' hends' hrest =>
      rw [readToken_of_isToken ht' hends', Option.some.injEq, Prod.mk.injEq] at hread
      obtain ⟨rfl, rfl⟩ := hread
      rw [ih hrest]

theorem Spells.append {cs ds : List Char} {ts us : List Token} (h : Spells cs ts)
    (h' : Spells ds us) (hends : Ends ds) : Spells (cs ++ ds) (ts ++ us) := by
  induction h with
  | nil => exact h'
  | blank hc _ ih => exact .blank hc ih
  | @token written cs t ts ht hword _ ih =>
    rw [List.append_assoc]
    refine .token ht (fun hw c hc => ?_) ih
    cases cs with
    | nil => exact hends c hc
    | cons d cs => exact hword hw c hc

/-! ### Expressions and what they mean -/

structure Comparison where
  field : String
  operator : String
  value : String
deriving DecidableEq

inductive Connective where
  | and
  | or
deriving DecidableEq

namespace Connective

def text : Connective → String
  | and => "AND"
  | or => "OR"

def other : Connective → Connective
  | and => or
  | or => and

def Holds : Connective → Prop → Prop → Prop
  | and => And
  | or => Or

theorem text_injective {c d : Connective} (h : c.text = d.text) : c = d := by
  cases c <;> cases d <;> simp_all [text]

theorem other_ne (c : Connective) : c.other ≠ c := by
  cases c <;> decide

end Connective

inductive Expression where
  | comparison (c : Comparison)
  | joined (c : Connective) (left right : Expression)
deriving DecidableEq

def Expression.Holds (truth : Comparison → Prop) : Expression → Prop
  | comparison c => truth c
  | joined c left right => c.Holds (left.Holds truth) (right.Holds truth)

/-! ### Grammar -/

def isReserved (word : String) : Bool := word == "AND" || word == "OR"

def Comparison.tokens (c : Comparison) : List Token :=
  [.word c.field, .word c.operator, .literal c.value]

/-- The words that join expressions are neither fields nor operators. -/
def Comparison.IsLegal (c : Comparison) : Prop :=
  isReserved c.field = false ∧ isReserved c.operator = false

/-- What may stand outside of parentheses: no connective, only the tighter one, or both. -/
inductive Level where
  | operand
  | tight
  | loose

namespace Level

def connective? (tighter : Connective) : Level → Option Connective
  | operand => none
  | tight => some tighter
  | loose => some tighter.other

def below : Level → Level
  | operand | tight => operand
  | loose => tight

def connectives (tighter : Connective) : Level → List Connective
  | operand => []
  | tight => [tighter]
  | loose => [tighter, tighter.other]

end Level

inductive Reads (tighter : Connective) : Level → List Token → Expression → Prop
  | comparison {c : Comparison} : c.IsLegal → Reads tighter .operand c.tokens (.comparison c)
  | group {ts : List Token} {e : Expression} :
    Reads tighter .loose ts e → Reads tighter .operand (.opening :: ts ++ [.closing]) e
  | one {l : Level} {c : Connective} {ts : List Token} {e : Expression} :
    l.connective? tighter = some c → Reads tighter l.below ts e → Reads tighter l ts e
  | more {l : Level} {c : Connective} {ts us : List Token} {e f : Expression} :
    l.connective? tighter = some c → Reads tighter l.below ts e → Reads tighter l us f →
      Reads tighter l (ts ++ .word c.text :: us) (.joined c e f)

/-- The text is an expression of the level. -/
def IsExpressionAt (tighter : Connective) (l : Level) (s : String) (e : Expression) : Prop :=
  ∃ ts, Spells s.toList ts ∧ Reads tighter l ts e

def IsExpression (tighter : Connective) : String → Expression → Prop :=
  IsExpressionAt tighter .loose

/-! ### One reading at most -/

section Unique

variable {tighter : Connective}

def Stops (tighter : Connective) (l : Level) (ts : List Token) : Prop :=
  ∀ c ∈ l.connectives tighter, ts.head? ≠ some (.word c.text)

theorem Stops.below {l : Level} {ts : List Token} (h : Stops tighter l ts) :
    Stops tighter l.below ts := by
  intro c hc
  refine h c ?_
  cases l <;> simp_all [Level.below, Level.connectives]

theorem stops_connective {l : Level} {c : Connective} (hc : l.connective? tighter = some c)
    (ts : List Token) : Stops tighter l.below (.word c.text :: ts) := by
  intro d hd heq
  have hdc : c = d := Connective.text_injective (by simpa using heq)
  subst hdc
  cases l with
  | operand => simp [Level.connective?] at hc
  | tight => simp [Level.below, Level.connectives] at hd
  | loose =>
    simp only [Level.connective?, Option.some.injEq] at hc
    simp only [Level.below, Level.connectives, List.mem_singleton] at hd
    exact Connective.other_ne tighter (hc.trans hd)

theorem not_stops_connective {l : Level} {c : Connective} (hc : l.connective? tighter = some c)
    (ts : List Token) : ¬ Stops tighter l (.word c.text :: ts) := by
  intro h
  refine h c ?_ rfl
  cases l <;> simp_all [Level.connective?, Level.connectives]

/-- The parts of an expression are found from the front: a shorter one would have to stop before
a connective that it can go on with. -/
theorem Reads.unique_append {l : Level} {ts us rest rest' : List Token} {e f : Expression}
    (h : Reads tighter l ts e) (h' : Reads tighter l us f) (heq : ts ++ rest = us ++ rest')
    (hrest : Stops tighter l rest) (hrest' : Stops tighter l rest') : ts = us ∧ e = f := by
  induction h generalizing us f rest rest' with
  | @comparison c _ =>
    cases h' with
    | @comparison d _ =>
      have hcd : c = d := by
        obtain ⟨_, _, _⟩ := c
        obtain ⟨_, _, _⟩ := d
        simp_all [Comparison.tokens]
      exact ⟨hcd ▸ rfl, hcd ▸ rfl⟩
    | group _ => simp [Comparison.tokens] at heq
    | one hc _ => contradiction
    | more hc _ _ => contradiction
  | group _ ih =>
    cases h' with
    | comparison _ => simp [Comparison.tokens] at heq
    | group h' =>
      obtain ⟨rfl, rfl⟩ := ih h' (by simpa using heq) (by simp [Stops]) (by simp [Stops])
      exact ⟨rfl, rfl⟩
    | one hc _ => contradiction
    | more hc _ _ => contradiction
  | @one l c ts e hc _ ih =>
    cases h' with
    | comparison _ => contradiction
    | group _ => contradiction
    | one _ h' => exact ih h' heq hrest.below hrest'.below
    | more hd h₁ _ =>
      rw [List.append_assoc] at heq
      obtain ⟨rfl, -⟩ := ih h₁ heq hrest.below (stops_connective hd _)
      rw [List.append_cancel_left heq] at hrest
      exact absurd hrest (not_stops_connective hd _)
  | @more l c ts us e f hc _ _ ih ih' =>
    rw [List.append_assoc] at heq
    cases h' with
    | comparison _ => contradiction
    | group _ => contradiction
    | one _ h' =>
      obtain ⟨rfl, -⟩ := ih h' heq (stops_connective hc _) hrest'.below
      rw [← List.append_cancel_left heq] at hrest'
      exact absurd hrest' (not_stops_connective hc _)
    | more hd h₁ h₂ =>
      rw [List.append_assoc] at heq
      obtain ⟨rfl, rfl⟩ := ih h₁ heq (stops_connective hc _) (stops_connective hd _)
      have htail := List.append_cancel_left heq
      simp only [List.cons_append, List.cons.injEq] at htail
      obtain ⟨rfl, rfl⟩ := ih' h₂ htail.2 hrest hrest'
      obtain rfl : c = _ := Option.some.inj (hc.symm.trans hd)
      exact ⟨rfl, rfl⟩

theorem IsExpressionAt.unique {l : Level} {s : String} {e f : Expression}
    (h : IsExpressionAt tighter l s e) (h' : IsExpressionAt tighter l s f) : e = f := by
  obtain ⟨ts, hts, h⟩ := h
  obtain ⟨us, hus, h'⟩ := h'
  obtain rfl := hts.unique hus
  have hend : Stops tighter l [] := by simp [Stops]
  exact (h.unique_append h' rfl hend hend).2

end Unique

end SensorFrames.Filter
