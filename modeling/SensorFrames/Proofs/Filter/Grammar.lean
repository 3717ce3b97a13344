import SensorFrames.Filter.Clause
import SensorFrames.Text.Reader

/-!
The language of clauses, as a grammar and as a reader. An atom is a field, an operator and a
literal. A clause is an atom, or at least two atoms over one field with `OR` between them, in
parentheses. A filter is empty or has `AND` between its clauses. Main statement: the reader gives
the clauses that the grammar gives, so a text has one reading at most.
-/

set_option autoImplicit false

namespace SensorFrames.Filter

open SensorFrames.Text

/-! ### Grammar -/

/-- A text between single quotes, and what it stands for. -/
inductive IsBody : List Char → List Char → Prop
  | nil : IsBody [] []
  | plain {c : Char} {body value : List Char} (hb : c ≠ '\\') (hq : c ≠ '\'') :
    IsBody body value → IsBody (c :: body) (c :: value)
  | escaped {c : Char} {body value : List Char} :
    IsBody body value → IsBody ('\\' :: c :: body) (c :: value)

inductive IsLiteral : List Char → List Char → Prop
  | quoted {body value : List Char} :
    IsBody body value → IsLiteral ('\'' :: body ++ ['\'']) value

def isFieldChar (c : Char) : Bool := c.isAlphanum || c == '_'

def IsFieldName (cs : List Char) : Prop := cs ≠ [] ∧ cs.all isFieldChar = true

instance : DecidablePred IsFieldName := fun _ => inferInstanceAs (Decidable (_ ∧ _))

structure Atom where
  field : String
  operator : Operator
  value : String
deriving DecidableEq

def Operator.spaced (o : Operator) : List Char := ' ' :: o.text.toList ++ [' ']

def IsAtom (cs : List Char) (a : Atom) : Prop :=
  IsFieldName a.field.toList ∧ ∃ written, IsLiteral written a.value.toList ∧
    cs = a.field.toList ++ (a.operator.spaced ++ written)

/-- One item at least, and the separator between each two. -/
inductive IsSeparated {α : Type} (separator : List Char) (item : List Char → α → Prop) :
    List Char → List α → Prop
  | one {cs : List Char} {x : α} : item cs x → IsSeparated separator item cs [x]
  | more {cs rest : List Char} {x : α} {xs : List α} :
    item cs x → IsSeparated separator item rest xs →
      IsSeparated separator item (cs ++ separator ++ rest) (x :: xs)

def orText : List Char := " OR ".toList

def andText : List Char := " AND ".toList

def Clause.atoms (c : Clause) : List Atom := c.values.map fun v => ⟨c.field, c.operator, v⟩

inductive IsClause : List Char → Clause → Prop
  | bare {cs : List Char} {a : Atom} : IsAtom cs a → IsClause cs ⟨a.field, a.operator, [a.value]⟩
  | group {cs : List Char} {c : Clause} :
    2 ≤ c.values.length → IsSeparated orText IsAtom cs c.atoms → IsClause ('(' :: cs ++ [')']) c

inductive IsFilter : List Char → List Clause → Prop
  | empty : IsFilter [] []
  | clauses {cs : List Char} {found : List Clause} :
    IsSeparated andText IsClause cs found → IsFilter cs found

/-! ### Reader -/

def readField : Reader String := fun cs =>
  match run isFieldChar cs with
  | ([], _) => none
  | (name, rest) => some (String.ofList name, rest)

def readOperator : Reader Operator := fun cs =>
  match afterWord Operator.equals.spaced cs with
  | some rest => some (.equals, rest)
  | none => (afterWord Operator.contains.spaced cs).map (Operator.contains, ·)

def readAtom : Reader Atom := fun cs => do
  let (field, rest) ← readField cs
  let (operator, rest) ← readOperator rest
  let (value, rest) ← scanLiteral rest
  some (⟨field, operator, String.ofList value⟩, rest)

/-- As many items as separators are followed by one. A separator without an item is an error. -/
def readUpTo {α : Type} (separator : List Char) (item : Reader α) : Nat → Reader (List α)
  | 0, _ => none
  | bound + 1, cs => do
    let (x, rest) ← item cs
    match afterWord separator rest with
    | none => some ([x], rest)
    | some rest => do
      let (xs, rest) ← readUpTo separator item bound rest
      some (x :: xs, rest)

/-- The length of the text bounds the number of items, each of which takes a character. -/
def readSeparated {α : Type} (separator : List Char) (item : Reader α) : Reader (List α) :=
  fun cs => readUpTo separator item cs.length cs

/-- The clause that offers the atoms: two at least, over one field and operator. -/
def clauseOf? : List Atom → Option Clause
  | a :: b :: more =>
    if ∀ x ∈ b :: more, x.field = a.field ∧ x.operator = a.operator then
      some ⟨a.field, a.operator, (a :: b :: more).map (·.value)⟩
    else none
  | _ => none

def readClause : Reader Clause := fun cs =>
  match skipped '(' cs with
  | none => (readAtom cs).map fun r => (⟨r.1.field, r.1.operator, [r.1.value]⟩, r.2)
  | some inner => do
    let (atoms, rest) ← readSeparated orText readAtom inner
    let clause ← clauseOf? atoms
    let rest ← skipped ')' rest
    some (clause, rest)

def readFilter : List Char → Option (List Clause)
  | [] => some []
  | cs => match readSeparated andText readClause cs with
    | some (found, []) => some found
    | _ => none

def parse (s : String) : Option (List Clause) := readFilter s.toList

/-! ### What the readers accept -/

/-- The reader takes exactly the texts of the class off the front, whatever follows them. -/
def Accepts {α : Type} (reader : Reader α) (item : List Char → α → Prop) : Prop :=
  ∀ cs x rest, reader cs = some (x, rest) ↔ ∃ taken, cs = taken ++ rest ∧ item taken x

theorem scanBody_eq_some {cs value rest : List Char} :
    scanBody cs = some (value, rest) ↔ ∃ body, cs = body ++ '\'' :: rest ∧ IsBody body value := by
  constructor
  · intro h
    induction cs using scanBody.induct generalizing value with
    | case1 => simp [scanBody] at h
    | case2 tail =>
      simp only [scanBody, Option.some.injEq, Prod.mk.injEq] at h
      obtain ⟨rfl, rfl⟩ := h
      exact ⟨[], rfl, .nil⟩
    | case3 c tail ih =>
      simp only [scanBody, Option.map_eq_some_iff, Prod.mk.injEq] at h
      obtain ⟨⟨v, r⟩, hr, rfl, rfl⟩ := h
      obtain ⟨body, rfl, hbody⟩ := ih hr
      exact ⟨'\\' :: c :: body, rfl, .escaped hbody⟩
    | case4 c tail hq hb ih =>
      rw [scanBody.eq_4 _ _ hq hb] at h
      simp only [Option.map_eq_some_iff, Prod.mk.injEq] at h
      obtain ⟨⟨v, r⟩, hr, rfl, rfl⟩ := h
      obtain ⟨body, rfl, hbody⟩ := ih hr
      -- A backslash here would have a character to escape: the closing quote at least.
      have hc : c ≠ '\\' := by
        intro hc
        cases body with
        | nil => exact hb _ _ hc rfl
        | cons b body => exact hb _ _ hc rfl
      exact ⟨c :: body, rfl, .plain hc hq hbody⟩
  · rintro ⟨body, rfl, h⟩
    induction h with
    | nil => rfl
    | @plain c body value hb hq _ ih =>
      rw [List.cons_append, scanBody.eq_4 _ _ hq (fun _ _ hc => absurd hc hb), ih]
      rfl
    | @escaped c body value _ ih => simp [scanBody, ih]

theorem accepts_literal : Accepts scanLiteral IsLiteral := by
  intro cs value rest
  constructor
  · intro h
    unfold scanLiteral at h
    split at h
    · obtain ⟨body, rfl, hbody⟩ := scanBody_eq_some.mp h
      exact ⟨'\'' :: body ++ ['\''], by simp, .quoted hbody⟩
    · contradiction
  · rintro ⟨_, rfl, @⟨body, _, hbody⟩⟩
    have h : scanBody (body ++ '\'' :: rest) = some (value, rest) :=
      scanBody_eq_some.mpr ⟨body, rfl, hbody⟩
    simpa [scanLiteral] using h

theorem readField_of_isFieldName {name rest : List Char} (h : IsFieldName name) :
    readField (name ++ ' ' :: rest) = some (String.ofList name, ' ' :: rest) := by
  have hrun : run isFieldChar (name ++ ' ' :: rest) = (name, ' ' :: rest) := by
    have hchars := List.all_eq_true.mp h.2
    simp only [run, List.takeWhile_append_of_pos hchars, List.dropWhile_append_of_pos hchars]
    simp [isFieldChar]
  unfold readField
  rw [hrun]
  obtain ⟨c, name, rfl⟩ := List.exists_cons_of_ne_nil h.1
  rfl

theorem isFieldName_of_readField {cs rest : List Char} {name : String}
    (h : readField cs = some (name, rest)) :
    cs = name.toList ++ rest ∧ IsFieldName name.toList := by
  unfold readField at h
  split at h
  · contradiction
  · rename_i taken left hne hrun
    simp only [run, Prod.mk.injEq] at hrun
    simp only [Option.some.injEq, Prod.mk.injEq] at h
    obtain ⟨rfl, rfl⟩ := h
    rw [String.toList_ofList]
    refine ⟨?_, fun he => hne he, ?_⟩
    · rw [← hrun.1, ← hrun.2, List.takeWhile_append_dropWhile]
    · rw [← hrun.1]
      exact List.all_takeWhile

theorem readOperator_eq_some {cs rest : List Char} {o : Operator} :
    readOperator cs = some (o, rest) ↔ cs = o.spaced ++ rest := by
  unfold readOperator
  cases he : afterWord Operator.equals.spaced cs with
  | some tail =>
    obtain rfl := afterWord_eq_some.mp he
    cases o <;> simp [Operator.spaced, Operator.text]
  | none =>
    have hne : cs ≠ Operator.equals.spaced ++ rest := by
      intro h
      rw [afterWord_eq_some.mpr h] at he
      contradiction
    cases o <;> simp [hne, afterWord_eq_some]

theorem accepts_atom : Accepts readAtom IsAtom := by
  intro cs a rest
  constructor
  · intro h
    simp only [readAtom, Option.bind_eq_bind, Option.bind_eq_some_iff] at h
    obtain ⟨⟨name, cs₁⟩, hname, ⟨o, cs₂⟩, ho, ⟨value, cs₃⟩, hvalue, h⟩ := h
    obtain ⟨rfl, rfl⟩ := h
    obtain ⟨rfl, hfield⟩ := isFieldName_of_readField hname
    obtain ⟨written, rfl, hwritten⟩ := (accepts_literal _ _ _).mp hvalue
    obtain rfl := readOperator_eq_some.mp ho
    exact ⟨name.toList ++ (o.spaced ++ written), by simp, hfield, written, by simpa using hwritten,
      rfl⟩
  · rintro ⟨_, rfl, hfield, written, hwritten, rfl⟩
    have hname : readField (a.field.toList ++ (a.operator.spaced ++ (written ++ rest))) =
        some (a.field, a.operator.spaced ++ (written ++ rest)) := by
      simpa [Operator.spaced] using readField_of_isFieldName hfield
    have hoperator : readOperator (a.operator.spaced ++ (written ++ rest)) =
        some (a.operator, written ++ rest) := readOperator_eq_some.mpr rfl
    have hvalue : scanLiteral (written ++ rest) = some (a.value.toList, rest) :=
      (accepts_literal _ _ _).mpr ⟨written, rfl, hwritten⟩
    simp [readAtom, hname, hoperator, hvalue]

/-! ### Lists of items -/

section Separated

variable {α : Type} {separator : List Char} {reader : Reader α} {item : List Char → α → Prop}

theorem IsSeparated.ne_nil (hne : ∀ cs x, item cs x → cs ≠ []) {cs : List Char} {xs : List α}
    (h : IsSeparated separator item cs xs) : cs ≠ [] := by
  cases h with
  | one hx => exact hne _ _ hx
  | more hx _ => simp [hne _ _ hx]

theorem readUpTo_sound (haccepts : Accepts reader item) {bound : Nat} {cs rest : List Char}
    {xs : List α} (h : readUpTo separator reader bound cs = some (xs, rest)) :
    afterWord separator rest = none ∧
      ∃ taken, cs = taken ++ rest ∧ IsSeparated separator item taken xs := by
  induction bound generalizing cs xs with
  | zero => simp [readUpTo] at h
  | succ bound ih =>
    simp only [readUpTo, Option.bind_eq_bind, Option.bind_eq_some_iff] at h
    obtain ⟨⟨x, cs₁⟩, hx, h⟩ := h
    obtain ⟨first, rfl, hfirst⟩ := (haccepts _ _ _).mp hx
    split at h
    · rename_i hend
      simp only [Option.some.injEq, Prod.mk.injEq] at h
      obtain ⟨rfl, rfl⟩ := h
      exact ⟨hend, first, rfl, .one hfirst⟩
    · rename_i cs₂ hmore
      simp only [Option.bind_eq_some_iff] at h
      obtain ⟨⟨ys, cs₃⟩, hys, h⟩ := h
      simp only [Option.some.injEq, Prod.mk.injEq] at h
      obtain ⟨rfl, rfl⟩ := h
      obtain ⟨hend, taken, rfl, htaken⟩ := ih hys
      obtain rfl := afterWord_eq_some.mp hmore
      exact ⟨hend, first ++ separator ++ taken, by simp, .more hfirst htaken⟩

theorem readUpTo_complete (haccepts : Accepts reader item) (hne : ∀ cs x, item cs x → cs ≠ [])
    {taken : List Char} {xs : List α} (h : IsSeparated separator item taken xs)
    {rest : List Char} (hend : afterWord separator rest = none) {bound : Nat}
    (hbound : taken.length ≤ bound) :
    readUpTo separator reader bound (taken ++ rest) = some (xs, rest) := by
  -- No item is empty, so each of them takes at least one from the bound.
  induction h generalizing bound with
  | @one cs x hx =>
    have hpos := List.length_pos_iff.mpr (hne _ _ hx)
    obtain ⟨bound, rfl⟩ : ∃ n, bound = n + 1 := ⟨bound - 1, by omega⟩
    have hread : reader (cs ++ rest) = some (x, rest) := (haccepts _ _ _).mpr ⟨cs, rfl, hx⟩
    simp [readUpTo, hread, hend]
  | @more cs tail x xs hx _ ih =>
    have hpos := List.length_pos_iff.mpr (hne _ _ hx)
    simp only [List.length_append] at hbound
    obtain ⟨bound, rfl⟩ : ∃ n, bound = n + 1 := ⟨bound - 1, by omega⟩
    have hread : reader (cs ++ (separator ++ (tail ++ rest))) =
        some (x, separator ++ (tail ++ rest)) := (haccepts _ _ _).mpr ⟨cs, rfl, hx⟩
    have htail : readUpTo separator reader bound (tail ++ rest) = some (xs, rest) :=
      ih (by omega)
    simp [readUpTo, hread, afterWord_append, htail]

theorem readSeparated_eq_some (haccepts : Accepts reader item)
    (hne : ∀ cs x, item cs x → cs ≠ []) {cs rest : List Char} {xs : List α} :
    readSeparated separator reader cs = some (xs, rest) ↔
      afterWord separator rest = none ∧
        ∃ taken, cs = taken ++ rest ∧ IsSeparated separator item taken xs := by
  constructor
  · exact readUpTo_sound haccepts
  · rintro ⟨hend, taken, rfl, h⟩
    exact readUpTo_complete haccepts hne h hend (by simp)

end Separated

/-! ### Clauses -/

theorem IsAtom.ne_nil {cs : List Char} {a : Atom} (h : IsAtom cs a) : cs ≠ [] := by
  obtain ⟨hfield, _, _, rfl⟩ := h
  simp [hfield.1]

theorem IsAtom.skipped_eq_none {cs : List Char} {a : Atom} (h : IsAtom cs a) (rest : List Char) :
    skipped '(' (cs ++ rest) = none := by
  obtain ⟨⟨hne, hchars⟩, written, -, rfl⟩ := h
  obtain ⟨c, name, hname⟩ := List.exists_cons_of_ne_nil hne
  have hc : c ≠ '(' := by
    rintro rfl
    have hp : isFieldChar '(' = true := List.all_eq_true.mp hchars '(' (by simp [hname])
    exact absurd hp (by decide)
  simp [hname, skipped, hc]

theorem IsClause.ne_nil {cs : List Char} {c : Clause} (h : IsClause cs c) : cs ≠ [] := by
  cases h with
  | bare ha => exact ha.ne_nil
  | group _ _ => simp

theorem atoms_eq_of_forall {field : String} {operator : Operator} {atoms : List Atom}
    (h : ∀ x ∈ atoms, x.field = field ∧ x.operator = operator) :
    atoms = Clause.atoms ⟨field, operator, atoms.map (·.value)⟩ := by
  have hself : ∀ x ∈ atoms, (⟨field, operator, x.value⟩ : Atom) = x := by
    intro x hx
    obtain ⟨rfl, rfl⟩ := h x hx
    rfl
  calc atoms = atoms.map id := (List.map_id atoms).symm
    _ = atoms.map fun x => ⟨field, operator, x.value⟩ :=
      List.map_congr_left fun x hx => (hself x hx).symm
    _ = Clause.atoms ⟨field, operator, atoms.map (·.value)⟩ := by simp [Clause.atoms]

theorem clauseOf?_eq_some {atoms : List Atom} {c : Clause} :
    clauseOf? atoms = some c ↔ 2 ≤ c.values.length ∧ atoms = c.atoms := by
  constructor
  · intro h
    unfold clauseOf? at h
    split at h
    · rename_i a b more
      split at h
      · rename_i hsame
        simp only [Option.some.injEq] at h
        subst h
        exact ⟨by simp, atoms_eq_of_forall (by simpa using hsame)⟩
      · contradiction
    · contradiction
  · rintro ⟨hlen, rfl⟩
    obtain ⟨field, operator, values⟩ := c
    match values, hlen with
    | v :: w :: more, _ => simp [Clause.atoms, clauseOf?, Function.comp_def]

theorem accepts_clause : Accepts readClause IsClause := by
  intro cs c rest
  constructor
  · intro h
    unfold readClause at h
    split at h
    · simp only [Option.map_eq_some_iff, Prod.mk.injEq] at h
      obtain ⟨⟨a, cs₁⟩, ha, rfl, rfl⟩ := h
      obtain ⟨taken, rfl, htaken⟩ := (accepts_atom _ _ _).mp ha
      exact ⟨taken, rfl, .bare htaken⟩
    · rename_i inner hopen
      obtain rfl := skipped_eq_some.mp hopen
      simp only [Option.bind_eq_bind, Option.bind_eq_some_iff] at h
      obtain ⟨⟨atoms, cs₁⟩, hatoms, d, hd, cs₂, hclose, h⟩ := h
      simp only [Option.some.injEq, Prod.mk.injEq] at h
      obtain ⟨rfl, rfl⟩ := h
      obtain rfl := skipped_eq_some.mp hclose
      obtain ⟨hlen, rfl⟩ := clauseOf?_eq_some.mp hd
      obtain ⟨-, taken, rfl, htaken⟩ :=
        (readSeparated_eq_some accepts_atom (fun _ _ => IsAtom.ne_nil)).mp hatoms
      exact ⟨'(' :: taken ++ [')'], by simp, .group hlen htaken⟩
  · rintro ⟨taken, rfl, h⟩
    cases h with
    | @bare _ a ha =>
      have hread : readAtom (taken ++ rest) = some (a, rest) :=
        (accepts_atom _ _ _).mpr ⟨taken, rfl, ha⟩
      simp [readClause, ha.skipped_eq_none, hread]
    | @group inner _ hlen hatoms =>
      have hread : readSeparated orText readAtom (inner ++ ')' :: rest) =
          some (c.atoms, ')' :: rest) :=
        (readSeparated_eq_some accepts_atom (fun _ _ => IsAtom.ne_nil)).mpr
          ⟨rfl, inner, rfl, hatoms⟩
      have hclause : clauseOf? c.atoms = some c := clauseOf?_eq_some.mpr ⟨hlen, rfl⟩
      simp [readClause, skipped, hread, hclause]

theorem readFilter_eq_some {cs : List Char} {found : List Clause} :
    readFilter cs = some found ↔ IsFilter cs found := by
  have hread := @readSeparated_eq_some _ andText _ _ accepts_clause (fun _ _ => IsClause.ne_nil)
  cases cs with
  | nil =>
    constructor
    · intro h
      obtain rfl : [] = found := Option.some.inj h
      exact .empty
    · rintro (_ | h)
      · rfl
      · exact absurd rfl (h.ne_nil fun _ _ => IsClause.ne_nil)
  | cons d cs =>
    constructor
    · intro h
      simp only [readFilter] at h
      split at h
      · rename_i xs hxs
        obtain rfl : xs = found := Option.some.inj h
        obtain ⟨-, taken, htaken, hxs⟩ := hread.mp hxs
        rw [htaken, List.append_nil]
        exact .clauses hxs
      · contradiction
    · rintro (_ | h)
      have hall : readSeparated andText readClause (d :: cs) = some (found, []) :=
        hread.mpr ⟨rfl, d :: cs, by simp, h⟩
      simp only [readFilter, hall]

/-- A text has the reading that the grammar gives it, and no other. -/
theorem parse_eq_some {s : String} {found : List Clause} :
    parse s = some found ↔ IsFilter s.toList found :=
  readFilter_eq_some

end SensorFrames.Filter
