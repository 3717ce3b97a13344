/-!
Readers take a value off the front of a text and give the rest. The one for lists is bounded by the
length of the text, which suffices since an item takes at least one character.
-/

set_option autoImplicit false

namespace SensorFrames.Text

abbrev Reader (α : Type) := List Char → Option (α × List Char)

def skipped (c : Char) : List Char → Option (List Char)
  | [] => none
  | d :: rest => if d = c then some rest else none

def afterWord : List Char → List Char → Option (List Char)
  | [], rest => some rest
  | _ :: _, [] => none
  | w :: word, c :: rest => if w = c then afterWord word rest else none

theorem skipped_eq_some {c : Char} {cs rest : List Char} :
    skipped c cs = some rest ↔ cs = c :: rest := by
  cases cs with
  | nil => simp [skipped]
  | cons d cs => simp [skipped]

theorem afterWord_eq_some {word cs rest : List Char} :
    afterWord word cs = some rest ↔ cs = word ++ rest := by
  induction word generalizing cs with
  | nil => simp [afterWord]
  | cons w word ih =>
    cases cs with
    | nil => simp [afterWord]
    | cons c cs =>
      by_cases h : w = c
      · simp [afterWord, h, ih]
      · simp [afterWord, h, Ne.symm h]

theorem afterWord_append (word rest : List Char) : afterWord word (word ++ rest) = some rest :=
  afterWord_eq_some.mpr rfl

def run (p : Char → Bool) (cs : List Char) : List Char × List Char :=
  (cs.takeWhile p, cs.dropWhile p)

def pieces {α : Type} [DecidableEq α] (separator : α) : List α → List (List α)
  | [] => [[]]
  | x :: rest =>
    if x = separator then [] :: pieces separator rest
    else match pieces separator rest with
      | [] => [[x]]
      | piece :: more => (x :: piece) :: more

def isDigit (c : Char) : Bool := decide ('0' ≤ c) && decide (c ≤ '9')

def digitValue (c : Char) : Nat := c.toNat - 0x30

def hexDigitValue? (c : Char) : Option Nat :=
  if isDigit c then some (digitValue c)
  else if 'a' ≤ c ∧ c ≤ 'f' then some (c.toNat - 0x57)
  else if 'A' ≤ c ∧ c ≤ 'F' then some (c.toNat - 0x37)
  else none

def isDigitOf (base : Nat) (c : Char) : Bool :=
  match hexDigitValue? c with
  | some n => decide (n < base)
  | none => false

def numeral (base : Nat) (cs : List Char) : Nat :=
  cs.foldl (fun n c => base * n + (hexDigitValue? c).getD 0) 0

/-- At least one item, with commas between, up to the closing character; `gap` may stand on both
sides of an item. -/
def readItems {α : Type} (gap : List Char → List Char) (item : Reader α) (close : Char) :
    Nat → Reader (List α)
  | 0, _ => none
  | bound + 1, cs => do
    let (x, rest) ← item (gap cs)
    match gap rest with
    | [] => none
    | c :: rest =>
      if c = close then some ([x], rest)
      else if c = ',' then do
        let (xs, rest) ← readItems gap item close bound rest
        some (x :: xs, rest)
      else none

end SensorFrames.Text
