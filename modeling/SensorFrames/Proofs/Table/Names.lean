import Mathlib.Data.Nat.Find
import SensorFrames.Proofs.Text.Casing
import SensorFrames.Table

/-!
Display names. Main statement: two columns are shown under one name just when they have the same
characters at the same places, spaces and underscores taken for the same, but for the case of the
letters that words begin with.
-/

set_option autoImplicit false

namespace SensorFrames.Table

/-! ### Letters -/

def SameLetter (c d : Char) : Prop :=
  c.isAlpha = true ∧ d.isAlpha = true ∧ c.toLower = d.toLower

theorem isAlpha_toUpper (c : Char) : c.toUpper.isAlpha = c.isAlpha :=
  Text.apply_toUpper (f := Char.isAlpha) (by decide) c

theorem isWordChar_toUpper (c : Char) : isWordChar c.toUpper = isWordChar c :=
  Text.apply_toUpper (by decide) c

theorem toUpper_of_not_isAlpha {c : Char} (h : c.isAlpha = false) : c.toUpper = c := by
  rcases Nat.lt_or_ge c.toNat 0x80 with hascii | hother
  · exact Text.forall_ascii (p := fun c => c.isAlpha = false → c.toUpper = c) (by decide) hascii h
  · exact Text.toUpper_of_not_ascii hother

theorem toUpper_eq_iff {c d : Char} : c.toUpper = d.toUpper ↔ c = d ∨ SameLetter c d := by
  constructor
  · intro h
    have hd : d.isAlpha = c.isAlpha := by rw [← isAlpha_toUpper d, ← h, isAlpha_toUpper]
    cases hc : c.isAlpha with
    | true =>
      refine Or.inr ⟨hc, hd.trans hc, ?_⟩
      rw [← Text.toLower_toUpper c, h, Text.toLower_toUpper]
    | false =>
      left
      rw [← toUpper_of_not_isAlpha hc, h, toUpper_of_not_isAlpha (hd.trans hc)]
  · rintro (rfl | ⟨-, -, hlower⟩)
    · rfl
    · rw [← Text.toUpper_toLower c, hlower, Text.toUpper_toLower]

def spaced (c : Char) : Char := if c = '_' then ' ' else c

theorem isWordChar_spaced (c : Char) : isWordChar (spaced c) = isWordChar c := by
  unfold spaced
  split
  · rename_i h
    rw [h]
    decide
  · rfl

theorem spaced_eq_self {c : Char} (h : isWordChar c = true) : spaced c = c := by
  refine if_neg ?_
  rintro rfl
  exact absurd h (by decide)

theorem spaced_spaced (c : Char) : spaced (spaced c) = spaced c := by
  by_cases h : c = '_' <;> simp [spaced, h]

theorem isWordChar_of_isAlpha {c : Char} (h : c.isAlpha = true) : isWordChar c = true :=
  Bool.or_eq_true_iff.mpr (Or.inl h)

/-! ### Words -/

def IsWordAt (cs : List Char) (i : Nat) : Prop := ∃ c, cs[i]? = some c ∧ isWordChar c = true

/-- A maximal run of letters and digits, from the place `start` to the one before `stop`. -/
structure IsWord (cs : List Char) (start stop : Nat) : Prop where
  nonempty : start < stop
  inside : ∀ i, start ≤ i → i < stop → IsWordAt cs i
  before : ∀ i, i + 1 = start → ¬ IsWordAt cs i
  behind : ¬ IsWordAt cs stop

def BeginsWord (cs : List Char) (i : Nat) : Prop := ∃ stop, IsWord cs i stop

theorem beginsWord_iff {cs : List Char} {i : Nat} :
    BeginsWord cs i ↔ IsWordAt cs i ∧ ∀ j, j + 1 = i → ¬ IsWordAt cs j := by
  constructor
  · rintro ⟨stop, hword⟩
    exact ⟨hword.inside i (Nat.le_refl i) hword.nonempty, hword.before⟩
  · rintro ⟨hat, hbefore⟩
    -- The word ends at the first place from here on that has no letter or digit.
    have hend : ∃ stop, i ≤ stop ∧ ¬ IsWordAt cs stop := by
      refine ⟨max i cs.length, Nat.le_max_left i _, fun ⟨c, hc, _⟩ => ?_⟩
      rw [List.getElem?_eq_none (Nat.le_max_right i _)] at hc
      contradiction
    classical
    obtain ⟨hle, hbehind⟩ := Nat.find_spec hend
    refine ⟨Nat.find hend, ?nonempty, ?inside, hbefore, hbehind⟩
    case nonempty => exact lt_of_le_of_ne hle fun heq => hbehind (heq ▸ hat)
    case inside =>
      intro j hij hj
      have hnot := Nat.find_min hend hj
      simpa [hij] using hnot

def wordBefore (inWord : Bool) (cs : List Char) : Nat → Bool
  | 0 => inWord
  | i + 1 => cs[i]?.any isWordChar

theorem any_isWordChar_iff {cs : List Char} {i : Nat} :
    cs[i]?.any isWordChar = true ↔ IsWordAt cs i := by
  simp [IsWordAt, Option.any_eq_true]

theorem beginsWord_iff_of_getElem? {cs : List Char} {i : Nat} {c : Char} (h : cs[i]? = some c) :
    BeginsWord cs i ↔ (isWordChar c && !wordBefore false cs i) = true := by
  have hat : IsWordAt cs i ↔ isWordChar c = true := by simp [← any_isWordChar_iff, h]
  rw [beginsWord_iff, hat, Bool.and_eq_true, Bool.not_eq_true']
  refine and_congr_right fun _ => ?_
  cases i with
  | zero => simp [wordBefore]
  | succ i => simp [wordBefore, ← any_isWordChar_iff]

/-! ### What is shown -/

def shown (inWord : Bool) (c : Char) : Char :=
  if isWordChar c && !inWord then c.toUpper else spaced c

theorem shown_true (c : Char) : shown true c = spaced c := by
  rw [shown, Bool.not_true, Bool.and_false, if_neg Bool.false_ne_true]

theorem shown_false {c : Char} (h : isWordChar c = true) : shown false c = c.toUpper := by
  rw [shown, h, Bool.not_false, Bool.and_self, if_pos rfl]

theorem displayed_cons (inWord : Bool) (c : Char) (rest : List Char) :
    displayed inWord (c :: rest) = shown inWord c :: displayed (isWordChar c) rest := by
  have hc : displayed inWord (c :: rest) =
      (if isWordChar (spaced c) && !inWord then (spaced c).toUpper else spaced c) ::
        displayed (isWordChar (spaced c)) rest := rfl
  rw [hc, isWordChar_spaced, shown]
  cases hword : isWordChar c with
  | true => rw [spaced_eq_self hword]
  | false => rfl

theorem getElem?_displayed (inWord : Bool) (cs : List Char) (i : Nat) :
    (displayed inWord cs)[i]? = cs[i]?.map (shown (wordBefore inWord cs i)) := by
  induction cs generalizing inWord i with
  | nil => rfl
  | cons c cs ih =>
    rw [displayed_cons]
    cases i with
    | zero => rfl
    | succ i =>
      rw [List.getElem?_cons_succ, List.getElem?_cons_succ, ih]
      cases i <;> rfl

theorem length_displayed (inWord : Bool) (cs : List Char) :
    (displayed inWord cs).length = cs.length := by
  induction cs generalizing inWord with
  | nil => rfl
  | cons c cs ih => rw [displayed_cons, List.length_cons, List.length_cons, ih]

theorem isWordChar_shown (inWord : Bool) (c : Char) :
    isWordChar (shown inWord c) = isWordChar c := by
  unfold shown
  split
  · exact isWordChar_toUpper c
  · exact isWordChar_spaced c

/-- Words are at the same places in what is shown. -/
theorem wordBefore_displayed (cs : List Char) (i : Nat) :
    wordBefore false (displayed false cs) i = wordBefore false cs i := by
  cases i with
  | zero => rfl
  | succ i =>
    rw [wordBefore, getElem?_displayed, Option.any_map]
    exact congrArg (cs[i]?.any ·) (funext fun c => isWordChar_shown _ c)

theorem shown_shown (inWord : Bool) (c : Char) :
    shown inWord (shown inWord c) = shown inWord c := by
  rw [shown, isWordChar_shown]
  unfold shown
  split
  · exact Text.apply_toUpper (f := Char.toUpper) (by decide) c
  · exact spaced_spaced c

theorem displayed_displayed (cs : List Char) :
    displayed false (displayed false cs) = displayed false cs := by
  refine List.ext_getElem? fun i => ?_
  rw [getElem?_displayed false (displayed false cs), wordBefore_displayed, getElem?_displayed,
    Option.map_map]
  exact congrArg (cs[i]?.map ·) (funext fun c => shown_shown _ c)

theorem shown_eq_iff {inWord : Bool} {c d : Char} (h : isWordChar c = isWordChar d) :
    shown inWord c = shown inWord d ↔
      spaced c = spaced d ∨ (isWordChar c && !inWord) = true ∧ SameLetter c d := by
  unfold shown
  rw [← h]
  split
  · rename_i hfirst
    have hc : isWordChar c = true := (Bool.and_eq_true_iff.mp hfirst).1
    rw [spaced_eq_self hc, spaced_eq_self (h ▸ hc), toUpper_eq_iff]
    simp [hfirst]
  · rename_i hfirst
    simp [hfirst]

/-- Characters at a place of two columns that are shown alike: the same ones, an underscore taken
for a space, or where a word begins letters that are the same but for their case. -/
def ShownAlike (cs : List Char) (i : Nat) (c d : Char) : Prop :=
  spaced c = spaced d ∨ BeginsWord cs i ∧ SameLetter c d

theorem ShownAlike.isWordChar_eq {cs : List Char} {i : Nat} {c d : Char}
    (h : ShownAlike cs i c d) : isWordChar c = isWordChar d := by
  rcases h with hspaced | ⟨-, hc, hd, -⟩
  · rw [← isWordChar_spaced c, hspaced, isWordChar_spaced]
  · rw [isWordChar_of_isAlpha hc, isWordChar_of_isAlpha hd]

theorem shownAlike_iff {cs : List Char} {i : Nat} {c d : Char} (hc : cs[i]? = some c)
    (hword : isWordChar c = isWordChar d) :
    ShownAlike cs i c d ↔
      shown (wordBefore false cs i) c = shown (wordBefore false cs i) d := by
  rw [shown_eq_iff hword, ShownAlike, beginsWord_iff_of_getElem? hc]

theorem getElem?_cases {cs ds : List Char} (h : cs.length = ds.length) (i : Nat) :
    (cs[i]? = none ∧ ds[i]? = none) ∨ ∃ c d, cs[i]? = some c ∧ ds[i]? = some d := by
  rcases Nat.lt_or_ge i cs.length with hi | hi
  · exact Or.inr ⟨_, _, List.getElem?_eq_getElem hi, List.getElem?_eq_getElem (h ▸ hi)⟩
  · exact Or.inl ⟨List.getElem?_eq_none hi, List.getElem?_eq_none (h ▸ hi)⟩

theorem wordBefore_congr {cs ds : List Char} (hlength : cs.length = ds.length)
    (h : ∀ (i : Nat) (c d : Char), cs[i]? = some c → ds[i]? = some d →
      isWordChar c = isWordChar d) (i : Nat) :
    wordBefore false cs i = wordBefore false ds i := by
  cases i with
  | zero => rfl
  | succ i =>
    rw [wordBefore, wordBefore]
    rcases getElem?_cases hlength i with ⟨hc, hd⟩ | ⟨c, d, hc, hd⟩
    · rw [hc, hd]
    · rw [hc, hd, Option.any_some, Option.any_some, h i c d hc hd]

theorem displayed_eq_iff {cs ds : List Char} :
    displayed false cs = displayed false ds ↔
      cs.length = ds.length ∧
        ∀ i c d, cs[i]? = some c → ds[i]? = some d → ShownAlike cs i c d := by
  constructor
  · intro h
    have hlength : cs.length = ds.length := by
      rw [← length_displayed false cs, h, length_displayed]
    refine ⟨hlength, fun i c d hc hd => ?_⟩
    have hbefore : wordBefore false ds i = wordBefore false cs i := by
      rw [← wordBefore_displayed ds, ← h, wordBefore_displayed]
    have hshown : shown (wordBefore false cs i) c = shown (wordBefore false cs i) d := by
      have hi := congrArg (·[i]?) h
      simpa [getElem?_displayed, hc, hd, hbefore] using hi
    have hword : isWordChar c = isWordChar d := by
      rw [← isWordChar_shown _ c, hshown, isWordChar_shown]
    exact (shownAlike_iff hc hword).mpr hshown
  · rintro ⟨hlength, halike⟩
    have hbefore := wordBefore_congr hlength fun i c d hc hd => (halike i c d hc hd).isWordChar_eq
    refine List.ext_getElem? fun i => ?_
    rw [getElem?_displayed, getElem?_displayed, ← hbefore]
    rcases getElem?_cases hlength i with ⟨hc, hd⟩ | ⟨c, d, hc, hd⟩
    · rw [hc, hd]
    · have hplace := halike i c d hc hd
      rw [hc, hd, Option.map_some, Option.map_some,
        (shownAlike_iff hc hplace.isWordChar_eq).mp hplace]

/-- Columns are shown under one name just when they have as many characters and at each place ones
that are shown alike. A name that is shown is shown as it is, and has as many characters as the
column. -/
theorem displayName_eq_iff (a b : String) :
    (displayName a = displayName b ↔
      a.length = b.length ∧ ∀ i c d, a.toList[i]? = some c → b.toList[i]? = some d →
        ShownAlike a.toList i c d) ∧
    displayName (displayName a) = displayName a ∧ (displayName a).length = a.length := by
  refine ⟨?_, ?_, ?_⟩
  · rw [displayName, displayName, String.ofList_inj, displayed_eq_iff, String.length_toList,
      String.length_toList]
  · rw [displayName, displayName, String.toList_ofList, displayed_displayed]
  · rw [displayName, String.length_ofList, length_displayed, String.length_toList]

example : displayName "parent_name.x" = displayName "Parent name.X" := by decide

end SensorFrames.Table
