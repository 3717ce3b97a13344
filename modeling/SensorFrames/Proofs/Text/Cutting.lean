import SensorFrames.Filter.Clause
import SensorFrames.Text.Reader

/-!
Texts cut at a separator. The parts of a text that was put together are read back from it when no
separator stands in them.
-/

set_option autoImplicit false

namespace SensorFrames.Text

variable {α : Type} [DecidableEq α] {separator : α} {cs : List α}

/-- The text before the first separator and, where there is one, the text after it. -/
def cut (separator : α) (cs : List α) : List α × Option (List α) :=
  (cs.takeWhile (· ≠ separator), (cs.dropWhile (· ≠ separator)).tail?)

theorem isPast_of_not_mem (h : separator ∉ cs) : ∀ c ∈ cs, decide (c ≠ separator) = true := by
  intro c hc
  simpa using fun he : c = separator => h (he ▸ hc)

theorem cut_append (h : separator ∉ cs) (rest : List α) :
    cut separator (cs ++ separator :: rest) = (cs, some rest) := by
  have hcs := isPast_of_not_mem h
  rw [cut, List.takeWhile_append_of_pos hcs, List.dropWhile_append_of_pos hcs]
  simp

theorem cut_of_not_mem (h : separator ∉ cs) : cut separator cs = (cs, none) := by
  have hcs := isPast_of_not_mem h
  have htake : (cs ++ []).takeWhile (· ≠ separator) = cs ++ [] :=
    List.takeWhile_append_of_pos hcs
  have hdrop : (cs ++ []).dropWhile (· ≠ separator) = [] := List.dropWhile_append_of_pos hcs
  rw [List.append_nil] at htake hdrop
  rw [cut, htake, hdrop, List.tail?_nil]

theorem pieces_append (h : separator ∉ cs) (rest : List α) :
    pieces separator (cs ++ separator :: rest) = cs :: pieces separator rest := by
  induction cs with
  | nil => simp [pieces]
  | cons c cs ih =>
    obtain ⟨hc, hcs⟩ := not_or.mp (mt List.mem_cons.mpr h)
    simp [pieces, ih hcs, Ne.symm hc]

theorem pieces_of_not_mem (h : separator ∉ cs) : pieces separator cs = [cs] := by
  induction cs with
  | nil => rfl
  | cons c cs ih =>
    obtain ⟨hc, hcs⟩ := not_or.mp (mt List.mem_cons.mpr h)
    simp [pieces, ih hcs, Ne.symm hc]

theorem pieces_joined {code : String → List α} (hcode : ∀ s t, code (s ++ t) = code s ++ code t)
    {mark : String} (hmark : code mark = [separator]) {texts : List String} (hne : texts ≠ [])
    (h : ∀ t ∈ texts, separator ∉ code t) :
    pieces separator (code (Filter.joined mark texts)) = texts.map code := by
  induction texts with
  | nil => contradiction
  | cons t texts ih =>
    have ht := h t (by simp)
    cases texts with
    | nil => simp [Filter.joined, pieces_of_not_mem ht]
    | cons u texts =>
      have htail := ih (by simp) fun x hx => h x (List.mem_cons_of_mem t hx)
      simp only [Filter.joined, hcode, hmark, List.append_assoc]
      exact (pieces_append ht _).trans (congrArg _ htail)

end SensorFrames.Text
