/-!
Texts in rising order, each once. The order is that of the code points, which is also that of the
bytes of the UTF-8 form. Main statement: the members are those of the list that was given.
-/

set_option autoImplicit false

namespace SensorFrames.Text

def insertOrdered (s : String) : List String → List String
  | [] => [s]
  | t :: rest =>
    if s = t then t :: rest else if s < t then s :: t :: rest else t :: insertOrdered s rest

def ordered (texts : List String) : List String := texts.foldr insertOrdered []

theorem mem_insertOrdered (x s : String) (texts : List String) :
    x ∈ insertOrdered s texts ↔ x = s ∨ x ∈ texts := by
  induction texts with
  | nil => simp [insertOrdered]
  | cons t rest ih =>
    by_cases he : s = t
    · subst he; simp [insertOrdered]
    · by_cases hlt : s < t
      · simp [insertOrdered, he, hlt]
      · simp [insertOrdered, he, hlt, ih, or_left_comm]

theorem mem_ordered (x : String) (texts : List String) : x ∈ ordered texts ↔ x ∈ texts := by
  induction texts with
  | nil => simp [ordered]
  | cons t rest ih =>
    have h : ordered (t :: rest) = insertOrdered t (ordered rest) := rfl
    rw [h, mem_insertOrdered, ih, List.mem_cons]

end SensorFrames.Text
