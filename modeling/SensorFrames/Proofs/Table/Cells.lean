import SensorFrames.Proofs.Text.Cutting
import SensorFrames.Table

/-!
Cells of a record. Under the column of the status it is the priority, under another column without
a dot the value of that key, and under one with a dot the member of the object that the part before
the first dot leads to.
-/

set_option autoImplicit false

namespace SensorFrames.Table

theorem splitAtDot_eq_cut (column : String) :
    splitAtDot column = (Text.cut '.' column.toList).2.map fun child =>
      (String.ofList (Text.cut '.' column.toList).1, String.ofList child) := by
  have hpast : (fun c : Char => decide (c ≠ '.')) = (· != '.') := by
    funext c
    by_cases hc : c = '.' <;> simp [hc]
  rw [splitAtDot, Text.cut, hpast]
  cases column.toList.dropWhile (· != '.') <;> rfl

theorem splitAtDot_eq_none {column : String} (h : '.' ∉ column.toList) :
    splitAtDot column = none := by
  rw [splitAtDot_eq_cut, Text.cut_of_not_mem h, Option.map_none]

theorem splitAtDot_append {parent : String} (h : '.' ∉ parent.toList) (child : String) :
    splitAtDot (parent ++ "." ++ child) = some (parent, child) := by
  have hchars : (parent ++ "." ++ child).toList = parent.toList ++ '.' :: child.toList := by
    simp [String.toList_append]
  rw [splitAtDot_eq_cut, hchars, Text.cut_append h]
  simp

theorem cell_status (r : Record) :
    cell r statusColumn = .ofNat (Status.priorityOf (r.get? statusColumn)) := if_pos rfl

theorem cell_plain {column : String} (hne : column ≠ statusColumn) (h : '.' ∉ column.toList)
    (r : Record) : cell r column = (r.get? column).getD .null := by
  rw [cell, if_neg hne, lookup, splitAtDot_eq_none h]

theorem cell_path {parent : String} (h : '.' ∉ parent.toList) (child : String) (r : Record) :
    cell r (parent ++ "." ++ child) = ((r.get? parent).bind (·.member? child)).getD .null := by
  have hne : parent ++ "." ++ child ≠ statusColumn := by
    intro heq
    have hdot : '.' ∈ (parent ++ "." ++ child).toList := by simp [String.toList_append]
    rw [heq] at hdot
    exact absurd hdot (by decide)
  rw [cell, if_neg hne, lookup, splitAtDot_append h]

end SensorFrames.Table
