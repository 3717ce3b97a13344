import Mathlib.Tactic.Tauto
import SensorFrames.Proofs.Query.Distinct

/-!
The columns that a table asks its server for. Main statement: they are the requested ones, each at
its first occurrence, and asking for just these makes no difference.
-/

set_option autoImplicit false

namespace SensorFrames.Query

theorem fetchColumns_of_nil {q : Query} (hview : q.viewMode = .table)
    (h : q.requestedColumns = []) : q.fetchColumns = none := by
  simp [fetchColumns, hview, h]

theorem fetchColumns_of_ne_nil {q : Query} (hview : q.viewMode = .table)
    (h : q.requestedColumns ≠ []) : q.fetchColumns = some (distinct q.requestedColumns) := by
  obtain ⟨c, cs, hcons⟩ := List.exists_cons_of_ne_nil h
  simp [fetchColumns, hview, hcons]

theorem requestedColumns_without {q : Query} (h : q.requestedColumns = []) :
    { q with columns := none }.requestedColumns = [] := by
  unfold requestedColumns at h ⊢
  split at h
  · contradiction
  · exact h

theorem requestedColumns_with (q : Query) {columns : List String} (h : columns ≠ []) :
    { q with columns := some columns }.requestedColumns = columns := by
  obtain ⟨c, cs, rfl⟩ := List.exists_cons_of_ne_nil h
  rfl

theorem fetchColumns_exact {q : Query} (hview : q.viewMode = .table) :
    (q.fetchColumns = none ↔ q.requestedColumns = []) ∧
    (∀ columns, q.fetchColumns = some columns ↔
      q.requestedColumns ≠ [] ∧ FirstOccurrences q.requestedColumns columns) ∧
    q.fetchColumns.map distinct = q.fetchColumns ∧
    { q with columns := q.fetchColumns }.fetchColumns = q.fetchColumns := by
  by_cases hnil : q.requestedColumns = []
  · have hnone := fetchColumns_of_nil hview hnil
    have hresent := fetchColumns_of_nil (q := { q with columns := none }) hview
      (requestedColumns_without hnil)
    simp [hnone, hnil, hresent]
  · have hsome := fetchColumns_of_ne_nil hview hnil
    have hfirst := firstOccurrences_distinct q.requestedColumns
    have hagain := distinct_of_nodup hfirst.nodup
    have hne : distinct q.requestedColumns ≠ [] := by
      obtain ⟨c, hc⟩ := List.exists_mem_of_ne_nil _ hnil
      exact List.ne_nil_of_mem ((hfirst.mem_iff c).mpr hc)
    have hrequested := requestedColumns_with q hne
    have hresent := fetchColumns_of_ne_nil (q := { q with columns := some _ }) hview
      (hrequested.trans_ne hne)
    rw [hrequested, hagain] at hresent
    refine ⟨by simp [hsome, hnil], fun columns => ?_, by rw [hsome, Option.map_some, hagain], ?_⟩
    · rw [hsome, Option.some.injEq]
      exact ⟨fun h => ⟨hnil, h ▸ hfirst⟩, fun h => hfirst.unique h.2⟩
    · rw [hsome, hresent]

def repeatedColumns : Query where
  preset := some .full
  columns := some ["name", "status", "name", "group"]

theorem repeated_columns_sent_once :
    repeatedColumns.viewMode = .table ∧
      repeatedColumns.fetchColumns = some ["name", "status", "group"] ∧
      { repeatedColumns with columns := some ["name", "status", "group"] }.fetchColumns =
        some ["name", "status", "group"] := by
  obtain ⟨-, hsent, -, hresent⟩ := fetchColumns_exact (q := repeatedColumns) rfl
  have hfetched : repeatedColumns.fetchColumns = some ["name", "status", "group"] := by
    refine (hsent _).mpr ⟨by decide, by decide, fun c => ?_, by decide⟩
    simp only [repeatedColumns, requestedColumns, List.mem_cons, List.not_mem_nil, or_false]
    tauto
  rw [hfetched] at hresent
  exact ⟨rfl, hfetched, hresent⟩

end SensorFrames.Query
